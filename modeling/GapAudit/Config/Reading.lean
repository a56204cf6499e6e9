import GapAudit.Config.Basic
import GapAudit.Json.Value

/-!
Reading a configuration from data, whatever its notation.
-/

namespace GapAudit

/-- How the values of a notation are taken apart. -/
structure ValueReader (V : Type) where
  /-- The values of the named fields of a record. -/
  fields : List String → V → Option (List (Option V))
  list : V → Option (List V)
  text : V → Option String
  number : V → Option Float
  bool : V → Option Bool

def Json.readers : ValueReader Json where
  fields := Json.toFields?
  list := Json.toList? some
  text := Json.toString?
  number := Json.toFloat?
  bool := Json.toBool?

namespace ValueReader

variable {V : Type}

def texts (n : ValueReader V) (value : V) : Option (List String) :=
  n.list value >>= List.mapM n.text

/-- What a field denotes, or its default where the field is missing. -/
def orDefault {β : Type} (read : V → Option β) (default : β) : Option V → Option β
  | none => some default
  | some value => read value

def layout (n : ValueReader V) (value : V) : Option Layout := do
  let d : Layout := {}
  match ← n.fields ["source_root", "components_dir", "ui_kit_dir", "pages_dir", "services_dir",
    "types_dir", "utility_dirs", "app_root", "manifest", "alias_prefix", "alias_root"] value with
  | [sourceRoot, componentsDir, uiKitDir, pagesDir, servicesDir, typesDir, utilityDirs, appRoot,
      manifest, aliasPrefix, aliasRoot] =>
    return {
      sourceRoot := ← orDefault n.text d.sourceRoot sourceRoot
      componentsDir := ← orDefault n.text d.componentsDir componentsDir
      uiKitDir := ← orDefault n.text d.uiKitDir uiKitDir
      pagesDir := ← orDefault n.text d.pagesDir pagesDir
      servicesDir := ← orDefault n.text d.servicesDir servicesDir
      typesDir := ← orDefault n.text d.typesDir typesDir
      utilityDirs := ← orDefault n.texts d.utilityDirs utilityDirs
      appRoot := ← orDefault n.text d.appRoot appRoot
      manifest := ← orDefault n.text d.manifest manifest
      aliasPrefix := ← orDefault n.text d.aliasPrefix aliasPrefix
      aliasRoot := ← orDefault n.text d.aliasRoot aliasRoot }
  | _ => none

def skeleton (n : ValueReader V) (value : V) : Option Skeleton := do
  let d : Skeleton := {}
  match ← n.fields ["required_directories", "required_files", "route_exclusions"] value with
  | [directories, files, exclusions] =>
    return {
      requiredDirectories := ← orDefault n.texts d.requiredDirectories directories
      requiredFiles := ← orDefault n.texts d.requiredFiles files
      routeExclusions := ← orDefault n.texts d.routeExclusions exclusions }
  | _ => none

def feature (n : ValueReader V) (value : V) : Option Feature := do
  match ← n.fields ["name", "description", "components", "services", "types", "pages"] value with
  | [name, description, components, services, types, pages] =>
    return {
      name := ← orDefault n.text "" name
      description := ← orDefault n.text "" description
      components := ← orDefault n.texts [] components
      services := ← orDefault n.texts [] services
      types := ← orDefault n.texts [] types
      pages := ← orDefault n.texts [] pages }
  | _ => none

def typecheck (n : ValueReader V) (value : V) : Option TypecheckSettings := do
  let d : TypecheckSettings := {}
  match ← n.fields ["enabled", "command"] value with
  | [enabled, command] =>
    return {
      enabled := ← orDefault n.bool d.enabled enabled
      command := ← orDefault n.texts d.command command }
  | _ => none

def weights (n : ValueReader V) (value : V) : Option (WorkWeights Float) := do
  let d : WorkWeights Float := .standard
  match ← n.fields ["critical", "high", "medium", "low"] value with
  | [critical, high, medium, low] =>
    return {
      critical := ← orDefault n.number d.critical critical
      high := ← orDefault n.number d.high high
      medium := ← orDefault n.number d.medium medium
      low := ← orDefault n.number d.low low }
  | _ => none

def scoring (n : ValueReader V) (value : V) : Option ScoringSettings := do
  let d : ScoringSettings := {}
  match ← n.fields ["work_weights", "readiness_threshold"] value with
  | [workWeights, threshold] =>
    return {
      workWeights := ← orDefault n.weights d.workWeights workWeights
      readinessThreshold := ← orDefault n.number d.readinessThreshold threshold }
  | _ => none

/-- The configuration that a value denotes. Missing fields keep their defaults. -/
def config (n : ValueReader V) (value : V) : Option Config := do
  let d : Config := {}
  match ← n.fields ["layout", "structure", "features", "orphan_allowlist", "typecheck", "scoring",
    "excluded_paths", "analyzers"] value with
  | [layout, skeleton, features, allowlist, typecheck, scoring, excluded, analyzers] =>
    return {
      layout := ← orDefault n.layout d.layout layout
      skeleton := ← orDefault n.skeleton d.skeleton skeleton
      features := ← orDefault (fun v => n.list v >>= List.mapM n.feature) d.features features
      orphanAllowlist := ← orDefault n.texts d.orphanAllowlist allowlist
      typecheck := ← orDefault n.typecheck d.typecheck typecheck
      scoring := ← orDefault n.scoring d.scoring scoring
      excludedPaths := ← orDefault n.texts d.excludedPaths excluded
      analyzers := ← orDefault n.texts d.analyzers analyzers }
  | _ => none

end ValueReader

def Config.ofJson? (value : Json) : Option Config :=
  Json.readers.config value

end GapAudit
