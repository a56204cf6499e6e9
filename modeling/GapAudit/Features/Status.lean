import GapAudit.Config.Basic
import GapAudit.Gap
import GapAudit.Project
import GapAudit.Text.Case
import GapAudit.Text.Word

/-!
How much of a feature exists: what a project contains, indexed by kind, and what of the required
things is missing.
-/

namespace GapAudit

open Arithmetic Text

namespace ArtifactKind

def all : List ArtifactKind :=
  [.component, .service, .type, .page]

def plural : ArtifactKind → String
  | .component => "components"
  | .service => "services"
  | .type => "types"
  | .page => "pages"

/-- Where a thing of a kind usually lies. -/
def usualPath (kind : ArtifactKind) (layout : Layout) (name : String) : String :=
  match kind with
  | .component => s!"{layout.componentsDir}/{name}.tsx"
  | .service => s!"{layout.servicesDir}/{name}.ts"
  | .type => s!"{layout.typesDir}/index.ts"
  | .page => s!"{layout.pagesDir}/{name}.tsx"

end ArtifactKind

structure ArtifactIndex where
  /-- The base names of component files. -/
  componentNames : List String
  /-- The stems of source files. -/
  sourceStems : List String
  /-- The names of declared types in lower case. -/
  typeNames : List String
  deriving DecidableEq, Repr

namespace ArtifactIndex

/-- The name of a type declared at the head of a text, and what follows it. -/
def typeNameAt? (before : Option Char) (s : List Char) : Option (List Char × List Char) := do
  nameAt? (← afterBlanks? (← wordAfter? before ["interface".toList, "type".toList] s))

/-- The names in lower case of the types that a text declares, as far as can be seen without parsing
it. -/
def typeNamesIn (source : String) : List String :=
  (scan typeNameAt? source.toList).map fun name => String.ofList (lower name)

/-- The index of the files below the source root of a project. -/
def ofProject (project : Project) : ArtifactIndex :=
  let folder := project.config.layout.sourceRoot
  let sources := project.walk folder Walk.sources
  { componentNames := (project.walk folder Walk.components).map Path.baseName
    sourceStems := sources.map Path.stem
    typeNames := (sources.filterMap project.text?).flatMap typeNamesIn }

/-- Whether a project contains a thing of a kind. The case of the names of types does not count. -/
def contains (index : ArtifactIndex) (kind : ArtifactKind) (name : String) : Bool :=
  match kind with
  | .component | .page => index.componentNames.contains name
  | .service => index.sourceStems.contains name
  | .type => index.typeNames.contains (lowercase name)

end ArtifactIndex

/-- How much of a feature exists. -/
structure FeatureStatus where
  name : String
  required : Nat
  found : Nat
  /-- The missing names of each kind of which any are missing, in the order of kinds. -/
  missing : List (ArtifactKind × List String)
  deriving DecidableEq, Repr

namespace FeatureStatus

/-- The names of a kind that a feature needs and a project lacks. -/
def absent (feature : Feature) (index : ArtifactIndex) (kind : ArtifactKind) : List String :=
  (feature.required kind).filter fun name => !index.contains kind name

/-- The names of a kind that a feature needs and a project has. -/
def present (feature : Feature) (index : ArtifactIndex) (kind : ArtifactKind) : List String :=
  (feature.required kind).filter (index.contains kind)

def ofFeature (feature : Feature) (index : ArtifactIndex) : FeatureStatus where
  name := feature.name
  required := feature.requiredCount
  found := (ArtifactKind.all.flatMap (present feature index)).length
  missing := (ArtifactKind.all.map fun kind => (kind, absent feature index kind)).filter
    fun (_, names) => !names.isEmpty

/-- The share of what exists in percent, and all where nothing is required. -/
def completion {α : Type} [Arithmetic α] (status : FeatureStatus) : α :=
  if status.required = 0 then 100
  else ofNat status.found / ofNat status.required * 100

/-- From this share on a feature counts as complete. -/
def completeAt {α : Type} [Arithmetic α] : α := 70

/-- Below this share an incomplete feature is urgent. -/
def urgentBelow {α : Type} [Arithmetic α] : α := 50

def isComplete {α : Type} [Arithmetic α] (completion : α) : Bool :=
  le completeAt completion

def severity {α : Type} [Arithmetic α] (completion : α) : Severity :=
  if isComplete completion then .low
  else if lt completion urgentBelow then .high
  else .medium

/-- A name in lower case without hyphens and underscores; letters are taken one by one. -/
def loose (name : String) : String :=
  String.ofList ((name.toList.filter fun c => c != '-' && c != '_').flatMap lowerChar)

def incompleteGap (α : Type) [Arithmetic α] (status : FeatureStatus) : Gap :=
  let completion : α := status.completion
  let summary := ", ".intercalate (status.missing.map fun (kind, names) =>
    s!"{names.length} {kind.plural}")
  { id := s!"feature-incomplete:{loose status.name}"
    severity := severity completion
    category := "feature"
    description :=
      s!"Feature {status.name} is {text 0 completion}% complete " ++
        s!"({status.found}/{status.required} artifacts); missing {summary}"
    recommendation :=
      s!"Implement the missing {status.name} artifacts to reach at least " ++
        s!"{text 0 (completeAt : α)}% completion"
    estimatedEffort := some (if lt completion urgentBelow then .high else .medium) }

def missingGap (α : Type) [Arithmetic α] (status : FeatureStatus) (layout : Layout)
    (kind : ArtifactKind) (names : List String) : Gap :=
  let path := kind.usualPath layout
  let listing := ", ".intercalate (names.map fun name => s!"{name} ({path name})")
  let all := ", ".intercalate names
  { id := s!"feature-missing-{kind.plural}:{loose status.name}"
    severity := severity (status.completion : α)
    category := "feature"
    description := s!"Feature {status.name} is missing {kind.plural}: {all}"
    recommendation := s!"Create {listing}"
    affectedFiles := names.map path }

/-- The gaps of a feature if its completion is computed in the given numbers: one if it is not
complete, and one for each kind of which anything is missing. -/
def gapsIn (α : Type) [Arithmetic α] (status : FeatureStatus) (layout : Layout) : List Gap :=
  (if isComplete (status.completion : α) then [] else [status.incompleteGap α]) ++
    status.missing.map fun (kind, names) => status.missingGap α layout kind names

/-- The gaps of a feature in a run, which computes with doubles. -/
def gaps (status : FeatureStatus) (layout : Layout) : List Gap :=
  status.gapsIn Float layout

end FeatureStatus

end GapAudit
