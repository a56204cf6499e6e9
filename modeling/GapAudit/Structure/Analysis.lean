import GapAudit.AnalyzerResult
import GapAudit.Structure.Routes
import GapAudit.Structure.Services

/-!
The analyzer of structure: required folders and files, routes of pages, and types of services.
-/

namespace GapAudit

open Arithmetic

/-- What is found about the structure of a project. -/
structure StructureFindings where
  missingFolders : List String
  missingFiles : List String
  routes : Routes
  /-- The paths of services without types. -/
  untypedServices : List String
  deriving DecidableEq, Repr

namespace StructureFindings

/-- The findings in a project. -/
def ofProject (project : Project) : StructureFindings where
  missingFolders := project.config.skeleton.requiredDirectories.filter fun folder =>
    !project.tree.isFolder (project.path folder)
  missingFiles := project.config.skeleton.requiredFiles.filter fun file =>
    !project.tree.isFile (project.path file)
  routes := .ofProject project
  untypedServices := Services.untyped project

/-- The score: deductions for each thing that is missing, and for routes by their share. -/
def score {α : Type} [Arithmetic α] (f : StructureFindings) : α :=
  let shortfall : α := (100 - f.routes.coverage) / 100 * 20
  greater (100 - ofNat f.missingFolders.length * 15 - ofNat f.missingFiles.length * 15 - shortfall -
    ofNat f.untypedServices.length * 5) 0

def folderGap (folder : String) : Gap where
  id := s!"structure-missing-directory:{folder}"
  severity := .critical
  category := "structure"
  description := s!"Required directory {folder} is missing"
  recommendation := s!"Create the {folder}/ directory"
  affectedFiles := [folder]
  estimatedEffort := some .low

def fileGap (file : String) : Gap where
  id := s!"structure-missing-file:{file}"
  severity := .critical
  category := "structure"
  description := s!"Required file {file} is missing"
  recommendation := s!"Add {file} to the project"
  affectedFiles := [file]
  estimatedEffort := some .low

/-- The gap of services without types, if there are any. -/
def servicesGap? (project : Project) : (services : List String) → Option Gap
  | [] => none
  | first :: more =>
    let services := first :: more
    let folder := project.config.layout.typesDir
    let names := summarizeNames (services.map Path.stem) 10
    let base := String.ofList (Services.base (Path.stem first).toList)
    some {
      id := "structure-untyped-services"
      severity := .high
      category := "structure"
      description := s!"{services.length} service(s) have no matching type definitions: {names}"
      recommendation :=
        s!"Add a type file under {folder} for each service (e.g. {folder}/{base}.ts) or " ++
          "declare its request/response interfaces inline"
      affectedFiles := services.map project.relative
      estimatedEffort := some .medium }

/-- All gaps: folders, files, routes and services, in this order. -/
def gaps (f : StructureFindings) (project : Project) : List Gap :=
  f.missingFolders.map folderGap ++ f.missingFiles.map fileGap ++
    (f.routes.gap? project.config.layout.appRoot).toList ++
    (servicesGap? project f.untypedServices).toList

end StructureFindings

def Structure.analyze (project : Project) : AnalyzerResult Float :=
  let f := StructureFindings.ofProject project
  (((AnalyzerResult.blank "structure").withScore f.score).withEntries [
    ("missingDirectories", .list f.missingFolders),
    ("missingFiles", .list f.missingFiles),
    ("routeCoverage", .float f.routes.coverage),
    ("declaredRoutes", .list f.routes.declared),
    ("pagesNeedingRoutes", .count f.routes.pages.length),
    ("unroutedPages", .list (f.routes.unrouted.map (·.name))),
    ("untypedServices", .count f.untypedServices.length)]).withGaps (f.gaps project)

end GapAudit
