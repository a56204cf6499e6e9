import GapAudit.Accessibility
import GapAudit.Project
import GapAudit.Quality.Idioms

/-!
The checks of quality that only read files.
-/

namespace GapAudit

open Arithmetic

/-- What the checks that only read files find. Files are given by their paths relative to the
project. -/
structure QualityChecks where
  namingViolations : List String := []
  pagesWithoutErrorHandling : List String := []
  pagesWithoutLoadingState : List String := []
  componentsWithAccessibilityIssues : List String := []
  /-- The number of components that are the project's own. -/
  componentCount : Nat := 0
  /-- Components without a test of the same base name. -/
  untestedComponents : List String := []
  deriving DecidableEq, Repr

namespace QualityChecks

/-- The share of components with a test in percent, and all where there are none. -/
def testCoverage {α : Type} [Arithmetic α] (checks : QualityChecks) : α :=
  if checks.componentCount = 0 then 100
  else
    let tested := checks.componentCount - checks.untestedComponents.length
    Score.roundHundredths (ofNat tested / ofNat checks.componentCount * 100)

def componentFiles (project : Project) : List String :=
  project.walk project.config.layout.componentsDir Walk.components

def pageFiles (project : Project) : List String :=
  project.walk project.config.layout.pagesDir Walk.components

/-- The component files outside the folder of ready-made building blocks. -/
def ownedFiles (project : Project) : List String :=
  (componentFiles project).filter fun path =>
    !Path.isUnder project.config.layout.uiKitDir (project.relative path)

/-- The test files of a project: those with the name of a test and those in a folder with tests. -/
def testFiles (project : Project) : List String :=
  (project.walk "" Walk.tests).filter fun path =>
    isTestFile path || inTestFolder (project.relative path)

/-- The files whose names break the convention of their folder. -/
def namingViolationsOf (project : Project) : List String :=
  ((ownedFiles project ++ pageFiles project).filter fun path =>
      !Quality.isComponentName (Path.baseName path)).map project.relative ++
    project.config.layout.utilityDirs.flatMap fun folder =>
      ((project.walk folder Walk.sources).filter fun path =>
        !Quality.isUtilityName (Path.baseName path)).map project.relative

/-- The files that can be read and whose text fails a test. -/
def failing (project : Project) (passes : String → Bool) (paths : List String) : List String :=
  (paths.filter fun path => (project.text? path).any fun source => !passes source).map
    project.relative

def ofProject (project : Project) : QualityChecks :=
  let owned := ownedFiles project
  let tested := (testFiles project).map Path.baseName
  { namingViolations := namingViolationsOf project
    pagesWithoutErrorHandling :=
      failing project (fun source => Quality.handlesErrors source.toList) (pageFiles project)
    pagesWithoutLoadingState :=
      failing project (fun source => Quality.showsLoading source.toList) (pageFiles project)
    componentsWithAccessibilityIssues :=
      failing project (fun source => (Accessibility.scan source project.tools).issueCount == 0)
        (componentFiles project)
    componentCount := owned.length
    untestedComponents :=
      (owned.filter fun path => !tested.contains (Path.baseName path)).map project.relative }

end QualityChecks

end GapAudit
