import GapAudit.AnalyzerResult
import GapAudit.Quality.Checks
import GapAudit.Typecheck.Outcome

/-!
The analyzer of quality: six checks, each with a deduction of its own and a gap where it deducts
anything.
-/

namespace GapAudit

open Arithmetic

/-- What each check takes off the full score. -/
structure Deductions (α : Type) where
  typeErrors : α
  naming : α
  errorHandling : α
  loadingState : α
  accessibility : α
  testCoverage : α

namespace Deductions

variable {α : Type} [Arithmetic α]

/-- The deductions for a number of type errors and the findings of the other checks. -/
def ofChecks (typeErrors : Nat) (checks : QualityChecks) : Deductions α where
  typeErrors := Score.capped (ofNat typeErrors * (1 / 2)) 40
  naming := Score.capped (ofNat checks.namingViolations.length * (1 / 2)) 10
  errorHandling := Score.capped (ofNat checks.pagesWithoutErrorHandling.length * 5) 25
  loadingState := Score.capped (ofNat checks.pagesWithoutLoadingState.length * 3) 15
  accessibility := Score.capped (ofNat checks.componentsWithAccessibilityIssues.length * 2) 10
  testCoverage := Score.roundHundredths ((100 - checks.testCoverage) * (1 / 10))

def total (d : Deductions α) : α :=
  d.typeErrors + d.naming + d.errorHandling + d.loadingState + d.accessibility + d.testCoverage

omit [Arithmetic α] in
def toKeyed (d : Deductions α) : Keyed α :=
  .ofEntries [("typeErrors", d.typeErrors), ("naming", d.naming),
    ("errorHandling", d.errorHandling), ("loadingState", d.loadingState),
    ("accessibility", d.accessibility), ("testCoverage", d.testCoverage)]

end Deductions

namespace Quality

def gap (kind : String) (severity : Severity) (effort : Effort) (files : List String)
    (description recommendation : String) : Gap where
  id := s!"quality-{kind}"
  severity := severity
  category := "quality"
  description := description
  recommendation := recommendation
  affectedFiles := files
  estimatedEffort := some effort

def filesGap? (kind : String) (severity : Severity) (effort : Effort) (files : List String)
    (trouble recommendation : String) : Option Gap :=
  if files.isEmpty then none
  else some (gap kind severity effort files s!"{files.length} {trouble}" recommendation)

def typeErrorsGap? (outcome : TypecheckOutcome) : Option Gap :=
  let count := outcome.problemCount
  let severity : Severity := if 50 < count then .critical else if 10 < count then .high else .medium
  if count = 0 then none
  else
    some (gap "type-errors" severity (if 10 < count then .high else .medium)
      (distinctSorted ((outcome.diagnostics.filter (·.isProblem)).map (·.file)))
      s!"Type checker reports {count} error(s)"
      "Fix the reported type errors; run the type checker locally until it is clean")

/-- The gap of components without tests, if tests take anything off the score. -/
def coverageGap? {α : Type} [Arithmetic α] (checks : QualityChecks) (deductions : Deductions α) :
    Option Gap :=
  let coverage : α := checks.testCoverage
  let severity : Severity :=
    if lt coverage 20 then .high else if lt coverage 50 then .medium else .low
  let names := summarizeNames (checks.untestedComponents.map Path.baseName) 8
  let untested := checks.untestedComponents.length
  if lt 0 deductions.testCoverage then
    some (gap "test-coverage" severity (if lt coverage 50 then .high else .medium)
      checks.untestedComponents
      (s!"Component test coverage is {text 0 coverage}% ({untested} of {checks.componentCount} " ++
        "components untested)")
      s!"Add a <Name>.test.tsx for each untested component: {names}")
  else none

def gaps {α : Type} [Arithmetic α] (outcome : TypecheckOutcome) (checks : QualityChecks)
    (deductions : Deductions α) : List Gap :=
  (typeErrorsGap? outcome).toList ++
  (filesGap? "naming" .low .low checks.namingViolations
    "file(s) break the naming convention of their directory"
    ("Use PascalCase for component and page files, camelCase or kebab-case for " ++
      "utility and hook files")).toList ++
  (filesGap? "error-handling" .medium .medium checks.pagesWithoutErrorHandling
    "page(s) have no error handling"
    ("Wrap data loading in try/catch or handle promise rejections, and render pages " ++
      "inside an ErrorBoundary")).toList ++
  (filesGap? "loading-state" .low .low checks.pagesWithoutLoadingState
    "page(s) render no loading state"
    ("Track an isLoading flag and render a spinner or skeleton while data loads, or " ++
      "use <Suspense fallback=\x7b...\x7d>")).toList ++
  (filesGap? "accessibility" .medium .medium checks.componentsWithAccessibilityIssues
    "component(s) contain accessibility anti-patterns"
    ("Label interactive elements, add alt text to images, and give clickable " ++
      "non-interactive elements a role and keyboard handler")).toList ++
  (coverageGap? checks deductions).toList

/-- The score: what the deductions leave of 100. -/
def score {α : Type} [Arithmetic α] (deductions : Deductions α) : α :=
  Score.clamp (100 - deductions.total)

/-- The result for an outcome of the type checker and the findings of the other checks. -/
def summarize (outcome : TypecheckOutcome) (checks : QualityChecks) : AnalyzerResult Float :=
  let deductions := Deductions.ofChecks outcome.problemCount checks
  let result := (((AnalyzerResult.blank "quality").withScore (score deductions)).withEntries [
    ("typecheckSkipped", .bool outcome.reason?.isSome),
    ("typeErrors", .count outcome.problemCount),
    ("namingViolations", .count checks.namingViolations.length),
    ("pagesWithoutErrorHandling", .count checks.pagesWithoutErrorHandling.length),
    ("pagesWithoutLoadingState", .count checks.pagesWithoutLoadingState.length),
    ("componentsWithAccessibilityIssues",
      .count checks.componentsWithAccessibilityIssues.length),
    ("testCoverage", .float checks.testCoverage),
    ("deductions", .map deductions.toKeyed)]).withGaps (gaps outcome checks deductions)
  match outcome.reason? with
  | some reason => result.withMeta "typecheckSkipReason" (.text reason)
  | none => result

/-- The outcome of the type checker in a project, unless the configuration switches it off. -/
def typecheck (project : Project) : TypecheckOutcome :=
  let settings := project.config.typecheck
  if settings.enabled then .ofCommand project.tree project.root settings.command project.tools
  else .skipped "disabled"

def analyze (project : Project) : AnalyzerResult Float :=
  summarize (typecheck project) (.ofProject project)

end Quality

end GapAudit
