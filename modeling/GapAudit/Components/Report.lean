import GapAudit.Accessibility
import GapAudit.Gap

/-!
What is found in one component file, how complete that makes it, and which gaps it has.
-/

namespace GapAudit

open Arithmetic

/-- What is found in one component file. -/
structure ComponentReport where
  /-- The path relative to the project. -/
  file : String
  component : String
  hasPropsInterface : Bool
  hasPropValidation : Bool
  hasErrorIsolation : Bool
  accessibility : Accessibility
  /-- Imports of components that do not exist. -/
  missingImports : List String
  /-- Names imported from components and not used. -/
  unusedImports : List String
  deriving DecidableEq, Repr

namespace ComponentReport

/-- Below this score a file has an accessibility gap. -/
def accessibilityThreshold {α : Type} [Arithmetic α] : α := 70

def points {α : Type} [Arithmetic α] (met : Bool) (worth : α) : α :=
  if met then worth else 0

def completeness {α : Type} [Arithmetic α] (r : ComponentReport) : α :=
  points r.hasPropsInterface 25 + points r.hasPropValidation 20 + points r.hasErrorIsolation 15 +
    r.accessibility.score / 100 * 30 + points r.missingImports.isEmpty 5 +
    points r.unusedImports.isEmpty 5

def gap (r : ComponentReport) (kind : String) (severity : Severity) (category : String)
    (effort : Effort) (description recommendation : String) : Gap where
  id := s!"component-{kind}:{r.file}"
  severity := severity
  category := category
  description := description
  recommendation := recommendation
  affectedFiles := [r.file]
  estimatedEffort := some effort

def propsGap (r : ComponentReport) : Gap :=
  r.gap "props" .medium "component" .low
    s!"{r.component} has no {r.component}Props interface"
    s!"Declare `interface {r.component}Props \x7b ... \x7d` and type the component's props with it"

def isolationGap (r : ComponentReport) : Gap :=
  r.gap "error-boundary" .low "component" .low
    s!"{r.component} is not wrapped in an error boundary"
    s!"Wrap {r.component} in an <ErrorBoundary> or handle render errors with componentDidCatch"

def accessibilityGap (α : Type) [Arithmetic α] (r : ComponentReport) : Gap :=
  let score := text 0 (r.accessibility.score : α)
  let problems := "; ".intercalate r.accessibility.describe
  r.gap "accessibility" .high "accessibility" .medium
    s!"{r.component} scores {score}/100 on accessibility: {problems}"
    ("Give every interactive element an aria-label, aria-labelledby, id with a " ++
      "matching <label htmlFor>, or visible text; add alt to images; add role and " ++
      "keyboard handlers to clickable non-interactive elements")

def missingGap (r : ComponentReport) : Gap :=
  let names := ", ".intercalate r.missingImports
  r.gap "missing-import" .critical "component" .high
    s!"{r.component} imports components that do not exist: {names}"
    s!"Create the missing component file(s) or fix the import path(s): {names}"

def unusedGap (r : ComponentReport) : Gap :=
  let names := ", ".intercalate r.unusedImports
  r.gap "unused-import" .low "component" .low
    s!"{r.component} has unused imports: {names}"
    s!"Remove the unused import(s): {names}"

/-- The gaps of a component if its scores are computed in the given numbers, one for each criterion
that is not met. -/
def gapsIn (α : Type) [Arithmetic α] (r : ComponentReport) : List Gap :=
  (if r.hasPropsInterface then [] else [r.propsGap]) ++
    (if r.hasErrorIsolation then [] else [r.isolationGap]) ++
    (if lt (r.accessibility.score : α) accessibilityThreshold then [r.accessibilityGap α]
      else []) ++
    (if r.missingImports.isEmpty then [] else [r.missingGap]) ++
    (if r.unusedImports.isEmpty then [] else [r.unusedGap])

/-- The gaps of a component in a run, which computes with doubles. -/
def gaps (r : ComponentReport) : List Gap :=
  r.gapsIn Float

end ComponentReport

end GapAudit
