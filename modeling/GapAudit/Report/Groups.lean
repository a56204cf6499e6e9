import GapAudit.Report

/-!
The findings of a report sorted into groups, one for each category, the worst first.
-/

namespace GapAudit

/-- The findings of one category. -/
structure FindingGroup where
  category : String
  findings : List Finding
  deriving DecidableEq, Repr

namespace FindingGroup

/-- The worst severity in a list of findings. -/
def worst (findings : List Finding) : Severity :=
  findings.foldl (fun found finding => found.worse finding.2.severity) .low

/-- Whether one finding may stand before another: it is at least as bad. -/
def mayPrecede (a b : Finding) : Bool :=
  b.2.severity.rank ≤ a.2.severity.rank

/-- The group of a category: the worst findings first, and equally bad ones in the given order. -/
def ofFindings (category : String) (findings : List Finding) : FindingGroup :=
  ⟨category, findings.mergeSort mayPrecede⟩

/-- Whether one group may stand before another: its worst finding is at least as bad. -/
def groupMayPrecede (a b : FindingGroup) : Bool :=
  (worst b.findings).rank ≤ (worst a.findings).rank

end FindingGroup

/-- Findings under their categories, each after those that were there. -/
def byCategory (findings : List Finding) : Keyed (List Finding) :=
  findings.foldl (fun found finding =>
    let category := finding.2.category
    found.insert category ((found.find? category).getD [] ++ [finding])) Keyed.empty

/-- The groups of a report: those with the worst findings first, and equally bad ones in the order
of their categories. -/
def Report.groups {α : Type} (report : Report α) : List FindingGroup :=
  ((byCategory report.findings).entries.map fun (category, findings) =>
    .ofFindings category findings).mergeSort FindingGroup.groupMayPrecede

end GapAudit
