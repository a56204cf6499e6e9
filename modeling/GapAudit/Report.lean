import GapAudit.AnalyzerResult
import GapAudit.Timestamp

/-!
The report of a run: the results of all analyzers, totals and recommendations.
-/

namespace GapAudit

/-- Totals over all results of a report. -/
structure Summary where
  totalGaps : Nat
  gapsBySeverity : Histogram
  totalAnalyzers : Nat
  failedAnalyzers : Nat
  estimatedWork : String
  deriving DecidableEq, Repr

/-- The outcome of one run of all analyzers. -/
structure Report (α : Type) where
  timestamp : Timestamp
  projectPath : String
  overallScore : α
  analyzerResults : Keyed (AnalyzerResult α)
  summary : Summary
  recommendations : List String

/-- A gap with the name of the analyzer that found it. -/
abbrev Finding := String × Gap

/-- All gaps with the names of their analyzers, analyzer by analyzer in the order of the names. -/
def Report.findings {α : Type} (report : Report α) : List Finding :=
  report.analyzerResults.entries.flatMap fun (name, result) =>
    result.gaps.map fun gap => (name, gap)

end GapAudit
