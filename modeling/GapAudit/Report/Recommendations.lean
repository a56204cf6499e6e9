import GapAudit.Report

/-!
What a report recommends: the critical issues with the first few of their remedies, the number of
urgent issues, the analyzers with low scores, and a closing line that compares the overall score
with the threshold of readiness.
-/

namespace GapAudit

open Arithmetic

namespace Recommendations

variable {α : Type} [Arithmetic α]

/-- How many critical gaps are quoted. -/
def quotedGaps : Nat := 3

def criticalGaps (results : List (AnalyzerResult α)) : List Gap :=
  (results.flatMap (·.gaps)).filter fun gap => gap.severity = .critical

/-- The line that counts the critical gaps, and the lines that quote the first of them. -/
def criticalLines (count : Nat) (results : List (AnalyzerResult α)) : List String :=
  if count = 0 then []
  else
    s!"Address {count} critical issue(s) immediately" ::
      ((criticalGaps results).take quotedGaps).map fun gap => s!"  - {gap.recommendation}"

def highLines (count : Nat) : List String :=
  if count = 0 then [] else [s!"Resolve {count} high-priority issue(s) before release"]

/-- Whether an analyzer did its work and found little that is good. -/
def isLow (result : AnalyzerResult α) : Bool :=
  !result.isFailed && lt result.score 50

def improveLines (results : List (AnalyzerResult α)) : List String :=
  (results.filter isLow).map fun result =>
    s!"Improve {result.analyzerName} (score: {text 0 result.score}/100)"

/-- The line that compares the overall score with the threshold. -/
def closingLine (overall threshold : α) : String :=
  if le threshold overall then
    s!"Overall completion is {text 1 overall}%, above the {text 0 threshold}% readiness " ++
      "threshold; polish the remaining gaps"
  else
    s!"Overall completion is {text 1 overall}%, below the {text 0 threshold}% readiness " ++
      "threshold; focus on critical and high severity gaps first"

/-- All recommendations for results with the given counts of gaps. -/
def ofResults (results : List (AnalyzerResult α)) (counts : Histogram) (overall threshold : α) :
    List String :=
  criticalLines counts.critical results ++ highLines counts.high ++ improveLines results ++
    [closingLine overall threshold]

end Recommendations

end GapAudit
