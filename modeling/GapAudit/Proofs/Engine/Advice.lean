import GapAudit.Proofs.Engine.Aggregation
import GapAudit.Proofs.Report.Recommendations

/-!
# Recommendations follow the results

The counts in the recommendations of a report come from its histogram, while the remedies are quoted
from the gaps of all results, one result after the other. The two agree for every distribution of
severities over results: the report quotes the first three of its critical gaps, or all of them if
there are fewer, and it asks for improvement just where an analyzer did its work and found little
that is good (`Report.recommendations_follow`).
-/

namespace GapAudit

open Arithmetic

variable {α : Type} [Arithmetic α]

namespace Recommendations

/-- How many gaps of a severity all results have together. -/
def gapCount (severity : Severity) (results : List (AnalyzerResult α)) : Nat :=
  (results.map (·.countOf severity)).sum

/-- Whether a gap counts among the critical ones. -/
def isCritical (gap : Gap) : Bool :=
  gap.severity = .critical

def addressLine (count : Nat) : String :=
  s!"Address {count} critical issue(s) immediately"

def quoteLine (gap : Gap) : String :=
  s!"  - {gap.recommendation}"

def resolveLine (count : Nat) : String :=
  s!"Resolve {count} high-priority issue(s) before release"

def improveLine (result : AnalyzerResult α) : String :=
  s!"Improve {result.analyzerName} (score: {text 0 result.score}/100)"

/-- The closing line of a report that reaches the threshold. -/
def aboveLine (overall threshold : α) : String :=
  s!"Overall completion is {text 1 overall}%, above the {text 0 threshold}% readiness " ++
    "threshold; polish the remaining gaps"

/-- The closing line of a report that does not reach the threshold. -/
def belowLine (overall threshold : α) : String :=
  s!"Overall completion is {text 1 overall}%, below the {text 0 threshold}% readiness " ++
    "threshold; focus on critical and high severity gaps first"

/-- A line that is there only if it has something to count. -/
def countLines (count : Nat) (line : String) : List String :=
  if 0 < count then [line] else []

omit [Arithmetic α] in
lemma count_ofGaps_flatMap (results : List (AnalyzerResult α)) (severity : Severity) :
    (Histogram.ofGaps (results.flatMap (·.gaps))).count severity = gapCount severity results := by
  rw [Histogram.count_ofGaps, List.countP_flatMap, gapCount]
  congr 1
  apply List.map_congr_left
  intro result _
  exact List.countP_eq_length_filter

omit [Arithmetic α] in
lemma length_criticalGaps (results : List (AnalyzerResult α)) :
    (criticalGaps results).length = gapCount .critical results := by
  rw [← count_ofGaps_flatMap, Histogram.count_ofGaps, List.countP_eq_length_filter]
  rfl

omit [Arithmetic α] in
/-- A critical gap is quoted if fewer critical gaps come before it than are quoted. -/
lemma mem_take_criticalGaps {results : List (AnalyzerResult α)} {before after : List Gap} {gap : Gap}
    (hgaps : results.flatMap (·.gaps) = before ++ gap :: after) (hgap : isCritical gap = true)
    (hfew : before.countP isCritical < quotedGaps) :
    gap ∈ (criticalGaps results).take quotedGaps := by
  have hcritical : criticalGaps results =
      before.filter isCritical ++ gap :: after.filter isCritical := by
    change (results.flatMap (·.gaps)).filter isCritical = _
    rw [hgaps, List.filter_append, List.filter_cons_of_pos hgap]
  have hlength : (before.filter isCritical).length < quotedGaps := by
    rwa [← List.countP_eq_length_filter]
  rw [hcritical, List.take_append]
  apply List.mem_append_right
  obtain ⟨more, hmore⟩ := Nat.exists_eq_add_of_lt hlength
  have hleft : quotedGaps - (before.filter isCritical).length = more + 1 := by
    omega
  rw [hleft, List.take_succ_cons]
  exact List.mem_cons_self

omit [Arithmetic α] in
lemma quotedLines_eq (results : List (AnalyzerResult α)) :
    quotedLines (gapCount .critical results) results =
      ((criticalGaps results).take quotedGaps).map quoteLine := by
  unfold quotedLines
  by_cases hcount : gapCount .critical results = 0
  · have hnone : criticalGaps results = [] := by
      rw [← List.length_eq_zero_iff, length_criticalGaps, hcount]
    rw [if_pos hcount, hnone]
    rfl
  · rw [if_neg hcount]
    rfl

lemma criticalCountLines_eq (count : Nat) :
    criticalCountLines count = countLines count (addressLine count) := by
  unfold criticalCountLines countLines
  by_cases hcount : count = 0
  · rw [if_pos hcount, if_neg (by omega)]
  · rw [if_neg hcount, if_pos (by omega)]
    rfl

lemma highLines_eq (count : Nat) : highLines count = countLines count (resolveLine count) := by
  unfold highLines countLines
  by_cases hcount : count = 0
  · rw [if_pos hcount, if_neg (by omega)]
  · rw [if_neg hcount, if_pos (by omega)]
    rfl

lemma length_countLines (count : Nat) (line : String) :
    (countLines count line).length = if 0 < count then 1 else 0 := by
  unfold countLines
  split <;> rfl

/-- Recommendations that quote some gaps, name some results as low and end in a closing line, as the
results of a report with the given overall score and threshold have it. -/
structure Follow (results : List (AnalyzerResult α)) (overall threshold : α) (lines : List String)
    (quoted : List Gap) (low : List (AnalyzerResult α)) (closing : String) : Prop where
  lines_eq : lines =
    countLines (gapCount .critical results) (addressLine (gapCount .critical results)) ++
      quoted.map quoteLine ++
      countLines (gapCount .high results) (resolveLine (gapCount .high results)) ++
      low.map improveLine ++ [closing]
  length_eq : lines.length =
    (if 0 < gapCount .critical results then 1 + min 3 (gapCount .critical results) else 0) +
      (if 0 < gapCount .high results then 1 else 0) +
      (results.countP fun r => !r.isFailed && lt r.score 50) + 1
  /-- The gaps that are quoted are the first critical ones. -/
  quoted_first : quoted <+: (results.flatMap (·.gaps)).filter isCritical
  length_quoted : quoted.length = min 3 (gapCount .critical results)
  critical_of_quoted : ∀ gap ∈ quoted, gap.severity = .critical
  /-- No other line is like a quote. -/
  linesOf_quoted : linesOf .quoted lines = quoted.map quoteLine
  low_eq : low = results.filter fun r => !r.isFailed && lt r.score 50
  not_failed_of_low : ∀ result ∈ low, result.isFailed = false
  /-- No other line asks for improvement. -/
  linesOf_improve : linesOf .improve lines = low.map improveLine
  closing_eq : closing =
    if le threshold overall then aboveLine overall threshold else belowLine overall threshold
  closing_eq_above_iff : closing = aboveLine overall threshold ↔ le threshold overall = true
  /-- The gap of a failure is quoted if fewer than three critical gaps come before it. -/
  failure_quoted : ∀ before name message elapsed after,
    results = before ++ { AnalyzerResult.ofFailure name message with executionTime := elapsed } ::
      after →
    gapCount .critical before < 3 →
    s!"  - Investigate why the {name} analyzer failed ({message}) and rerun the verification" ∈ lines

lemma aboveLine_ne_belowLine (overall threshold : α) :
    aboveLine overall threshold ≠ belowLine overall threshold := by
  have habove : (aboveLine overall threshold).toList.getLast? = some 's' := by
    unfold aboveLine
    rw [String.toList_append, List.getLast?_append_of_ne_nil _ (by decide)]
    rfl
  have hbelow : (belowLine overall threshold).toList.getLast? = some 't' := by
    unfold belowLine
    rw [String.toList_append, List.getLast?_append_of_ne_nil _ (by decide)]
    rfl
  intro heq
  rw [heq, hbelow] at habove
  exact absurd habove (by decide)

lemma closingLine_eq_aboveLine_iff (overall threshold : α) :
    closingLine overall threshold = aboveLine overall threshold ↔ le threshold overall = true := by
  unfold closingLine
  by_cases h : le threshold overall = true
  · rw [if_pos h]
    exact ⟨fun _ => h, fun _ => rfl⟩
  · rw [if_neg h]
    exact ⟨fun heq => absurd heq.symm (aboveLine_ne_belowLine overall threshold),
      fun heq => absurd heq h⟩

lemma gaps_ofFailure (name message : String) : ∃ gap,
    (AnalyzerResult.ofFailure name message : AnalyzerResult α).gaps = [gap] ∧
      isCritical gap = true ∧ quoteLine gap =
        s!"  - Investigate why the {name} analyzer failed ({message}) and rerun the verification" :=
  ⟨_, rfl, rfl, rfl⟩

lemma ofResults_eq (results : List (AnalyzerResult α)) (overall threshold : α) :
    ofResults results (Histogram.ofGaps (results.flatMap (·.gaps))) overall threshold =
      countLines (gapCount .critical results) (addressLine (gapCount .critical results)) ++
        ((criticalGaps results).take quotedGaps).map quoteLine ++
        countLines (gapCount .high results) (resolveLine (gapCount .high results)) ++
        (results.filter isLow).map improveLine ++ [closingLine overall threshold] := by
  have hcritical : (Histogram.ofGaps (results.flatMap (·.gaps))).critical =
      gapCount .critical results := count_ofGaps_flatMap results .critical
  have hhigh : (Histogram.ofGaps (results.flatMap (·.gaps))).high = gapCount .high results :=
    count_ofGaps_flatMap results .high
  rw [ofResults_eq_linesFor]
  simp only [Kind.all, List.flatMap_cons, List.flatMap_nil, linesFor, hcritical, hhigh,
    criticalCountLines_eq, quotedLines_eq, highLines_eq, List.append_assoc, List.append_nil]
  rfl

/-- The recommendations for results with the counts of their own gaps. -/
theorem follow_ofResults (results : List (AnalyzerResult α)) (overall threshold : α) :
    Follow results overall threshold
      (ofResults results (Histogram.ofGaps (results.flatMap (·.gaps))) overall threshold)
      ((criticalGaps results).take quotedGaps) (results.filter isLow)
      (closingLine overall threshold) := by
  have hlines := ofResults_eq results overall threshold
  have hquoted : ((criticalGaps results).take quotedGaps).length =
      min 3 (gapCount .critical results) := by
    rw [List.length_take, length_criticalGaps]
    rfl
  constructor
  case lines_eq => exact hlines
  case length_eq =>
    have hlow : (results.filter isLow).length =
        results.countP fun r => !r.isFailed && lt r.score 50 :=
      List.countP_eq_length_filter.symm
    rw [hlines]
    simp only [List.length_append, length_countLines, List.length_map, hquoted, hlow,
      List.length_singleton]
    split <;> omega
  case quoted_first => exact List.take_prefix _ _
  case length_quoted => exact hquoted
  case critical_of_quoted =>
    intro gap hgap
    have hmem := List.mem_of_mem_take hgap
    exact of_decide_eq_true (List.mem_filter.mp hmem).2
  case linesOf_quoted =>
    have hcritical : (Histogram.ofGaps (results.flatMap (·.gaps))).critical =
        gapCount .critical results := count_ofGaps_flatMap results .critical
    rw [linesOf_ofResults, ← quotedLines_eq, ← hcritical]
    rfl
  case low_eq => rfl
  case not_failed_of_low =>
    intro result hresult
    have hlow := (List.mem_filter.mp hresult).2
    rw [isLow, Bool.and_eq_true, Bool.not_eq_true'] at hlow
    exact hlow.1
  case linesOf_improve =>
    rw [linesOf_ofResults]
    rfl
  case closing_eq => rfl
  case closing_eq_above_iff => exact closingLine_eq_aboveLine_iff overall threshold
  case failure_quoted =>
    rintro before name message elapsed after rfl hfew
    obtain ⟨gap, hgap, hcritical, hline⟩ := gaps_ofFailure (α := α) name message
    have hgaps : (before ++ { AnalyzerResult.ofFailure name message with executionTime := elapsed } ::
        after).flatMap (·.gaps) = before.flatMap (·.gaps) ++ gap :: after.flatMap (·.gaps) := by
      rw [List.flatMap_append, List.flatMap_cons]
      simp only [hgap, List.singleton_append]
    have hbefore : (before.flatMap (·.gaps)).countP isCritical < quotedGaps := by
      rw [← count_ofGaps_flatMap, Histogram.count_ofGaps] at hfew
      exact hfew
    have hmem := mem_take_criticalGaps hgaps hcritical hbefore
    rw [hlines, ← hline]
    simp only [List.append_assoc]
    exact List.mem_append_right _ (List.mem_append_left _ (List.mem_map_of_mem hmem))

end Recommendations

/-- Whatever results a report is made of, its recommendations are, in this order: the number of
critical gaps and the remedies of the first three of them, the number of urgent gaps, the analyzers
that did their work and found little that is good, and one line that says whether the overall score
reaches the threshold. -/
theorem Report.recommendations_follow (timestamp : Timestamp) (projectPath : String)
    (weights : WorkWeights α) (threshold : α) (results : List (AnalyzerResult α)) :
    let report := Report.ofResults timestamp projectPath weights threshold results
    ∃ quoted low closing, Recommendations.Follow results report.overallScore threshold
      report.recommendations quoted low closing :=
  ⟨_, _, _, Recommendations.follow_ofResults results _ threshold⟩

end GapAudit
