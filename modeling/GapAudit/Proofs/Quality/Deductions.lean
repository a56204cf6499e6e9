import Mathlib
import GapAudit.Proofs.Project.GapIds
import GapAudit.Proofs.Score.Exact

/-!
# Deductions, score and gaps of quality

Over rational numbers each of the six deductions is bounded (`Deductions.bounded_ofChecks`), and
there is a gap for exactly those checks that deduct anything (`Quality.ids_gaps`), so that the score
is full just when there is no gap. More findings never make the deductions smaller
(`Findings.AtMost.score_le`). The main statement puts these together (`Findings.score_exact`).
-/

namespace GapAudit

open Arithmetic

namespace QualityChecks

/-- No more components are without a test than there are components. -/
def IsCounted (checks : QualityChecks) : Prop :=
  checks.untestedComponents.length ≤ checks.componentCount

lemma isCounted_ofProject (project : Project) : (ofProject project).IsCounted := by
  simp only [IsCounted, ofProject, List.length_map]
  exact List.length_filter_le _ _

def testedShare (checks : QualityChecks) : ℚ :=
  ((checks.componentCount : ℚ) - checks.untestedComponents.length) / checks.componentCount

lemma testCoverage_eq {checks : QualityChecks} (h : checks.IsCounted) :
    (checks.testCoverage : ℚ) = if checks.componentCount = 0 then 100 else
      Score.roundHundredths (checks.testedShare * 100) := by
  have hcoverage : (checks.testCoverage : ℚ) = if checks.componentCount = 0 then 100 else
      Score.roundHundredths
        (((checks.componentCount - checks.untestedComponents.length : ℕ) : ℚ) /
          checks.componentCount * 100) := rfl
  rw [hcoverage, Nat.cast_sub h]
  rfl

lemma testedShare_mem_Icc {checks : QualityChecks} (h : checks.IsCounted) :
    checks.testedShare ∈ Set.Icc (0 : ℚ) 1 := by
  have huntested : (0 : ℚ) ≤ checks.untestedComponents.length := Nat.cast_nonneg _
  have hle : (checks.untestedComponents.length : ℚ) ≤ checks.componentCount := by
    exact_mod_cast h
  unfold testedShare
  constructor
  · exact div_nonneg (by linarith) (by linarith)
  · exact div_le_one_of_le₀ (by linarith) (by linarith)

lemma testCoverage_mem_Icc {checks : QualityChecks} (h : checks.IsCounted) :
    (checks.testCoverage : ℚ) ∈ Set.Icc 0 100 := by
  rw [testCoverage_eq h]
  by_cases hnone : checks.componentCount = 0
  · rw [if_pos hnone]
    norm_num
  · rw [if_neg hnone]
    obtain ⟨hlow, hhigh⟩ := testedShare_mem_Icc h
    have hpercent : checks.testedShare * 100 ∈ Set.Icc ((0 : ℕ) : ℚ) (100 : ℕ) := by
      push_cast
      exact ⟨by linarith, by linarith⟩
    exact_mod_cast Score.roundHundredths_mem_Icc 0 100 hpercent

lemma testCoverage_anti {checks more : QualityChecks} (h : checks.IsCounted)
    (hmore : more.IsCounted) (hcount : more.componentCount = checks.componentCount)
    (huntested : checks.untestedComponents.length ≤ more.untestedComponents.length) :
    (more.testCoverage : ℚ) ≤ checks.testCoverage := by
  have hshare : more.testedShare ≤ checks.testedShare := by
    unfold testedShare
    rw [hcount]
    gcongr
  rw [testCoverage_eq h, testCoverage_eq hmore, hcount]
  by_cases hnone : checks.componentCount = 0
  · rw [if_pos hnone, if_pos hnone]
  · rw [if_neg hnone, if_neg hnone]
    apply Score.roundHundredths_mono
    linarith

end QualityChecks

namespace Deductions

/-- The deductions under the identifiers of their gaps, in the order of the checks. -/
def byCheck (d : Deductions ℚ) : List (String × ℚ) :=
  [("quality-type-errors", d.typeErrors), ("quality-naming", d.naming),
    ("quality-error-handling", d.errorHandling), ("quality-loading-state", d.loadingState),
    ("quality-accessibility", d.accessibility), ("quality-test-coverage", d.testCoverage)]

/-- Each deduction lies between 0 and its cap. That for untested components has none of its own, but
it takes a tenth of a percentage. -/
structure Bounded (d : Deductions ℚ) : Prop where
  typeErrors : d.typeErrors ∈ Set.Icc 0 40
  naming : d.naming ∈ Set.Icc 0 10
  errorHandling : d.errorHandling ∈ Set.Icc 0 25
  loadingState : d.loadingState ∈ Set.Icc 0 15
  accessibility : d.accessibility ∈ Set.Icc 0 10
  testCoverage : d.testCoverage ∈ Set.Icc 0 10

lemma ofChecks_eq (problems : ℕ) (checks : QualityChecks) :
    (ofChecks problems checks : Deductions ℚ) =
      { typeErrors := Score.capped (problems * (1 / 2)) 40
        naming := Score.capped (checks.namingViolations.length * (1 / 2)) 10
        errorHandling := Score.capped (checks.pagesWithoutErrorHandling.length * 5) 25
        loadingState := Score.capped (checks.pagesWithoutLoadingState.length * 3) 15
        accessibility := Score.capped (checks.componentsWithAccessibilityIssues.length * 2) 10
        testCoverage := Score.roundHundredths ((100 - checks.testCoverage) * (1 / 10)) } := rfl

theorem bounded_ofChecks (problems : ℕ) {checks : QualityChecks} (h : checks.IsCounted) :
    (ofChecks problems checks : Deductions ℚ).Bounded where
  typeErrors := Score.capped_mem_Icc _ (by norm_num)
  naming := Score.capped_mem_Icc _ (by norm_num)
  errorHandling := Score.capped_mem_Icc _ (by norm_num)
  loadingState := Score.capped_mem_Icc _ (by norm_num)
  accessibility := Score.capped_mem_Icc _ (by norm_num)
  testCoverage := by
    have hcoverage := QualityChecks.testCoverage_mem_Icc h
    have htenth : (100 - (checks.testCoverage : ℚ)) * (1 / 10) ∈
        Set.Icc ((0 : ℕ) : ℚ) (10 : ℕ) := by
      push_cast
      exact ⟨by linarith [hcoverage.2], by linarith [hcoverage.1]⟩
    rw [ofChecks_eq]
    exact_mod_cast Score.roundHundredths_mem_Icc 0 10 htenth

lemma Bounded.nonneg {d : Deductions ℚ} (h : d.Bounded) : ∀ x ∈ d.byCheck.map (·.2), 0 ≤ x := by
  simp only [byCheck, List.map_cons, List.map_nil, List.forall_mem_cons]
  exact ⟨h.typeErrors.1, h.naming.1, h.errorHandling.1, h.loadingState.1, h.accessibility.1,
    h.testCoverage.1, by simp⟩

lemma total_eq_sum (d : Deductions ℚ) : d.total = (d.byCheck.map (·.2)).sum := by
  simp [total, byCheck, add_assoc]

lemma Bounded.total_nonneg {d : Deductions ℚ} (h : d.Bounded) : 0 ≤ d.total := by
  rw [total_eq_sum]
  exact List.sum_nonneg h.nonneg

lemma Bounded.total_eq_zero_iff {d : Deductions ℚ} (h : d.Bounded) :
    d.total = 0 ↔ d.byCheck.filter (fun check => 0 < check.2) = [] := by
  rw [total_eq_sum, List.filter_eq_nil_iff]
  constructor
  · intro hsum check hmem
    have hzero : check.2 = 0 := List.all_zero_of_le_zero_le_of_sum_eq_zero h.nonneg hsum
      (List.mem_map_of_mem hmem)
    simp [hzero]
  -- What is not negative and not positive either is nothing.
  · intro hnone
    apply List.sum_eq_zero
    intro x hx
    obtain ⟨check, hmem, rfl⟩ := List.mem_map.mp hx
    have hnot : ¬0 < check.2 := by simpa using hnone check hmem
    exact le_antisymm (not_lt.mp hnot) (h.nonneg _ hx)

end Deductions

namespace Quality

theorem ids_gaps (outcome : TypecheckOutcome) (checks : QualityChecks) :
    let d : Deductions ℚ := .ofChecks outcome.problemCount checks
    (gaps outcome checks d).map (·.id) =
      (d.byCheck.filter fun check => 0 < check.2).map (·.1) := by
  intro d
  have htypes : 0 < d.typeErrors ↔ ¬outcome.problemCount = 0 :=
    Score.capped_count_pos_iff _ (by norm_num) (by norm_num)
  have hnaming : 0 < d.naming ↔ ¬checks.namingViolations.length = 0 :=
    Score.capped_count_pos_iff _ (by norm_num) (by norm_num)
  have herrors : 0 < d.errorHandling ↔ ¬checks.pagesWithoutErrorHandling.length = 0 :=
    Score.capped_count_pos_iff _ (by norm_num) (by norm_num)
  have hloading : 0 < d.loadingState ↔ ¬checks.pagesWithoutLoadingState.length = 0 :=
    Score.capped_count_pos_iff _ (by norm_num) (by norm_num)
  have haccess : 0 < d.accessibility ↔ ¬checks.componentsWithAccessibilityIssues.length = 0 :=
    Score.capped_count_pos_iff _ (by norm_num) (by norm_num)
  have htests : (lt 0 d.testCoverage = true) ↔ 0 < d.testCoverage := decide_eq_true_iff
  unfold gaps Deductions.byCheck
  simp only [List.map_append, ids_typeErrorsGap?, ids_filesGap?, ids_coverageGap?, map_filter_cons,
    List.filter_nil, List.map_nil, List.append_nil, List.append_assoc, htypes, hnaming, herrors,
    hloading, haccess, htests, ite_not]
  rfl

lemma mem_ids_of_mem {gaps : List Gap} {gap : Gap} {ids : List String} {quiet : Prop}
    [Decidable quiet] (hids : gaps.map (·.id) = if quiet then [] else ids) (h : gap ∈ gaps) :
    gap.id ∈ ids := by
  have hid : gap.id ∈ gaps.map (·.id) := List.mem_map_of_mem h
  rw [hids] at hid
  split at hid
  · exact absurd hid List.not_mem_nil
  · exact hid

lemma mem_typeErrors_of_id {outcome : TypecheckOutcome} {checks : QualityChecks}
    {d : Deductions ℚ} {gap : Gap} (hmem : gap ∈ gaps outcome checks d)
    (hid : gap.id = "quality-type-errors") : gap ∈ typeErrorsGap? outcome := by
  have hfiles : ∀ kind severity effort files trouble recommendation,
      gap ∈ (filesGap? kind severity effort files trouble recommendation).toList →
      gap.id = "quality-" ++ kind := fun _ _ _ _ _ _ h =>
    List.mem_singleton.mp (mem_ids_of_mem (ids_filesGap? ..) h)
  rw [gaps, List.mem_append, List.mem_append, List.mem_append, List.mem_append, List.mem_append,
    Option.mem_toList] at hmem
  -- Every other gap has the identifier of another check.
  rcases hmem with ((((h | h) | h) | h) | h) | h
  · exact h
  · exact absurd (hid.symm.trans (hfiles _ _ _ _ _ _ h)) (by decide)
  · exact absurd (hid.symm.trans (hfiles _ _ _ _ _ _ h)) (by decide)
  · exact absurd (hid.symm.trans (hfiles _ _ _ _ _ _ h)) (by decide)
  · exact absurd (hid.symm.trans (hfiles _ _ _ _ _ _ h)) (by decide)
  · have hids := ids_coverageGap? checks d
    rw [← ite_not] at hids
    exact absurd (hid.symm.trans (List.mem_singleton.mp (mem_ids_of_mem hids h))) (by decide)

/-- The gap of type errors is about the files of the problems that are counted. -/
lemma affectedFiles_typeErrors {outcome : TypecheckOutcome} {gap : Gap}
    (h : gap ∈ typeErrorsGap? outcome) :
    gap.affectedFiles =
      distinctSorted ((outcome.diagnostics.filter (·.isProblem)).map (·.file)) := by
  rw [typeErrorsGap?] at h
  split at h
  · cases h
  · obtain rfl := Option.some.inj h
    rfl

end Quality

/-- The outcome of the type checker and what the other checks find. -/
structure Findings where
  outcome : TypecheckOutcome
  checks : QualityChecks

namespace Findings

def deductions (f : Findings) : Deductions ℚ :=
  .ofChecks f.outcome.problemCount f.checks

def score (f : Findings) : ℚ :=
  Quality.score f.deductions

def gaps (f : Findings) : List Gap :=
  Quality.gaps f.outcome f.checks f.deductions

/-- How deductions, score and gaps of findings go together. -/
structure Consistent (f : Findings) : Prop where
  bounded : f.deductions.Bounded
  score_eq : f.score = max 0 (100 - (f.deductions.typeErrors + f.deductions.naming +
    f.deductions.errorHandling + f.deductions.loadingState + f.deductions.accessibility +
    f.deductions.testCoverage))
  ids_eq : f.gaps.map (·.id) = (f.deductions.byCheck.filter fun check => 0 < check.2).map (·.1)
  full_iff : f.score = 100 ↔ f.gaps = []
  count_eq : f.outcome.problemCount = (f.outcome.diagnostics.filter (·.isProblem)).length
  increasing : ∀ gap ∈ f.gaps, gap.id = "quality-type-errors" →
    gap.affectedFiles.Pairwise (· < ·)
  mem_files_iff : ∀ gap ∈ f.gaps, gap.id = "quality-type-errors" → ∀ file,
    file ∈ gap.affectedFiles ↔
      ∃ diagnostic ∈ f.outcome.diagnostics.filter (·.isProblem), diagnostic.file = file

theorem consistent {f : Findings} (h : f.checks.IsCounted) : f.Consistent := by
  have hbounded : f.deductions.Bounded := Deductions.bounded_ofChecks _ h
  have hids : f.gaps.map (·.id) =
      (f.deductions.byCheck.filter fun check => 0 < check.2).map (·.1) :=
    Quality.ids_gaps f.outcome f.checks
  have hscore : f.score = Score.clamp (100 - f.deductions.total) := rfl
  refine ⟨hbounded, ?_, hids, ?_, List.countP_eq_length_filter, ?_, ?_⟩
  · exact hscore.trans (Score.clamp_sub hbounded.total_nonneg)
  · rw [hscore, Score.clamp_sub_eq_hundred_iff hbounded.total_nonneg, hbounded.total_eq_zero_iff,
      ← List.map_eq_nil_iff, ← hids, List.map_eq_nil_iff]
  · intro gap hgap hid
    rw [Quality.affectedFiles_typeErrors (Quality.mem_typeErrors_of_id hgap hid)]
    exact pairwise_distinctSorted _
  · intro gap hgap hid file
    rw [Quality.affectedFiles_typeErrors (Quality.mem_typeErrors_of_id hgap hid),
      mem_distinctSorted, List.mem_map]

/-- The same findings with one more, wherever it stands among those of its kind. -/
inductive OneMore (f : Findings) : Findings → Prop
  | problem {outcome : TypecheckOutcome} {diagnostic : Diagnostic} (h : diagnostic.isProblem = true)
      (hadd : outcome.diagnostics.Perm (diagnostic :: f.outcome.diagnostics)) :
      OneMore f ⟨outcome, f.checks⟩
  | naming {file : String} {files : List String}
      (hadd : files.Perm (file :: f.checks.namingViolations)) :
      OneMore f ⟨f.outcome, { f.checks with namingViolations := files }⟩
  | errorHandling {page : String} {pages : List String}
      (hadd : pages.Perm (page :: f.checks.pagesWithoutErrorHandling)) :
      OneMore f ⟨f.outcome, { f.checks with pagesWithoutErrorHandling := pages }⟩
  | loadingState {page : String} {pages : List String}
      (hadd : pages.Perm (page :: f.checks.pagesWithoutLoadingState)) :
      OneMore f ⟨f.outcome, { f.checks with pagesWithoutLoadingState := pages }⟩
  | accessibility {component : String} {components : List String}
      (hadd : components.Perm (component :: f.checks.componentsWithAccessibilityIssues)) :
      OneMore f ⟨f.outcome, { f.checks with componentsWithAccessibilityIssues := components }⟩
  | untested {component : String} {components : List String}
      (hadd : components.Perm (component :: f.checks.untestedComponents))
      (hcount : components.length ≤ f.checks.componentCount) :
      OneMore f ⟨f.outcome, { f.checks with untestedComponents := components }⟩

/-- Among as many components, at most as many findings of each kind. -/
structure AtMost (f more : Findings) : Prop where
  problems : f.outcome.problemCount ≤ more.outcome.problemCount
  naming : f.checks.namingViolations.length ≤ more.checks.namingViolations.length
  errorHandling : f.checks.pagesWithoutErrorHandling.length ≤
    more.checks.pagesWithoutErrorHandling.length
  loadingState : f.checks.pagesWithoutLoadingState.length ≤
    more.checks.pagesWithoutLoadingState.length
  accessibility : f.checks.componentsWithAccessibilityIssues.length ≤
    more.checks.componentsWithAccessibilityIssues.length
  untested : f.checks.untestedComponents.length ≤ more.checks.untestedComponents.length
  count : more.checks.componentCount = f.checks.componentCount

lemma AtMost.refl (f : Findings) : f.AtMost f :=
  ⟨le_rfl, le_rfl, le_rfl, le_rfl, le_rfl, le_rfl, rfl⟩

lemma OneMore.atMost {f more : Findings} (h : f.OneMore more) : f.AtMost more := by
  have hrefl := AtMost.refl f
  have hlength : ∀ {found : List String} {one : String} {all : List String},
      all.Perm (one :: found) → found.length ≤ all.length := by
    intro found one all hadd
    rw [hadd.length_eq, List.length_cons]
    exact Nat.le_succ _
  cases h with
  | @problem outcome diagnostic h hadd =>
    have hcount : outcome.problemCount = f.outcome.problemCount + 1 := by
      unfold TypecheckOutcome.problemCount
      rw [hadd.countP_eq, List.countP_cons_of_pos h]
    exact { hrefl with problems := hcount ▸ Nat.le_succ _ }
  | naming hadd => exact { hrefl with naming := hlength hadd }
  | errorHandling hadd => exact { hrefl with errorHandling := hlength hadd }
  | loadingState hadd => exact { hrefl with loadingState := hlength hadd }
  | accessibility hadd => exact { hrefl with accessibility := hlength hadd }
  | untested hadd hcount => exact { hrefl with untested := hlength hadd }

lemma AtMost.total_le {f more : Findings} (h : f.AtMost more) (hcounted : f.checks.IsCounted)
    (hmore : more.checks.IsCounted) : f.deductions.total ≤ more.deductions.total := by
  have htests : f.deductions.testCoverage ≤ more.deductions.testCoverage := by
    have hcoverage := QualityChecks.testCoverage_anti hcounted hmore h.count h.untested
    exact Score.roundHundredths_mono (by linarith)
  have htypes : f.deductions.typeErrors ≤ more.deductions.typeErrors :=
    Score.capped_count_mono h.problems (by norm_num) _
  have hnaming : f.deductions.naming ≤ more.deductions.naming :=
    Score.capped_count_mono h.naming (by norm_num) _
  have herrors : f.deductions.errorHandling ≤ more.deductions.errorHandling :=
    Score.capped_count_mono h.errorHandling (by norm_num) _
  have hloading : f.deductions.loadingState ≤ more.deductions.loadingState :=
    Score.capped_count_mono h.loadingState (by norm_num) _
  have haccess : f.deductions.accessibility ≤ more.deductions.accessibility :=
    Score.capped_count_mono h.accessibility (by norm_num) _
  unfold Deductions.total
  linarith

theorem AtMost.score_le {f more : Findings} (h : f.AtMost more) (hcounted : f.checks.IsCounted)
    (hmore : more.checks.IsCounted) : more.score ≤ f.score := by
  have htotal := h.total_le hcounted hmore
  exact Score.clamp_mono (by linarith)

end Findings

end GapAudit
