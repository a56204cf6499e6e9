import Mathlib
import GapAudit.Proofs.Accessibility
import GapAudit.Proofs.Project.GapIds

/-!
# Completeness and gaps of components

A component is judged by five criteria. Over rational numbers its completeness is what they leave of
the full percentage (`completeness_eq`), and it has one gap for each criterion that it does not meet
(`gapsIn_eq`). Accessibility costs completeness before it makes a gap, so that completeness and gaps
do not determine but bound each other (`consistent`). A component that is no better in any criterion
is no more complete and has every gap of the other (`IsNoBetter.completeness_le`,
`IsNoBetter.sublist_kinds`). The main statement puts these together (`completeness_exact`).
-/

namespace GapAudit

open Arithmetic

/-- What a component is judged by. -/
inductive Criterion where
  | props
  | isolation
  | accessibility
  | missingImports
  | unusedImports
  deriving DecidableEq

namespace Criterion

def all : List Criterion :=
  [.props, .isolation, .accessibility, .missingImports, .unusedImports]

lemma mem_all (criterion : Criterion) : criterion ∈ all := by
  cases criterion <;> decide

def topic : Criterion → String
  | .props => "component-props"
  | .isolation => "component-error-boundary"
  | .accessibility => "component-accessibility"
  | .missingImports => "component-missing-import"
  | .unusedImports => "component-unused-import"

lemma colon_not_mem_topic (criterion : Criterion) : ':' ∉ criterion.topic.toList := by
  cases criterion <;> decide

lemma topic_inj {criterion other : Criterion} (h : criterion.topic = other.topic) :
    criterion = other := by
  revert h
  cases criterion <;> cases other <;> decide

def severity : Criterion → Severity
  | .props => .medium
  | .isolation => .low
  | .accessibility => .high
  | .missingImports => .critical
  | .unusedImports => .low

/-- Whether a component does not meet a criterion. -/
def IsViolatedBy (r : ComponentReport) : Criterion → Prop
  | .props => r.hasPropsInterface = false
  | .isolation => r.hasErrorIsolation = false
  | .accessibility => (r.accessibility.score : ℚ) < 70
  | .missingImports => r.missingImports ≠ []
  | .unusedImports => r.unusedImports ≠ []

instance (r : ComponentReport) : DecidablePred (IsViolatedBy r)
  | .props => inferInstanceAs (Decidable (r.hasPropsInterface = false))
  | .isolation => inferInstanceAs (Decidable (r.hasErrorIsolation = false))
  | .accessibility => inferInstanceAs (Decidable ((r.accessibility.score : ℚ) < 70))
  | .missingImports => inferInstanceAs (Decidable (r.missingImports ≠ []))
  | .unusedImports => inferInstanceAs (Decidable (r.unusedImports ≠ []))

end Criterion

namespace ComponentReport

open Criterion

/-- Whether the properties of a component count as checked just when their type is declared. -/
def IsTyped (r : ComponentReport) : Prop :=
  r.hasPropValidation = r.hasPropsInterface

lemma isTyped_inspect (project : Project) (path source : String) :
    (Components.inspect project path source).IsTyped := rfl

def gapOf (r : ComponentReport) : Criterion → Gap
  | .props => r.propsGap
  | .isolation => r.isolationGap
  | .accessibility => r.accessibilityGap ℚ
  | .missingImports => r.missingGap
  | .unusedImports => r.unusedGap

lemma id_gapOf (r : ComponentReport) (criterion : Criterion) :
    (r.gapOf criterion).id = tag r.file criterion.topic := by
  cases criterion <;> rfl

lemma severity_gapOf (r : ComponentReport) (criterion : Criterion) :
    (r.gapOf criterion).severity = criterion.severity := by
  cases criterion <;> rfl

/-- The gaps of a component are those of the criteria that it does not meet. -/
theorem gapsIn_eq (r : ComponentReport) :
    r.gapsIn ℚ = (Criterion.all.filter (·.IsViolatedBy r)).map r.gapOf := by
  have hunless (met : Bool) (gap : Gap) :
      (if met then [] else [gap]) = if met = false then [gap] else [] := by
    cases met <;> rfl
  have hempty (names : List String) : names.isEmpty = false ↔ names ≠ [] := by
    cases names <;> simp
  have hscore : lt (r.accessibility.score : ℚ) accessibilityThreshold = true ↔
      (r.accessibility.score : ℚ) < 70 := decide_eq_true_iff
  simp only [gapsIn, hunless, hempty, hscore, Criterion.all, map_filter_cons, List.filter_nil,
    List.map_nil, List.append_nil, List.append_assoc]
  rfl

/-- The identifiers of the gaps of a component and how severe they are. -/
def kinds (r : ComponentReport) : List (String × Severity) :=
  (r.gapsIn ℚ).map fun gap => (gap.id, gap.severity)

theorem kinds_eq (r : ComponentReport) :
    r.kinds = (Criterion.all.filter (·.IsViolatedBy r)).map
      fun criterion => (tag r.file criterion.topic, criterion.severity) := by
  rw [kinds, gapsIn_eq, List.map_map]
  refine List.map_congr_left fun criterion _ => ?_
  rw [Function.comp_apply, id_gapOf, severity_gapOf]

lemma ids_gapsIn (r : ComponentReport) :
    (r.gapsIn ℚ).map (·.id) =
      (Criterion.all.filter (·.IsViolatedBy r)).map fun criterion => tag r.file criterion.topic := by
  rw [gapsIn_eq, List.map_map]
  exact List.map_congr_left fun criterion _ => r.id_gapOf criterion

lemma tag_topic_inj (r : ComponentReport) :
    Function.Injective fun criterion : Criterion => tag r.file criterion.topic :=
  fun criterion other heq =>
    topic_inj (tag_inj criterion.colon_not_mem_topic other.colon_not_mem_topic heq).1

lemma nodup_ids_gapsIn (r : ComponentReport) : ((r.gapsIn ℚ).map (·.id)).Nodup := by
  have hall : Criterion.all.Nodup := by decide
  rw [ids_gapsIn]
  exact (hall.filter _).map r.tag_topic_inj

lemma mem_ids_gapsIn_iff (r : ComponentReport) (criterion : Criterion) :
    tag r.file criterion.topic ∈ (r.gapsIn ℚ).map (·.id) ↔ criterion.IsViolatedBy r := by
  rw [ids_gapsIn, List.mem_map_of_injective r.tag_topic_inj, List.mem_filter, decide_eq_true_iff]
  exact and_iff_right criterion.mem_all

lemma gapsIn_eq_nil_iff (r : ComponentReport) :
    r.gapsIn ℚ = [] ↔ ∀ criterion : Criterion, ¬criterion.IsViolatedBy r := by
  simp [gapsIn_eq, List.filter_eq_nil_iff, mem_all]

lemma isViolatedBy_of_critical {r : ComponentReport} {gap : Gap} (hgap : gap ∈ r.gapsIn ℚ)
    (h : gap.severity = .critical) : IsViolatedBy r .missingImports := by
  rw [gapsIn_eq] at hgap
  obtain ⟨criterion, hmem, rfl⟩ := List.mem_map.mp hgap
  have hviolated : criterion.IsViolatedBy r := by simpa using (List.mem_filter.mp hmem).2
  rw [severity_gapOf] at h
  cases criterion <;> first | exact hviolated | cases h

def worth : Criterion → ℚ
  | .props => 45
  | .isolation => 15
  | .accessibility => 30
  | .missingImports => 5
  | .unusedImports => 5

/-- What a component loses by a criterion: by accessibility as much as its score lacks, by the
others all that they are worth or nothing. -/
def lost (r : ComponentReport) : Criterion → ℚ
  | .accessibility => (100 - r.accessibility.score) / 100 * 30
  | criterion => if criterion.IsViolatedBy r then worth criterion else 0

lemma lost_of_ne (r : ComponentReport) {criterion : Criterion} (h : criterion ≠ .accessibility) :
    r.lost criterion = if criterion.IsViolatedBy r then worth criterion else 0 := by
  cases criterion with
  | accessibility => exact absurd rfl h
  | props | isolation | missingImports | unusedImports => rfl

theorem completeness_eq {r : ComponentReport} (h : r.IsTyped) :
    (r.completeness : ℚ) = 100 - (Criterion.all.map r.lost).sum := by
  have hflag (met : Bool) (value : ℚ) :
      points met value = value - if met = false then value else 0 := by
    cases met <;> simp [points]
  have hempty (names : List String) (value : ℚ) :
      points names.isEmpty value = value - if names ≠ [] then value else 0 := by
    cases names <;> simp [points]
  have hsum : (Criterion.all.map r.lost).sum =
      (if r.hasPropsInterface = false then 45 else 0) +
        ((if r.hasErrorIsolation = false then 15 else 0) +
          ((100 - (r.accessibility.score : ℚ)) / 100 * 30 +
            ((if r.missingImports ≠ [] then 5 else 0) +
              ((if r.unusedImports ≠ [] then 5 else 0) + 0)))) := rfl
  have hcompleteness : (r.completeness : ℚ) = points r.hasPropsInterface 25 +
      points r.hasPropValidation 20 + points r.hasErrorIsolation 15 +
      (r.accessibility.score : ℚ) / 100 * 30 + points r.missingImports.isEmpty 5 +
      points r.unusedImports.isEmpty 5 := rfl
  have hprops : (if r.hasPropsInterface = false then (45 : ℚ) else 0) =
      (if r.hasPropsInterface = false then 25 else 0) +
        if r.hasPropsInterface = false then 20 else 0 := by
    split <;> norm_num
  rw [hcompleteness, hsum, h, hflag, hflag, hflag, hempty, hempty, hprops]
  ring

lemma lost_mem_Icc (r : ComponentReport) (criterion : Criterion) :
    r.lost criterion ∈ Set.Icc 0 (worth criterion) := by
  by_cases h : criterion = .accessibility
  · subst h
    obtain ⟨hlow, hhigh⟩ := r.accessibility.score_mem_Icc
    simp only [lost, worth]
    exact ⟨by linarith, by linarith⟩
  · have hworth : 0 ≤ worth criterion := by
      cases criterion <;> norm_num [worth]
    rw [r.lost_of_ne h]
    split
    · exact ⟨hworth, le_rfl⟩
    · exact ⟨le_rfl, hworth⟩

lemma lost_eq_zero_iff (r : ComponentReport) {criterion : Criterion}
    (h : criterion ≠ .accessibility) : r.lost criterion = 0 ↔ ¬criterion.IsViolatedBy r := by
  have hworth : worth criterion ≠ 0 := by
    cases criterion <;> norm_num [worth]
  rw [r.lost_of_ne h]
  split <;> simp_all

lemma lost_nonneg (r : ComponentReport) : ∀ x ∈ Criterion.all.map r.lost, 0 ≤ x := by
  intro x hx
  obtain ⟨criterion, -, rfl⟩ := List.mem_map.mp hx
  exact (r.lost_mem_Icc criterion).1

lemma sum_worth : (Criterion.all.map worth).sum = 100 := by
  norm_num [Criterion.all, worth]

lemma completeness_mem_Icc {r : ComponentReport} (h : r.IsTyped) :
    (r.completeness : ℚ) ∈ Set.Icc 0 100 := by
  have hlow : 0 ≤ (Criterion.all.map r.lost).sum := List.sum_nonneg r.lost_nonneg
  have hhigh : (Criterion.all.map r.lost).sum ≤ (Criterion.all.map worth).sum :=
    List.sum_le_sum fun criterion _ => (r.lost_mem_Icc criterion).2
  rw [sum_worth] at hhigh
  rw [completeness_eq h]
  exact ⟨by linarith, by linarith⟩

lemma completeness_eq_hundred_iff {r : ComponentReport} (h : r.IsTyped) :
    (r.completeness : ℚ) = 100 ↔ ∀ criterion, r.lost criterion = 0 := by
  rw [completeness_eq h, sub_eq_self]
  constructor
  · intro hsum criterion
    exact List.all_zero_of_le_zero_le_of_sum_eq_zero r.lost_nonneg hsum
      (List.mem_map_of_mem criterion.mem_all)
  · intro hnone
    rw [List.map_congr_left fun criterion _ => hnone criterion]
    norm_num [Criterion.all]

/-- A criterion other than accessibility is met, and the score of accessibility is full. -/
lemma forall_lost_iff (r : ComponentReport) :
    (∀ criterion, r.lost criterion = 0) ↔
      r.hasPropsInterface = true ∧ r.hasErrorIsolation = true ∧
        (r.accessibility.score : ℚ) = 100 ∧ r.missingImports = [] ∧ r.unusedImports = [] := by
  have hscore : r.lost .accessibility = 0 ↔ (r.accessibility.score : ℚ) = 100 := by
    simp only [lost]
    constructor <;> intro h <;> linarith
  have hcases : (∀ criterion, r.lost criterion = 0) ↔ r.lost .props = 0 ∧ r.lost .isolation = 0 ∧
      r.lost .accessibility = 0 ∧ r.lost .missingImports = 0 ∧ r.lost .unusedImports = 0 := by
    refine ⟨fun h => ⟨h _, h _, h _, h _, h _⟩, ?_⟩
    rintro ⟨hprops, hisolation, haccessibility, hmissing, hunused⟩ criterion
    cases criterion <;> assumption
  rw [hcases, hscore, lost_eq_zero_iff r (by decide), lost_eq_zero_iff r (by decide),
    lost_eq_zero_iff r (by decide), lost_eq_zero_iff r (by decide)]
  simp [Criterion.IsViolatedBy]

lemma sum_lost (r : ComponentReport) :
    (Criterion.all.map r.lost).sum = r.lost .props + r.lost .isolation + r.lost .accessibility +
      r.lost .missingImports + r.lost .unusedImports := by
  simp [Criterion.all, add_assoc]

/-- Without a gap only the score of accessibility can lack anything, and not much. -/
lemma le_completeness_of_gapsIn_eq_nil {r : ComponentReport} (h : r.IsTyped)
    (hnone : r.gapsIn ℚ = []) : 91 ≤ (r.completeness : ℚ) := by
  have hmet := r.gapsIn_eq_nil_iff.mp hnone
  have hscore : 70 ≤ (r.accessibility.score : ℚ) := not_lt.mp (hmet .accessibility)
  have haccessibility : r.lost .accessibility ≤ 9 := by
    simp only [lost]
    linarith
  rw [completeness_eq h, sum_lost, (r.lost_eq_zero_iff (by decide)).mpr (hmet .props),
    (r.lost_eq_zero_iff (by decide)).mpr (hmet .isolation),
    (r.lost_eq_zero_iff (by decide)).mpr (hmet .missingImports),
    (r.lost_eq_zero_iff (by decide)).mpr (hmet .unusedImports)]
  linarith

lemma completeness_le_of_critical {r : ComponentReport} (h : r.IsTyped) {gap : Gap}
    (hgap : gap ∈ r.gapsIn ℚ) (hcritical : gap.severity = .critical) :
    (r.completeness : ℚ) ≤ 95 := by
  have hmissing : r.lost .missingImports = 5 := by
    rw [r.lost_of_ne (by decide), if_pos (isViolatedBy_of_critical hgap hcritical), worth]
  have hnonneg := fun criterion => (r.lost_mem_Icc criterion).1
  rw [completeness_eq h, sum_lost, hmissing]
  linarith [hnonneg .props, hnonneg .isolation, hnonneg .accessibility, hnonneg .unusedImports]

/-- How completeness and gaps of a component go together. -/
structure Consistent (r : ComponentReport) : Prop where
  completeness_mem : (r.completeness : ℚ) ∈ Set.Icc 0 100
  full_iff : (r.completeness : ℚ) = 100 ↔
    r.hasPropsInterface = true ∧ r.hasErrorIsolation = true ∧
      (r.accessibility.score : ℚ) = 100 ∧ r.missingImports = [] ∧ r.unusedImports = []
  kinds_eq : r.kinds = (Criterion.all.filter (·.IsViolatedBy r)).map
    fun criterion => (tag r.file criterion.topic, criterion.severity)
  nodup : ((r.gapsIn ℚ).map (·.id)).Nodup
  mem_iff : ∀ criterion : Criterion,
    tag r.file criterion.topic ∈ (r.gapsIn ℚ).map (·.id) ↔ criterion.IsViolatedBy r
  of_no_gap : r.gapsIn ℚ = [] → 91 ≤ (r.completeness : ℚ)
  of_critical : (∃ gap ∈ r.gapsIn ℚ, gap.severity = .critical) → (r.completeness : ℚ) ≤ 95

theorem consistent {r : ComponentReport} (h : r.IsTyped) : r.Consistent where
  completeness_mem := completeness_mem_Icc h
  full_iff := (completeness_eq_hundred_iff h).trans r.forall_lost_iff
  kinds_eq := r.kinds_eq
  nodup := r.nodup_ids_gapsIn
  mem_iff := r.mem_ids_gapsIn_iff
  of_no_gap := le_completeness_of_gapsIn_eq_nil h
  of_critical := fun ⟨_, hgap, hcritical⟩ => completeness_le_of_critical h hgap hcritical

/-- The same component where one criterion is met, or met better. -/
inductive OneBetter (r : ComponentReport) : ComponentReport → Prop
  | props : OneBetter r { r with hasPropsInterface := true, hasPropValidation := true }
  | isolation : OneBetter r { r with hasErrorIsolation := true }
  | accessibility {a : Accessibility} (h : (r.accessibility.score : ℚ) ≤ a.score) :
      OneBetter r { r with accessibility := a }
  | missingImports : OneBetter r { r with missingImports := [] }
  | unusedImports : OneBetter r { r with unusedImports := [] }

/-- Whether a component is no better in any criterion than another component of the same file. -/
structure IsNoBetter (r other : ComponentReport) : Prop where
  file_eq : other.file = r.file
  score_le : (r.accessibility.score : ℚ) ≤ other.accessibility.score
  violated : ∀ criterion : Criterion, criterion.IsViolatedBy other → criterion.IsViolatedBy r

lemma OneBetter.isNoBetter {r other : ComponentReport} (h : r.OneBetter other) :
    r.IsNoBetter other := by
  cases h with
  | accessibility h =>
    refine ⟨rfl, h, fun criterion => ?_⟩
    cases criterion with
    | accessibility => exact lt_of_le_of_lt h
    | props | isolation | missingImports | unusedImports => exact id
  | props | isolation | missingImports | unusedImports =>
    refine ⟨rfl, le_rfl, fun criterion => ?_⟩
    cases criterion <;> simp [IsViolatedBy]

lemma OneBetter.isTyped {r other : ComponentReport} (h : r.OneBetter other) (hr : r.IsTyped) :
    other.IsTyped := by
  cases h with
  | props => rfl
  | isolation | accessibility | missingImports | unusedImports => exact hr

lemma IsNoBetter.lost_le {r other : ComponentReport} (h : r.IsNoBetter other)
    (criterion : Criterion) : other.lost criterion ≤ r.lost criterion := by
  by_cases haccessibility : criterion = .accessibility
  · subst haccessibility
    have hscore := h.score_le
    simp only [lost]
    linarith
  · by_cases hother : criterion.IsViolatedBy other
    · rw [lost_of_ne _ haccessibility, lost_of_ne _ haccessibility, if_pos hother,
        if_pos (h.violated criterion hother)]
    · rw [(other.lost_eq_zero_iff haccessibility).mpr hother]
      exact (r.lost_mem_Icc criterion).1

theorem IsNoBetter.completeness_le {r other : ComponentReport} (h : r.IsNoBetter other)
    (hr : r.IsTyped) (hother : other.IsTyped) :
    (r.completeness : ℚ) ≤ other.completeness := by
  have hlost : (Criterion.all.map other.lost).sum ≤ (Criterion.all.map r.lost).sum :=
    List.sum_le_sum fun criterion _ => h.lost_le criterion
  rw [completeness_eq hr, completeness_eq hother]
  linarith

theorem IsNoBetter.sublist_kinds {r other : ComponentReport} (h : r.IsNoBetter other) :
    other.kinds.Sublist r.kinds := by
  rw [kinds_eq, kinds_eq, h.file_eq]
  refine (List.monotone_filter_right _ fun criterion hcriterion => ?_).map _
  exact decide_eq_true (h.violated criterion (of_decide_eq_true hcriterion))

/-- Completeness and gaps of a component go together, and to meet one criterion, or to meet it
better, costs no completeness and makes no gap. -/
theorem completeness_exact :
    (∀ (project : Project) (path source : String),
      (Components.inspect project path source).IsTyped) ∧
      ∀ r : ComponentReport, r.IsTyped →
        r.Consistent ∧
          ∀ better, r.OneBetter better →
            (r.completeness : ℚ) ≤ better.completeness ∧ better.kinds.Sublist r.kinds := by
  refine ⟨isTyped_inspect, fun r hr => ⟨consistent hr, fun better hbetter => ⟨?_, ?_⟩⟩⟩
  · exact hbetter.isNoBetter.completeness_le hr (hbetter.isTyped hr)
  · exact hbetter.isNoBetter.sublist_kinds

theorem completeness_exact_form :
    let form : ComponentReport :=
      ⟨"src/Form.tsx", "Form", true, true, false, ⟨0, 0, 0, 1, 1, 2⟩, ["./Field"], []⟩
    let created := { form with missingImports := [] }
    form.IsTyped ∧ form.Consistent ∧ form.kinds = [("component-error-boundary:src/Form.tsx", .low),
      ("component-accessibility:src/Form.tsx", .high),
      ("component-missing-import:src/Form.tsx", .critical)] ∧
      (form.completeness : ℚ) ≤ created.completeness ∧ created.kinds.Sublist form.kinds := by
  intro form created
  have hform : form.IsTyped := rfl
  obtain ⟨hconsistent, hbetter⟩ := completeness_exact.2 form hform
  obtain ⟨hcompleteness, hkinds⟩ := hbetter created .missingImports
  refine ⟨hform, hconsistent, ?_, hcompleteness, hkinds⟩
  rw [hconsistent.kinds_eq]
  decide +kernel

end ComponentReport

end GapAudit
