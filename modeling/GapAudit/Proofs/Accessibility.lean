import Mathlib
import GapAudit.Accessibility
import GapAudit.Proofs.Score.Exact

/-!
# Findings about several elements

What is found about elements does not depend on their order (`assess_perm`). What is found about two
lists of elements together is the sum of what is found about each, except that a label of one list
may point at a field of the other, so that more labels may count together (`addUp_assess`). Over
rational numbers the score lies between 0 and 100, is full where there are no issues, and goes down
with issues and up with good signs (`score_le_score`). The main statement puts these together
(`assess_exact`).
-/

namespace GapAudit.Accessibility

open Arithmetic

/-- Whether an element is a label that points at another element, which is a field. -/
def PointsAt (label field : Element) : Prop :=
  label.tag = "label" ∧ field.tag ∈ fieldTags ∧
    ∃ id, label.attributeValue? "htmlFor" = some id ∧ field.attributeValue? "id" = some id

lemma mem_fieldIds_iff {elements : List Element} {id : String} :
    id ∈ fieldIds elements ↔
      ∃ field ∈ elements, field.tag ∈ fieldTags ∧ field.attributeValue? "id" = some id := by
  simp [fieldIds, and_assoc]

/-- A label counts if it points at a field among the elements. -/
lemma labelsField_iff {elements : List Element} {label : Element} :
    labelsField (fieldIds elements) label = true ↔ ∃ field ∈ elements, PointsAt label field := by
  rw [labelsField, Bool.and_eq_true, beq_iff_eq, Option.any_eq_true]
  constructor
  · rintro ⟨htag, id, hid, hmem⟩
    obtain ⟨field, hfield, hfieldTag, hfieldId⟩ :=
      mem_fieldIds_iff.mp (List.contains_iff_mem.mp hmem)
    exact ⟨field, hfield, htag, hfieldTag, id, hid, hfieldId⟩
  · rintro ⟨field, hfield, htag, hfieldTag, id, hid, hfieldId⟩
    exact ⟨htag, id, hid, List.contains_iff_mem.mpr
      (mem_fieldIds_iff.mpr ⟨field, hfield, hfieldTag, hfieldId⟩)⟩

/-- More elements make no label count less. -/
lemma labelsField_of_subset {elements more : List Element} (h : elements ⊆ more) {label : Element}
    (hlabel : labelsField (fieldIds elements) label = true) :
    labelsField (fieldIds more) label = true := by
  obtain ⟨field, hfield, hpoints⟩ := labelsField_iff.mp hlabel
  exact labelsField_iff.mpr ⟨field, h hfield, hpoints⟩

theorem assess_perm {elements others : List Element} (h : elements.Perm others) :
    assess elements = assess others := by
  have hlabels : labelsField (fieldIds elements) = labelsField (fieldIds others) := by
    funext label
    rw [Bool.eq_iff_iff]
    exact ⟨labelsField_of_subset h.subset, labelsField_of_subset h.symm.subset⟩
  simp only [assess, h.countP_eq, hlabels]

/-- How findings about two lists of elements together go with the findings about each: all counts
are sums, but more labels may count together. -/
structure AddUp (first second both : Accessibility) : Prop where
  unlabelledControls :
    both.unlabelledControls = first.unlabelledControls + second.unlabelledControls
  imagesWithoutAlt : both.imagesWithoutAlt = first.imagesWithoutAlt + second.imagesWithoutAlt
  clicksWithoutKeyboard :
    both.clicksWithoutKeyboard = first.clicksWithoutKeyboard + second.clicksWithoutKeyboard
  hiddenControls : both.hiddenControls = first.hiddenControls + second.hiddenControls
  headings : both.headings = first.headings + second.headings
  labelledFields_le : first.labelledFields + second.labelledFields ≤ both.labelledFields

lemma labelledFields_append (first second : List Element) :
    (assess (first ++ second)).labelledFields =
      first.countP (labelsField (fieldIds (first ++ second))) +
        second.countP (labelsField (fieldIds (first ++ second))) :=
  List.countP_append

theorem addUp_assess (first second : List Element) :
    AddUp (assess first) (assess second) (assess (first ++ second)) where
  unlabelledControls := List.countP_append
  imagesWithoutAlt := List.countP_append
  clicksWithoutKeyboard := List.countP_append
  hiddenControls := List.countP_append
  headings := List.countP_append
  labelledFields_le := by
    rw [labelledFields_append]
    exact Nat.add_le_add
      (List.countP_mono_left fun _ _ => labelsField_of_subset (List.subset_append_left _ _))
      (List.countP_mono_left fun _ _ => labelsField_of_subset (List.subset_append_right _ _))

/-- Labels count together as often as apart if none of them points across. -/
lemma labelledFields_append_of_apart {first second : List Element}
    (h : ∀ one ∈ first, ∀ other ∈ second, ¬PointsAt one other ∧ ¬PointsAt other one) :
    (assess (first ++ second)).labelledFields =
      (assess first).labelledFields + (assess second).labelledFields := by
  have hfirst : ∀ label ∈ first, labelsField (fieldIds (first ++ second)) label = true ↔
      labelsField (fieldIds first) label = true := by
    refine fun label hlabel => ⟨fun hcounts => ?_, ?_⟩
    · obtain ⟨field, hfield, hpoints⟩ := labelsField_iff.mp hcounts
      rcases List.mem_append.mp hfield with hfield | hfield
      · exact labelsField_iff.mpr ⟨field, hfield, hpoints⟩
      · exact absurd hpoints (h label hlabel field hfield).1
    · exact labelsField_of_subset (List.subset_append_left _ _)
  have hsecond : ∀ label ∈ second, labelsField (fieldIds (first ++ second)) label = true ↔
      labelsField (fieldIds second) label = true := by
    refine fun label hlabel => ⟨fun hcounts => ?_, ?_⟩
    · obtain ⟨field, hfield, hpoints⟩ := labelsField_iff.mp hcounts
      rcases List.mem_append.mp hfield with hfield | hfield
      · exact absurd hpoints (h field hfield label hlabel).2
      · exact labelsField_iff.mpr ⟨field, hfield, hpoints⟩
    · exact labelsField_of_subset (List.subset_append_right _ _)
  rw [labelledFields_append, List.countP_congr hfirst, List.countP_congr hsecond]
  rfl

/-- What issues take off the score. -/
def penalty (a : Accessibility) : ℚ :=
  35 * a.unlabelledControls + 20 * a.imagesWithoutAlt + 15 * a.clicksWithoutKeyboard +
    40 * a.hiddenControls

/-- What good signs give back. -/
def bonus (a : Accessibility) : ℚ :=
  min ((a.headings : ℚ) * 2) 10 + min ((a.labelledFields : ℚ) * 2) 10

lemma score_eq (a : Accessibility) : (a.score : ℚ) = Score.clamp (100 - a.penalty + a.bonus) := by
  have hscore : (a.score : ℚ) = Score.clamp (100 - (a.unlabelledControls : ℚ) * 35 -
      (a.imagesWithoutAlt : ℚ) * 20 - (a.clicksWithoutKeyboard : ℚ) * 15 -
      (a.hiddenControls : ℚ) * 40 + lesser ((a.headings : ℚ) * 2) 10 +
      lesser ((a.labelledFields : ℚ) * 2) 10) := rfl
  rw [hscore, lesser_eq_min, lesser_eq_min, penalty, bonus]
  congr 1
  ring

theorem score_mem_Icc (a : Accessibility) : (a.score : ℚ) ∈ Set.Icc 0 100 := by
  rw [score_eq]
  refine ⟨?_, Score.clamp_le _⟩
  rw [Score.clamp_eq]
  exact le_max_left _ _

lemma bonus_nonneg (a : Accessibility) : 0 ≤ a.bonus := by
  unfold bonus
  positivity

theorem score_of_issueCount_eq_zero {a : Accessibility} (h : a.issueCount = 0) :
    (a.score : ℚ) = 100 := by
  have hnone : a.penalty = 0 := by
    unfold issueCount at h
    have hzero : a.unlabelledControls = 0 ∧ a.imagesWithoutAlt = 0 ∧
        a.clicksWithoutKeyboard = 0 ∧ a.hiddenControls = 0 := by omega
    simp [penalty, hzero]
  have hbonus := a.bonus_nonneg
  rw [score_eq, hnone, Score.clamp_eq, min_eq_right (by linarith)]
  norm_num

/-- Whether other findings have at least as many issues of every kind and at most as many good
signs. -/
structure IsNoWorse (a other : Accessibility) : Prop where
  unlabelledControls : a.unlabelledControls ≤ other.unlabelledControls
  imagesWithoutAlt : a.imagesWithoutAlt ≤ other.imagesWithoutAlt
  clicksWithoutKeyboard : a.clicksWithoutKeyboard ≤ other.clicksWithoutKeyboard
  hiddenControls : a.hiddenControls ≤ other.hiddenControls
  headings : other.headings ≤ a.headings
  labelledFields : other.labelledFields ≤ a.labelledFields

theorem score_le_score {a other : Accessibility} (h : a.IsNoWorse other) :
    (other.score : ℚ) ≤ a.score := by
  obtain ⟨hcontrols, himages, hclicks, hhidden, hheadings, hlabels⟩ := h
  have hpenalty : a.penalty ≤ other.penalty := by
    unfold penalty
    gcongr
  have hbonus : other.bonus ≤ a.bonus := by
    unfold bonus
    gcongr
  rw [score_eq, score_eq]
  exact Score.clamp_mono (by linarith)

/-- Findings depend on no order and add up, with labels that point across counting besides, and the
score is a percentage that follows the counts. -/
theorem assess_exact :
    (∀ elements others : List Element, elements.Perm others → assess elements = assess others) ∧
      (∀ first second : List Element,
        AddUp (assess first) (assess second) (assess (first ++ second)) ∧
          ((∀ one ∈ first, ∀ other ∈ second, ¬PointsAt one other ∧ ¬PointsAt other one) →
            (assess (first ++ second)).labelledFields =
              (assess first).labelledFields + (assess second).labelledFields)) ∧
      ∀ a : Accessibility, (a.score : ℚ) ∈ Set.Icc 0 100 ∧
        (a.issueCount = 0 → (a.score : ℚ) = 100) ∧
        ∀ other, a.IsNoWorse other → (other.score : ℚ) ≤ a.score := by
  refine ⟨fun _ _ => assess_perm, fun first second => ⟨?_, ?_⟩, fun a => ⟨?_, ?_, fun _ => ?_⟩⟩
  · exact addUp_assess first second
  · exact labelledFields_append_of_apart
  · exact a.score_mem_Icc
  · exact score_of_issueCount_eq_zero
  · exact score_le_score

/-- A label for the field of the given identifier. -/
def labelFor (id : String) : Element :=
  ⟨"label", [⟨"htmlFor", some id⟩], false, true⟩

def fieldOf (id : String) : Element :=
  ⟨"input", [⟨"id", some id⟩], true, false⟩

theorem assess_exact_labels :
    let login := [labelFor "name", fieldOf "name", ⟨"h1", [], false, true⟩]
    let search := [fieldOf "query", labelFor "query", ⟨"button", [], false, false⟩]
    assess (login ++ search) = assess (search ++ login) ∧
      (assess (login ++ search)).labelledFields = 2 ∧
      ((assess login).score : ℚ) = 100 ∧ ((assess (login ++ search)).score : ℚ) = 71 ∧
      ((assess search).score : ℚ) ≤ (assess login).score := by
  intro login search
  obtain ⟨hperm, happend, hscore⟩ := assess_exact
  have hapart : ∀ one ∈ login, ∀ other ∈ search, ¬PointsAt one other ∧ ¬PointsAt other one := by
    have hids : ∀ one ∈ login, ∀ other ∈ search,
        (one.attributeValue? "htmlFor").all (other.attributeValue? "id" != some ·) = true ∧
          (other.attributeValue? "htmlFor").all (one.attributeValue? "id" != some ·) = true := by
      decide
    intro one hone other hother
    obtain ⟨hforward, hback⟩ := hids one hone other hother
    refine ⟨?_, ?_⟩
    · rintro ⟨-, -, id, hfor, hid⟩
      simp [hfor, hid] at hforward
    · rintro ⟨-, -, id, hfor, hid⟩
      simp [hfor, hid] at hback
  have hlabels := (happend login search).2 hapart
  refine ⟨hperm _ _ List.perm_append_comm, hlabels, ?_, by decide +kernel, ?_⟩
  · exact (hscore _).2.1 (by decide)
  · refine (hscore _).2.2 _ ⟨?_, ?_, ?_, ?_, ?_, ?_⟩ <;> decide

end GapAudit.Accessibility
