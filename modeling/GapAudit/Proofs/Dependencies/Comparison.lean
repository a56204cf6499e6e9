import Mathlib
import GapAudit.Proofs.Dependencies.Runtime
import GapAudit.Proofs.Project.GapIds
import GapAudit.Proofs.Score.Exact

/-!
# Declared packages against imported ones

A report sorts the packages that are only imported and those that are only declared into classes
(`compares_ofPackages`), counts them without loss, and has a gap for each missing package and for
each kind of unused ones (`kinds_gaps`). The exact score is full just when there is no gap, and one
more import that is not declared makes it worse (`score_lt_of_new_import`). The main statement puts
these together (`ofPackages_exact`).
-/

namespace GapAudit

open Arithmetic

namespace DependencyReport

/-- A tool or a plugin of one, which is used without being imported. -/
def UsedByTools (package : String) : Prop :=
  package ∈ implicitPackages ∨ ∃ start ∈ pluginBeginnings, start.toList <+: package.toList

/-- A package that ready-made building blocks need. -/
def KeptForKit (package : String) : Prop :=
  package ∈ protectedPackages ∨ ∃ start ∈ protectedBeginnings, start.toList <+: package.toList

lemma beginsWithAny_iff {beginnings : List String} {s : String} :
    beginsWithAny beginnings s = true ↔ ∃ start ∈ beginnings, start.toList <+: s.toList := by
  simp only [beginsWithAny, List.any_eq_true, Text.startsWith_iff]

lemma isImplicit_iff {package : String} : isImplicit package = true ↔ UsedByTools package := by
  rw [isImplicit, Bool.or_eq_true, List.contains_iff_mem, beginsWithAny_iff, UsedByTools]

lemma isProtected_iff {package : String} : isProtected package = true ↔ KeptForKit package := by
  rw [isProtected, Bool.or_eq_true, List.contains_iff_mem, beginsWithAny_iff, KeptForKit]

/-- What a report says about declared and imported packages and the name of a project. -/
structure Compares (r : DependencyReport) (declared imported : List String)
    (projectName : Option String) : Prop where
  missing : ∀ package, package ∈ r.missing ↔ package ∈ imported ∧ package ∉ declared ∧
    ¬Modules.IsListed package ∧ projectName ≠ some package
  critical : ∀ package, package ∈ r.criticalMissing ↔
    package ∈ r.missing ∧ package ∈ criticalPackages
  other : ∀ package, package ∈ r.otherMissing ↔ package ∈ r.missing ∧ package ∉ criticalPackages
  unused : ∀ package, package ∈ r.unused ↔
    package ∈ declared ∧ package ∉ imported ∧ ¬UsedByTools package
  removable : ∀ package, package ∈ r.removable ↔ package ∈ r.unused ∧ ¬KeptForKit package
  increasing : ∀ packages ∈ [r.missing, r.criticalMissing, r.otherMissing, r.unused, r.removable],
    packages.Pairwise (· < ·)
  missing_disjoint : r.missing.Disjoint declared
  unused_disjoint : r.unused.Disjoint imported
  length_missing : r.criticalMissing.length + r.otherMissing.length = r.missing.length
  length_removable : r.removable.length ≤ r.unused.length

lemma otherMissing_eq (r : DependencyReport) :
    r.otherMissing = r.missing.filter fun package => !criticalPackages.contains package := by
  apply List.filter_congr
  intro package hmem
  rw [Bool.eq_iff_iff, Bool.not_eq_true', Bool.not_eq_true', ← Bool.not_eq_true,
    ← Bool.not_eq_true, List.contains_iff_mem, criticalMissing, List.mem_filter]
  exact not_congr (and_iff_right hmem)

lemma length_criticalMissing_add (r : DependencyReport) :
    r.criticalMissing.length + r.otherMissing.length = r.missing.length := by
  have hsum := List.length_eq_length_filter_add (l := r.missing) criticalPackages.contains
  rw [otherMissing_eq, criticalMissing]
  exact hsum.symm

lemma removable_sublist (r : DependencyReport) : r.removable.Sublist r.unused :=
  List.filter_sublist

lemma mem_unused_ofPackages {package : String} {declared imported : List String}
    {projectName : Option String} :
    package ∈ (ofPackages declared imported projectName).unused ↔
      package ∈ declared ∧ package ∉ imported ∧ ¬UsedByTools package := by
  unfold unused ofPackages
  rw [List.mem_filter, mem_distinctSorted, ← isImplicit_iff]
  simp [mem_distinctSorted]

theorem compares_ofPackages (declared imported : List String) (projectName : Option String) :
    (ofPackages declared imported projectName).Compares declared imported projectName where
  missing := fun _ => mem_missing_ofPackages
  critical := by
    intro package
    rw [criticalMissing, List.mem_filter, List.contains_iff_mem]
  other := by
    intro package
    rw [otherMissing_eq, List.mem_filter, Bool.not_eq_true', ← Bool.not_eq_true,
      List.contains_iff_mem]
  unused := fun _ => mem_unused_ofPackages
  removable := by
    intro package
    rw [removable, List.mem_filter, Bool.not_eq_true', ← Bool.not_eq_true, isProtected_iff]
  increasing := by
    have hmissing : (ofPackages declared imported projectName).missing.Pairwise (· < ·) :=
      (pairwise_distinctSorted imported).sublist List.filter_sublist
    have hunused : (ofPackages declared imported projectName).unused.Pairwise (· < ·) :=
      (pairwise_distinctSorted declared).sublist List.filter_sublist
    simp only [List.forall_mem_cons]
    exact ⟨hmissing, hmissing.sublist List.filter_sublist, hmissing.sublist List.filter_sublist,
      hunused, hunused.sublist List.filter_sublist, by simp⟩
  missing_disjoint := fun _ hmissing hdeclared =>
    (mem_missing_ofPackages.mp hmissing).2.1 hdeclared
  unused_disjoint := fun _ hunused himported => (mem_unused_ofPackages.mp hunused).2.1 himported
  length_missing := length_criticalMissing_add _
  length_removable := (removable_sublist _).length_le

/-- The identifiers and severities of the gaps, class by class. -/
def gapKinds (r : DependencyReport) : List (String × Severity) :=
  r.criticalMissing.map (fun package => (tag package "dependency-missing", Severity.critical)) ++
    r.otherMissing.map (fun package => (tag package "dependency-missing", Severity.high)) ++
    (if r.removable = [] then [] else [("dependency-removable", Severity.low)]) ++
    (if r.unused = r.removable then [] else [("dependency-unused", Severity.low)])

lemma length_unused_sub_eq_zero_iff (r : DependencyReport) :
    r.unused.length - r.removable.length = 0 ↔ r.unused = r.removable := by
  rw [Nat.sub_eq_zero_iff_le]
  constructor
  · intro hle
    exact (r.removable_sublist.eq_of_length_le hle).symm
  · intro heq
    rw [← heq]

theorem kinds_gaps (r : DependencyReport) (manifest : String) :
    (r.gaps manifest).map (fun gap => (gap.id, gap.severity)) = r.gapKinds := by
  have hremovable : (removableGap? manifest r.removable).toList.map
      (fun gap => (gap.id, gap.severity)) =
        if r.removable = [] then [] else [("dependency-removable", .low)] := by
    unfold removableGap?
    by_cases h : r.removable = []
    · simp [h]
    · simp [h]
  have hunused : (unusedGap? manifest (r.unused.length - r.removable.length)).toList.map
      (fun gap => (gap.id, gap.severity)) =
        if r.unused = r.removable then [] else [("dependency-unused", .low)] := by
    simp only [unusedGap?, length_unused_sub_eq_zero_iff]
    by_cases h : r.unused = r.removable
    · simp [h]
    · simp [h]
  unfold gaps gapKinds
  simp only [List.map_append, List.map_map, hremovable, hunused]
  rfl

lemma gaps_eq_nil_iff (r : DependencyReport) (manifest : String) :
    r.gaps manifest = [] ↔ r.criticalMissing = [] ∧ r.otherMissing = [] ∧ r.unused = [] := by
  have hkinds := r.kinds_gaps manifest
  rw [← List.map_eq_nil_iff (f := fun gap : Gap => (gap.id, gap.severity)), hkinds, gapKinds]
  simp only [List.append_eq_nil_iff, List.map_eq_nil_iff, ite_eq_left_iff, List.cons_ne_nil,
    imp_false, not_not]
  constructor
  · rintro ⟨⟨⟨hcritical, hother⟩, hremovable⟩, hunused⟩
    exact ⟨hcritical, hother, hunused.trans hremovable⟩
  · rintro ⟨hcritical, hother, hunused⟩
    have hremovable : r.removable = [] := List.sublist_nil.mp (hunused ▸ r.removable_sublist)
    exact ⟨⟨⟨hcritical, hother⟩, hremovable⟩, hunused.trans hremovable.symm⟩

/-- What is taken off the full score. -/
def deduction (r : DependencyReport) : ℚ :=
  30 * r.criticalMissing.length + 10 * r.otherMissing.length + 2 * r.unused.length

lemma deduction_nonneg (r : DependencyReport) : 0 ≤ r.deduction := by
  unfold deduction
  positivity

lemma deduction_eq_zero_iff (r : DependencyReport) :
    r.deduction = 0 ↔ r.criticalMissing = [] ∧ r.otherMissing = [] ∧ r.unused = [] := by
  unfold deduction
  rw [add_eq_zero_iff_of_nonneg (by positivity) (by positivity),
    add_eq_zero_iff_of_nonneg (by positivity) (by positivity)]
  simp [and_assoc]

lemma score_eq (r : DependencyReport) : (r.score : ℚ) = Score.clamp (100 - r.deduction) := by
  have hother : r.missing.length - r.criticalMissing.length = r.otherMissing.length := by
    have hsum := r.length_criticalMissing_add
    omega
  have hscore : (r.score : ℚ) = Score.clamp (100 - (r.criticalMissing.length : ℚ) * 30 -
      ((r.missing.length - r.criticalMissing.length : ℕ) : ℚ) * 10 -
      (r.unused.length : ℚ) * 2) := rfl
  rw [hscore, hother]
  congr 1
  unfold deduction
  ring

lemma score_eq_max (r : DependencyReport) : (r.score : ℚ) = max 0 (100 - r.deduction) := by
  rw [score_eq, Score.clamp_sub r.deduction_nonneg]

lemma score_eq_hundred_iff (r : DependencyReport) (manifest : String) :
    (r.score : ℚ) = 100 ↔ r.gaps manifest = [] := by
  rw [score_eq, Score.clamp_sub_eq_hundred_iff r.deduction_nonneg, deduction_eq_zero_iff,
    gaps_eq_nil_iff]

/-- What a missing package takes off the score. -/
def missingCost (package : String) : ℚ :=
  if package ∈ criticalPackages then 30 else 10

lemma missingCost_pos (package : String) : 0 < missingCost package := by
  unfold missingCost
  split <;> norm_num

section NewImport

variable {declared imported : List String} {projectName : Option String} {package : String}

lemma unused_of_new_import (hdeclared : package ∉ declared) :
    (ofPackages declared (package :: imported) projectName).unused =
      (ofPackages declared imported projectName).unused := by
  apply List.filter_congr
  intro other hother
  have hne : other ≠ package := by
    rintro rfl
    exact hdeclared (mem_distinctSorted.mp hother)
  have hmem : other ∈ distinctSorted (package :: imported) ↔ other ∈ distinctSorted imported := by
    rw [mem_distinctSorted, mem_distinctSorted, List.mem_cons, or_iff_right hne]
  simp only [ofPackages, List.contains_eq_mem, hmem]

variable (hnew : package ∉ imported) (hdeclared : package ∉ declared)
  (hlisted : ¬Modules.IsListed package) (hname : projectName ≠ some package)

include hnew hdeclared hlisted hname

lemma missing_of_new_import :
    (ofPackages declared (package :: imported) projectName).missing.Perm
      (package :: (ofPackages declared imported projectName).missing) := by
  have hnodup : (ofPackages declared (package :: imported) projectName).missing.Nodup :=
    (nodup_distinctSorted _).filter _
  have hrest : (package :: (ofPackages declared imported projectName).missing).Nodup := by
    refine List.nodup_cons.mpr ⟨fun h => hnew (mem_missing_ofPackages.mp h).1, ?_⟩
    exact (nodup_distinctSorted _).filter _
  rw [List.perm_ext_iff_of_nodup hnodup hrest]
  intro other
  rw [List.mem_cons, mem_missing_ofPackages, mem_missing_ofPackages, List.mem_cons, or_and_right]
  constructor
  · rintro (⟨heq, -⟩ | h)
    · exact .inl heq
    · exact .inr h
  · rintro (rfl | h)
    · exact .inl ⟨rfl, hdeclared, hlisted, hname⟩
    · exact .inr h

lemma deduction_of_new_import :
    (ofPackages declared (package :: imported) projectName).deduction =
      (ofPackages declared imported projectName).deduction + missingCost package := by
  have hmissing := missing_of_new_import hnew hdeclared hlisted hname
  have hcritical := (hmissing.filter criticalPackages.contains).length_eq
  have hother := (hmissing.filter fun name => !criticalPackages.contains name).length_eq
  unfold deduction missingCost
  rw [unused_of_new_import hdeclared, otherMissing_eq, otherMissing_eq, criticalMissing,
    criticalMissing, hcritical, hother]
  by_cases h : package ∈ criticalPackages
  · rw [List.filter_cons_of_pos (by simpa using h), List.filter_cons_of_neg (by simpa using h),
      List.length_cons, if_pos h]
    push_cast
    ring
  · rw [List.filter_cons_of_neg (by simpa using h), List.filter_cons_of_pos (by simpa using h),
      List.length_cons, if_neg h]
    push_cast
    ring

lemma score_of_new_import :
    ((ofPackages declared (package :: imported) projectName).score : ℚ) =
      max 0 ((ofPackages declared imported projectName).score - missingCost package) := by
  have hmore := deduction_of_new_import hnew hdeclared hlisted hname
  have hcost := (missingCost_pos package).le
  rw [score_eq_max, score_eq_max, hmore, ← sub_sub]
  -- Where nothing is left already, the cost of another package is not felt.
  rcases le_total 0 (100 - (ofPackages declared imported projectName).deduction) with hleft | hleft
  · rw [max_eq_right hleft]
  · rw [max_eq_left hleft, max_eq_left (by linarith), max_eq_left (by linarith)]

theorem score_lt_of_new_import :
    ((ofPackages declared (package :: imported) projectName).score : ℚ) ≤
        (ofPackages declared imported projectName).score ∧
      (0 < ((ofPackages declared imported projectName).score : ℚ) →
        ((ofPackages declared (package :: imported) projectName).score : ℚ) <
          (ofPackages declared imported projectName).score) := by
  have hcost := missingCost_pos package
  rw [score_of_new_import hnew hdeclared hlisted hname]
  constructor
  · have hnonneg : (0 : ℚ) ≤ (ofPackages declared imported projectName).score := by
      rw [score_eq_max]
      exact le_max_left _ _
    exact max_le hnonneg (by linarith)
  · intro hscore
    exact max_lt hscore (by linarith)

end NewImport

/-- The comparison of any declared with any imported packages. -/
theorem ofPackages_exact (declared imported : List String) (projectName : Option String)
    (manifest : String) :
    let r := ofPackages declared imported projectName
    r.Compares declared imported projectName ∧
    (r.gaps manifest).map (fun gap => (gap.id, gap.severity)) = r.gapKinds ∧
    ((r.gaps manifest).map (·.id)).Nodup ∧
    (r.score : ℚ) = max 0 (100 - 30 * (r.criticalMissing.length : ℚ) -
      10 * (r.otherMissing.length : ℚ) - 2 * (r.unused.length : ℚ)) ∧
    ((r.score : ℚ) = 100 ↔ r.gaps manifest = []) ∧
    ∀ package, package ∉ imported → package ∉ declared → ¬Modules.IsListed package →
      projectName ≠ some package →
      let more := ofPackages declared (package :: imported) projectName
      (more.score : ℚ) ≤ r.score ∧ (0 < (r.score : ℚ) → (more.score : ℚ) < r.score) := by
  intro r
  have hscore : (r.score : ℚ) = max 0 (100 - 30 * (r.criticalMissing.length : ℚ) -
      10 * (r.otherMissing.length : ℚ) - 2 * (r.unused.length : ℚ)) := by
    rw [score_eq_max, deduction, ← sub_sub, ← sub_sub]
  refine ⟨compares_ofPackages declared imported projectName, r.kinds_gaps manifest,
    ids_nodup (nodup_distinctSorted imported) manifest, hscore, r.score_eq_hundred_iff manifest, ?_⟩
  intro package hnew hdeclared hlisted hname
  exact score_lt_of_new_import hnew hdeclared hlisted hname

theorem ofPackages_exact_lodash :
    let declared := ["react", "clsx", "vite"]
    let r := ofPackages declared ["react", "zod"] (some "shop")
    let more := ofPackages declared ["lodash", "react", "zod"] (some "shop")
    ("lodash" ∉ ["react", "zod"] ∧ "lodash" ∉ declared ∧ ¬Modules.IsListed "lodash" ∧
      some "shop" ≠ some "lodash") ∧
    0 < (r.score : ℚ) ∧ r.Compares declared ["react", "zod"] (some "shop") ∧
    (more.score : ℚ) < r.score := by
  intro declared r more
  have hnew : "lodash" ∉ ["react", "zod"] := by decide
  have hdeclared : "lodash" ∉ declared := by decide
  have hlisted : ¬Modules.IsListed "lodash" :=
    (Modules.isBuiltin_iff "lodash").not.mp (by decide +kernel)
  have hname : some "shop" ≠ some "lodash" := by decide
  have hpos : 0 < (r.score : ℚ) := by decide +kernel
  obtain ⟨hcompares, -, -, -, -, hmore⟩ :=
    ofPackages_exact declared ["react", "zod"] (some "shop") "package.json"
  exact ⟨⟨hnew, hdeclared, hlisted, hname⟩, hpos, hcompares,
    (hmore "lodash" hnew hdeclared hlisted hname).2 hpos⟩

end DependencyReport

end GapAudit
