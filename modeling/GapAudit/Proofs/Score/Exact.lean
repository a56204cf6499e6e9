import GapAudit.Proofs.Score.Mean

/-!
# Exact scores and deductions

Over rational numbers a score is a number cut off at 0 and at 100 (`clamp_eq`), a deduction one cut
off at 0 and at its cap (`capped_eq`), and a whole number is reached by rounding from one half below
it on (`le_roundRat_iff`).
-/

namespace GapAudit

lemma le_roundRat_iff {n : ℕ} (hn : 0 < n) {x : ℚ} :
    (n : ℚ) ≤ roundRat x ↔ (n : ℚ) - 1 / 2 ≤ x := by
  have hone : (1 : ℚ) ≤ n := by exact_mod_cast hn
  by_cases hx : x < 0
  · have hround := roundRat_nonpos hx
    constructor
    · intro h
      linarith
    · intro h
      linarith
  · rw [roundRat_of_nonneg (not_lt.mp hx)]
    have hfloor : (n : ℤ) ≤ ⌊x + 1 / 2⌋ ↔ ((n : ℤ) : ℚ) ≤ x + 1 / 2 := Int.le_floor
    rw [Int.cast_natCast] at hfloor
    rw [sub_le_iff_le_add, ← hfloor]
    exact_mod_cast Iff.rfl

namespace Arithmetic

lemma lesser_eq_min (x y : ℚ) : lesser x y = min x y := by
  have hle : lesser x y = if x ≤ y then x else if y ≤ y then y else x := by
    simp [lesser, le]
  rw [hle, if_pos le_rfl]
  rfl

lemma greater_eq_max (x y : ℚ) : greater x y = max x y := by
  have hle : greater x y = if y ≤ x then x else if y ≤ y then y else x := by
    simp [greater, le]
  rw [hle, if_pos le_rfl, max_comm]
  rfl

end Arithmetic

namespace Score

lemma clamp_eq (x : ℚ) : clamp x = max 0 (min x 100) := by
  have hclamp : clamp x = if x < 0 then 0 else if 100 < x then 100 else x := by
    have hself : (Arithmetic.le x x) = true := decide_eq_true le_rfl
    have hlow : Arithmetic.lt x 0 = decide (x < 0) := rfl
    have hhigh : Arithmetic.lt 100 x = decide ((100 : ℚ) < x) := rfl
    rw [clamp, hself, hlow, hhigh]
    simp only [Bool.not_true, Bool.false_eq_true, if_false, decide_eq_true_eq]
  rw [hclamp]
  by_cases hlow : x < 0
  · rw [if_pos hlow, max_eq_left ((min_le_left x 100).trans hlow.le)]
  · rw [if_neg hlow]
    by_cases hhigh : 100 < x
    · rw [if_pos hhigh, min_eq_right hhigh.le]
      norm_num
    · rw [if_neg hhigh, min_eq_left (not_lt.mp hhigh), max_eq_right (not_lt.mp hlow)]

lemma clamp_le (x : ℚ) : clamp x ≤ 100 := by
  rw [clamp_eq]
  exact max_le (by norm_num) (min_le_right x 100)

lemma clamp_clamp (x : ℚ) : clamp (clamp x) = clamp x := by
  rw [clamp_eq (clamp x), min_eq_left (clamp_le x), clamp_eq x, max_eq_right (le_max_left 0 _)]

/-- What a deduction leaves of the full score. -/
lemma clamp_sub {deduction : ℚ} (h : 0 ≤ deduction) :
    clamp (100 - deduction) = max 0 (100 - deduction) := by
  rw [clamp_eq, min_eq_left (by linarith)]

lemma clamp_sub_eq_hundred_iff {deduction : ℚ} (h : 0 ≤ deduction) :
    clamp (100 - deduction) = 100 ↔ deduction = 0 := by
  rw [clamp_sub h]
  constructor
  · intro heq
    by_contra hne
    have hpos : 0 < deduction := lt_of_le_of_ne h (Ne.symm hne)
    have hlt : max 0 (100 - deduction) < 100 := max_lt (by norm_num) (by linarith)
    exact hlt.ne heq
  · rintro rfl
    norm_num

lemma clamp_mono : Monotone (clamp : ℚ → ℚ) := by
  intro x y hxy
  rw [clamp_eq, clamp_eq]
  exact max_le_max le_rfl (min_le_min hxy le_rfl)

lemma roundHundredths_mem_Icc (low high : ℕ) {x : ℚ} (h : x ∈ Set.Icc (low : ℚ) high) :
    roundHundredths x ∈ Set.Icc (low : ℚ) high := by
  rw [← roundHundredths_natCast low, ← roundHundredths_natCast high]
  exact ⟨roundHundredths_mono h.1, roundHundredths_mono h.2⟩

lemma capped_eq (deduction cap : ℚ) : capped deduction cap = max (min deduction cap) 0 := by
  rw [capped, Arithmetic.lesser_eq_min, Arithmetic.greater_eq_max]

lemma capped_mem_Icc (deduction : ℚ) {cap : ℚ} (hcap : 0 ≤ cap) :
    capped deduction cap ∈ Set.Icc 0 cap := by
  rw [capped_eq]
  exact ⟨le_max_right _ _, max_le (min_le_right _ _) hcap⟩

lemma capped_count_mono {n m : ℕ} (h : n ≤ m) {weight : ℚ} (hweight : 0 ≤ weight) (cap : ℚ) :
    capped (n * weight) cap ≤ capped (m * weight) cap := by
  have hmore : (n : ℚ) * weight ≤ m * weight := by gcongr
  rw [capped_eq, capped_eq]
  exact max_le_max (min_le_min hmore le_rfl) le_rfl

lemma capped_count_pos_iff (n : ℕ) {weight cap : ℚ} (hweight : 0 < weight) (hcap : 0 < cap) :
    0 < capped (n * weight) cap ↔ ¬n = 0 := by
  rw [capped_eq, lt_max_iff, or_iff_left (lt_irrefl 0), lt_min_iff, and_iff_left hcap,
    mul_pos_iff_of_pos_right hweight, Nat.cast_pos, Nat.pos_iff_ne_zero]

end Score

end GapAudit
