import Mathlib
import GapAudit.Decimal.Binary

/-!
# Doubles that are numbers

A double is a number exactly when it has a mantissa and an exponent (`isFinite_iff`). A double is a
number again after its sign was changed (`isFinite_neg`), and so is the double of every whole number
of 64 bits (`isFinite_ofWord`): rounding such a number cannot reach the largest exponent.
-/

namespace GapAudit.Decimal

open Float.Model (Format UnpackedFloat totalExponent)
open Float.Model.UnpackedFloat

lemma isFinite_unpack_iff (b : BitVec Format.binary64.numBits) :
    (unpack Format.binary64 b).isFinite = true ↔
      unpackExponent b ≠ -1#11 := by
  unfold unpack
  by_cases hones : unpackExponent b = -1#11
  · simp only [hones, if_true, ne_eq, not_true, iff_false]
    split <;> simp [UnpackedFloat.isFinite]
  · simp only [hones, if_false, ne_eq, not_false_eq_true, iff_true]
    split
    · split <;> rfl
    · rfl

lemma unpackExponent_eq_ones_iff (b : BitVec Format.binary64.numBits) :
    unpackExponent b = -1#11 ↔ b.toNat / 2 ^ 52 % 2 ^ 11 = 2047 := by
  have hvalue : (unpackExponent b).toNat = b.toNat / 2 ^ 52 % 2 ^ 11 := by
    simp [unpackExponent, Nat.shiftRight_eq_div_pow]
  rw [← BitVec.toNat_inj, hvalue]
  rfl

lemma Binary.ofFields_eq_finite_iff (negative : Bool) (biased fraction : Nat) :
    (∃ sign mantissa exponent, ofFields negative biased fraction = .finite sign mantissa exponent) ↔
      biased ≠ 2047 := by
  unfold ofFields
  by_cases hones : biased = 2047
  · by_cases hzero : fraction = 0 <;> simp [hones, hzero]
  · by_cases hzero : biased = 0 <;> simp [hones, hzero]

/-- The doubles that are numbers are those with a sign, a mantissa and an exponent. -/
theorem isFinite_iff (x : Float) :
    x.isFinite = true ↔
      ∃ sign mantissa exponent, Binary.ofFloat x = .finite sign mantissa exponent := by
  have hunpack := isFinite_unpack_iff x.toModel.toBits.toBitVec
  rw [Ne, unpackExponent_eq_ones_iff] at hunpack
  rw [Binary.ofFloat, Binary.ofFields_eq_finite_iff]
  exact hunpack

/-- An unpacked number that is not too large to be packed. -/
def Packable : UnpackedFloat → Prop
  | .notANumber | .infinity _ => False
  | .zero _ => True
  | .finite _ _ exponent _ => exponent ≤ 971

lemma isFinite_pack {u : UnpackedFloat} (h : Packable u) :
    (unpack Format.binary64 (pack Format.binary64 u)).isFinite = true := by
  refine (isFinite_unpack_iff _).mpr ?_
  cases u with
  | notANumber => exact h.elim
  | infinity sign => exact h.elim
  | zero sign => simp [pack, packedZero]
  | finite sign mantissa exponent hpos =>
    have hbound : exponent ≤ 971 := h
    change unpackExponent (if 2 ^ 11 ≤ (exponent + 1023 + 52).toNat + 1 then _ else _) ≠ _
    rw [if_neg (by omega)]
    split
    · rw [unpackExponent_packComponents]
      intro hones
      have hnat : (exponent + 1023 + 52).toNat % 2 ^ 11 = 2 ^ 11 - 1 := congrArg BitVec.toNat hones
      omega
    · simp

lemma packable_unpack {b : BitVec Format.binary64.numBits}
    (h : (unpack Format.binary64 b).isFinite = true) :
    Packable (unpack Format.binary64 b) := by
  have hexponent := (isFinite_unpack_iff b).mp h
  obtain ⟨biased, hbiased⟩ : ∃ biased, biased = (unpackExponent b).toNat := ⟨_, rfl⟩
  have hlt : biased < 2 ^ 11 := hbiased ▸ (unpackExponent b).isLt
  have hne : biased ≠ 2047 := by
    intro heq
    exact hexponent (BitVec.eq_of_toNat_eq (hbiased.symm.trans heq))
  have hbias : (Format.binary64.exponentBias : Int) = 1023 := rfl
  unfold unpack
  simp only [hexponent, if_false]
  split
  next hsubnormal =>
    split
    · trivial
    · have hzero : biased = 0 := hbiased.trans (congrArg BitVec.toNat hsubnormal)
      simp only [Packable, hbias, ← hbiased]
      omega
  · simp only [Packable, hbias, ← hbiased]
    omega

/-- A number with its sign changed is a number. -/
theorem isFinite_neg {x : Float} (h : x.isFinite = true) : (-x).isFinite = true := by
  have hpackable : Packable x.toModel.unpack := packable_unpack h
  have hneg : Packable x.toModel.unpack.neg := by
    cases hu : x.toModel.unpack with
    | notANumber => rw [hu] at hpackable; exact hpackable.elim
    | infinity sign => rw [hu] at hpackable; exact hpackable.elim
    | zero sign => trivial
    | finite sign mantissa exponent hpos =>
      rw [hu] at hpackable
      exact hpackable
  exact isFinite_pack hneg

lemma mantissa_shiftRight_le (em : ExtendedMantissa) (k : Nat) :
    (em >>> k).mantissa ≤ em.mantissa := by
  induction k with
  | zero => exact le_refl _
  | succ k ih =>
    change (em >>> k).mantissa / 2 ≤ em.mantissa
    omega

lemma roundedMantissa_le (em : ExtendedMantissa) : em.roundedMantissa ≤ em.mantissa + 1 := by
  obtain ⟨mantissa, roundBit, stickyBit⟩ := em
  cases roundBit <;> cases stickyBit <;>
    simp [ExtendedMantissa.roundedMantissa, ExtendedMantissa.accuracy, Accuracy.roundToNearestEven]
  omega

lemma shiftToTargetExponent_le (mantissa : Nat) (exponent : Int) :
    (shiftToTargetExponent Format.binary64 mantissa exponent .exact).1.mantissa ≤ mantissa ∧
      (shiftToTargetExponent Format.binary64 mantissa exponent .exact).2 ≤
        max exponent (max (mantissa.log2 + exponent - 52) (-1074)) := by
  refine ⟨mantissa_shiftRight_le _ _, ?_⟩
  have htarget : Format.binary64.targetExponent (totalExponent mantissa exponent) =
      max (mantissa.log2 + 1 + exponent - 53) (-1074) := rfl
  change exponent + ((Format.binary64.targetExponent _ - exponent).toNat : Int) ≤ _
  rw [htarget]
  omega

lemma packable_roundWithAccuracy {sign : Sign} {mantissa : Nat} {exponent : Int}
    (hmantissa : mantissa < 2 ^ 116) (hexponent : exponent ≤ 0) :
    Packable (roundWithAccuracy Format.binary64 sign mantissa exponent .exact) := by
  -- The mantissa is shifted and rounded, and what rounding carried over is shifted again.
  obtain ⟨hshifted, hfirst⟩ := shiftToTargetExponent_le mantissa exponent
  set first := shiftToTargetExponent Format.binary64 mantissa exponent .exact
  have hrounded : first.1.roundedMantissa ≤ 2 ^ 116 := by
    have hle := roundedMantissa_le first.1
    omega
  obtain ⟨-, hsecond⟩ := shiftToTargetExponent_le first.1.roundedMantissa first.2
  have hlog : mantissa.log2 ≤ 116 := by
    rw [Nat.log2_eq_log_two]
    exact (Nat.log_mono_right hmantissa.le).trans (Nat.log_pow (by decide) 116).le
  have hlogRounded : first.1.roundedMantissa.log2 ≤ 116 := by
    rw [Nat.log2_eq_log_two]
    exact (Nat.log_mono_right hrounded).trans (Nat.log_pow (by decide) 116).le
  unfold roundWithAccuracy
  dsimp only
  split
  · trivial
  · change (shiftToTargetExponent Format.binary64 first.1.roundedMantissa first.2 .exact).2 ≤ 971
    omega

lemma packable_round {sign : Sign} {n : Nat} (h : n < 2 ^ 64) :
    Packable (UnpackedFloat.round Format.binary64 sign n 0) := by
  have htarget : Format.binary64.targetExponent (totalExponent n 0) =
      max ((n.log2 : Int) + 1 + 0 - 53) (-1074) := rfl
  have hshift : (0 - Format.binary64.targetExponent (totalExponent n 0)).toNat ≤ 52 := by
    rw [htarget]
    omega
  unfold UnpackedFloat.round decreaseExponent
  refine packable_roundWithAccuracy ?_ (by omega)
  rw [Nat.shiftLeft_eq]
  calc
    _ ≤ n * 2 ^ 52 := Nat.mul_le_mul_left n (Nat.pow_le_pow_right (by decide) hshift)
    _ < 2 ^ 64 * 2 ^ 52 := Nat.mul_lt_mul_of_pos_right h (by decide)
    _ = 2 ^ 116 := by decide

/-- The double next to a whole number of 64 bits is a number. -/
theorem isFinite_ofWord (n : UInt64) : n.toFloat.isFinite = true := by
  refine isFinite_pack (u := ofInt Format.binary64 n.toNat) ?_
  unfold ofInt UnpackedFloat.normalize
  split
  · rename_i hneg
    rw [compare_lt_iff_lt] at hneg
    omega
  · trivial
  · exact packable_round n.toNat_lt

end GapAudit.Decimal
