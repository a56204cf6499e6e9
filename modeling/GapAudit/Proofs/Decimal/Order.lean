import Mathlib
import GapAudit.Proofs.Decimal.Finite

/-!
# Doubles in the order of their values

A double that is a number has an exact value among the rational numbers (`value?`). Its mantissa and
its exponent are determined by that value, as the mantissa is as large as it can be
(`IsCanonical`). Numbers therefore compare as their values do (`le_iff_of_value?`), and what lies
between two numbers is a number itself (`exists_value?_of_between`).
-/

namespace GapAudit.Decimal

open Float.Model (Format UnpackedFloat)
open Float.Model.UnpackedFloat

/-- The exact value of what a double stands for, if that is a number. -/
def Binary.value? : Binary → Option ℚ
  | .finite negative mantissa exponent =>
    some ((if negative then -1 else 1) * (mantissa * 2 ^ exponent))
  | _ => none

def value? (x : Float) : Option ℚ :=
  (Binary.ofFloat x).value?

/-- A mantissa and an exponent as a double has them: the mantissa has 53 bits, fewer only with the
least exponent. -/
structure IsCanonical (mantissa : ℕ) (exponent : ℤ) : Prop where
  lt : mantissa < 2 ^ 53
  normal : 2 ^ 52 ≤ mantissa ∨ exponent = -1074
  le : -1074 ≤ exponent

section

variable {m n : ℕ} {e f : ℤ}

lemma IsCanonical.lt_of_exponent_lt (hm : IsCanonical m e) (hn : IsCanonical n f) (h : e < f) :
    (m : ℚ) * 2 ^ e < n * 2 ^ f := by
  have hlarge : 2 ^ 52 ≤ n := hn.normal.resolve_right fun hleast => by
    have hle := hm.le
    omega
  have hmantissa : (m : ℚ) < 2 ^ 53 := by exact_mod_cast hm.lt
  have hmantissa' : (2 : ℚ) ^ 52 ≤ n := by exact_mod_cast hlarge
  calc
    (m : ℚ) * 2 ^ e < 2 ^ 53 * 2 ^ e := by gcongr
    _ = 2 ^ 52 * 2 ^ (e + 1) := by rw [zpow_add_one₀ two_ne_zero]; ring
    _ ≤ 2 ^ 52 * 2 ^ f := by gcongr <;> [norm_num; omega]
    _ ≤ n * 2 ^ f := by gcongr

/-- Numbers above 0 compare by their exponents first. -/
lemma IsCanonical.le_iff (hm : IsCanonical m e) (hn : IsCanonical n f) :
    (m : ℚ) * 2 ^ e ≤ n * 2 ^ f ↔ e < f ∨ e = f ∧ m ≤ n := by
  rcases lt_trichotomy e f with hlt | rfl | hgt
  · exact iff_of_true (hm.lt_of_exponent_lt hn hlt).le (.inl hlt)
  · have hpos : (0 : ℚ) < 2 ^ e := by positivity
    rw [mul_le_mul_iff_left₀ hpos, Nat.cast_le]
    simp
  · have hlt := hn.lt_of_exponent_lt hm hgt
    exact iff_of_false (not_le.mpr hlt) (by omega)

lemma isLE_then_compare :
    ((compare e f).then (compare m n)).isLE = true ↔ e < f ∨ e = f ∧ m ≤ n := by
  rcases lt_trichotomy e f with hlt | rfl | hgt
  · simp [compare_lt_iff_lt.mpr hlt, hlt]
  · simp [Nat.isLE_compare]
  · simp [compare_gt_iff_gt.mpr hgt, hgt.le, hgt.ne']

end

/-- What an unpacked double stands for. -/
def Binary.ofUnpacked : UnpackedFloat → Binary
  | .notANumber => .nan
  | .infinity sign => .infinite (sign == .negative)
  | .zero sign => .finite (sign == .negative) 0 (-1074)
  | .finite sign mantissa exponent _ => .finite (sign == .negative) mantissa exponent

lemma sign_ofBitVec (v : BitVec 1) : (Sign.ofBitVec v == Sign.negative) = (v.toNat == 1) := by
  revert v
  decide

lemma toNat_one_append (v : BitVec 52) : (1#1 ++ v).toNat = v.toNat + 2 ^ 52 := by
  rw [BitVec.toNat_append, Nat.shiftLeft_eq, Nat.mul_comm, ← Nat.two_pow_add_eq_or_of_lt v.isLt]
  simp [Nat.add_comm]

lemma ofUnpacked_unpack (b : BitVec Format.binary64.numBits) :
    Binary.ofUnpacked (unpack Format.binary64 b) =
      .ofFields (b.toNat / 2 ^ 63 % 2 == 1) (b.toNat / 2 ^ 52 % 2 ^ 11) (b.toNat % 2 ^ 52) := by
  have hexponent : (unpackExponent b).toNat = b.toNat / 2 ^ 52 % 2 ^ 11 := by
    simp [unpackExponent, Nat.shiftRight_eq_div_pow]
  have hmantissa : (unpackMantissa b).toNat = b.toNat % 2 ^ 52 := by
    simp [unpackMantissa]
  have hsign : (unpackSign b).toNat = b.toNat / 2 ^ 63 % 2 := by
    simp [unpackSign, Nat.shiftRight_eq_div_pow]
  have hones : unpackExponent b = -1#11 ↔ (unpackExponent b).toNat = 2047 := by
    rw [← BitVec.toNat_inj]
    rfl
  have hleast : unpackExponent b = 0#11 ↔ (unpackExponent b).toNat = 0 := by
    rw [← BitVec.toNat_inj]
    rfl
  have hzero : unpackMantissa b = 0#52 ↔ (unpackMantissa b).toNat = 0 := by
    rw [← BitVec.toNat_inj]
    rfl
  rw [← hexponent, ← hmantissa, ← hsign, ← sign_ofBitVec]
  unfold unpack Binary.ofFields
  simp only [hones, hleast, hzero, beq_iff_eq]
  split_ifs with hinfinite hmantissa hsubnormal hmantissa
  · rfl
  · rfl
  · rw [hmantissa]
    rfl
  · rw [hsubnormal]
    rfl
  · simp only [Binary.ofUnpacked, toNat_one_append]
    rfl

lemma ofFloat_eq (x : Float) : Binary.ofFloat x = .ofUnpacked x.toModel.unpack :=
  (ofUnpacked_unpack x.toModel.toBits.toBitVec).symm

lemma Binary.isCanonical_of_ofFields {negative sign : Bool} {biased fraction m : ℕ} {e : ℤ}
    (hfraction : fraction < 2 ^ 52) (h : ofFields negative biased fraction = .finite sign m e) :
    IsCanonical m e := by
  unfold ofFields at h
  split_ifs at h with hinfinite hmantissa hsubnormal
  · obtain ⟨-, rfl, rfl⟩ := Binary.finite.inj h
    exact ⟨by omega, .inr rfl, le_rfl⟩
  · obtain ⟨-, rfl, rfl⟩ := Binary.finite.inj h
    rw [beq_iff_eq] at hsubnormal
    have hmantissa : Nat.pow 2 52 = 2 ^ 52 := rfl
    exact ⟨by omega, .inl (by omega), by omega⟩

/-- Whether the mantissa and the exponent of an unpacked double, if it has them, are those of a
double. -/
def IsCanonicalIfFinite : UnpackedFloat → Prop
  | .finite _ mantissa exponent _ => IsCanonical mantissa exponent
  | _ => True

lemma isCanonicalIfFinite_unpack (x : Float) : IsCanonicalIfFinite x.toModel.unpack := by
  cases hunpack : x.toModel.unpack with
  | notANumber => trivial
  | infinity sign => trivial
  | zero sign => trivial
  | finite sign m e hm =>
    have hfinite : Binary.ofFloat x = .finite (sign == .negative) m e := by
      rw [ofFloat_eq, hunpack]
      rfl
    exact Binary.isCanonical_of_ofFields (Nat.mod_lt _ (by decide)) hfinite

lemma le_iff_unpack (x y : Float) : x ≤ y ↔ x.toModel.unpack.le y.toModel.unpack = true :=
  decide_eq_true_iff

lemma value?_zero (sign : Sign) : (Binary.ofUnpacked (.zero sign)).value? = some 0 := by
  simp [Binary.ofUnpacked, Binary.value?]

lemma value?_positive {m : ℕ} {e : ℤ} (hm : 0 < m) :
    (Binary.ofUnpacked (.finite .positive m e hm)).value? = some ((m : ℚ) * 2 ^ e) := by
  simp [Binary.ofUnpacked, Binary.value?]

lemma value?_negative {m : ℕ} {e : ℤ} (hm : 0 < m) :
    (Binary.ofUnpacked (.finite .negative m e hm)).value? = some (-((m : ℚ) * 2 ^ e)) := by
  simp [Binary.ofUnpacked, Binary.value?]

lemma magnitude_pos {m : ℕ} (e : ℤ) (hm : 0 < m) : (0 : ℚ) < m * 2 ^ e := by
  have hcast : (0 : ℚ) < m := by exact_mod_cast hm
  positivity

section

variable {v : UnpackedFloat} {q : ℚ}

lemma zero_le_unpacked_iff {sign : Sign} (hq : (Binary.ofUnpacked v).value? = some q) :
    (UnpackedFloat.zero sign).le v = true ↔ 0 ≤ q := by
  cases v with
  | notANumber => cases hq
  | infinity other => cases hq
  | zero other =>
    rw [value?_zero, Option.some_inj] at hq
    exact iff_of_true rfl hq.le
  | finite other n f hn =>
    have hmagnitude := magnitude_pos f hn
    cases other with
    | positive =>
      rw [value?_positive, Option.some_inj] at hq
      exact iff_of_true rfl (by linarith)
    | negative =>
      rw [value?_negative, Option.some_inj] at hq
      exact iff_of_false Bool.false_ne_true (by linarith)

lemma positive_le_unpacked_iff {m : ℕ} {e : ℤ} {hm : 0 < m} (hcanonical : IsCanonical m e)
    (hv : IsCanonicalIfFinite v) (hq : (Binary.ofUnpacked v).value? = some q) :
    (UnpackedFloat.finite .positive m e hm).le v = true ↔ (m : ℚ) * 2 ^ e ≤ q := by
  have hpos := magnitude_pos e hm
  cases v with
  | notANumber => cases hq
  | infinity other => cases hq
  | zero other =>
    rw [value?_zero, Option.some_inj] at hq
    exact iff_of_false Bool.false_ne_true (by linarith)
  | finite other n f hn =>
    have hmagnitude := magnitude_pos f hn
    cases other with
    | positive =>
      rw [value?_positive, Option.some_inj] at hq
      rw [← hq, hcanonical.le_iff hv, ← isLE_then_compare]
      rfl
    | negative =>
      rw [value?_negative, Option.some_inj] at hq
      exact iff_of_false Bool.false_ne_true (by linarith)

lemma negative_le_unpacked_iff {m : ℕ} {e : ℤ} {hm : 0 < m} (hcanonical : IsCanonical m e)
    (hv : IsCanonicalIfFinite v) (hq : (Binary.ofUnpacked v).value? = some q) :
    (UnpackedFloat.finite .negative m e hm).le v = true ↔ -((m : ℚ) * 2 ^ e) ≤ q := by
  have hpos := magnitude_pos e hm
  cases v with
  | notANumber => cases hq
  | infinity other => cases hq
  | zero other =>
    rw [value?_zero, Option.some_inj] at hq
    exact iff_of_true rfl (by linarith)
  | finite other n f hn =>
    have hmagnitude := magnitude_pos f hn
    cases other with
    | positive =>
      rw [value?_positive, Option.some_inj] at hq
      exact iff_of_true rfl (by linarith)
    | negative =>
      rw [value?_negative, Option.some_inj] at hq
      have hswap : ((compare e f).then (compare m n)).swap = (compare f e).then (compare n m) := by
        rw [Ordering.swap_then, ← Std.OrientedCmp.eq_swap, ← Std.OrientedCmp.eq_swap]
      rw [← hq, neg_le_neg_iff, hv.le_iff hcanonical, ← isLE_then_compare, ← hswap]
      rfl

end

/-- Numbers compare as their values do. -/
theorem le_iff_of_value? {x y : Float} {p q : ℚ} (hx : value? x = some p) (hy : value? y = some q) :
    x ≤ y ↔ p ≤ q := by
  have hcanonical := isCanonicalIfFinite_unpack x
  have hv := isCanonicalIfFinite_unpack y
  rw [value?, ofFloat_eq] at hx hy
  rw [le_iff_unpack]
  cases hu : x.toModel.unpack with
  | notANumber => rw [hu] at hx; cases hx
  | infinity sign => rw [hu] at hx; cases hx
  | zero sign =>
    rw [hu, value?_zero, Option.some_inj] at hx
    rw [zero_le_unpacked_iff hy, hx]
  | finite sign m e hm =>
    rw [hu] at hx hcanonical
    cases sign with
    | positive =>
      rw [value?_positive, Option.some_inj] at hx
      rw [positive_le_unpacked_iff hcanonical hv hy, hx]
    | negative =>
      rw [value?_negative, Option.some_inj] at hx
      rw [negative_le_unpacked_iff hcanonical hv hy, hx]

lemma infinity_le_eq_false {v : UnpackedFloat} {q : ℚ}
    (hq : (Binary.ofUnpacked v).value? = some q) : (infinity .positive).le v = false := by
  cases v with
  | notANumber => cases hq
  | infinity sign => cases hq
  | zero sign => rfl
  | finite sign m e hm => rfl

lemma le_infinity_eq_false {u : UnpackedFloat} {p : ℚ}
    (hp : (Binary.ofUnpacked u).value? = some p) : u.le (infinity .negative) = false := by
  cases u with
  | notANumber => cases hp
  | infinity sign => cases hp
  | zero sign => rfl
  | finite sign m e hm => cases sign <;> rfl

/-- What lies between two numbers is a number. -/
theorem exists_value?_of_between {x y z : Float} {p q : ℚ} (hx : value? x = some p)
    (hz : value? z = some q) (hxy : x ≤ y) (hyz : y ≤ z) : ∃ value, value? y = some value := by
  rw [value?, ofFloat_eq] at hx hz
  rw [le_iff_unpack] at hxy hyz
  rw [value?, ofFloat_eq]
  cases hy : y.toModel.unpack with
  | zero sign => exact ⟨0, value?_zero sign⟩
  | finite sign m e hm => exact ⟨_, rfl⟩
  | notANumber =>
    rw [hy] at hyz
    cases hyz
  | infinity sign =>
    rw [hy] at hxy hyz
    cases sign with
    | positive =>
      rw [infinity_le_eq_false hz] at hyz
      cases hyz
    | negative =>
      rw [le_infinity_eq_false hx] at hxy
      cases hxy

/-- Between two numbers lie the doubles with a value between their values. -/
theorem between_iff {x y z : Float} {p q : ℚ} (hx : value? x = some p) (hz : value? z = some q) :
    x ≤ y ∧ y ≤ z ↔ ∃ value ∈ Set.Icc p q, value? y = some value := by
  constructor
  · rintro ⟨hxy, hyz⟩
    obtain ⟨value, hy⟩ := exists_value?_of_between hx hz hxy hyz
    exact ⟨value, ⟨(le_iff_of_value? hx hy).mp hxy, (le_iff_of_value? hy hz).mp hyz⟩, hy⟩
  · rintro ⟨value, ⟨hlow, hhigh⟩, hy⟩
    exact ⟨(le_iff_of_value? hx hy).mpr hlow, (le_iff_of_value? hy hz).mpr hhigh⟩

end GapAudit.Decimal
