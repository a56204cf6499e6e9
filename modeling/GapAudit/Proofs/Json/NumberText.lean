import Mathlib
import GapAudit.Json.Printer
import GapAudit.Proofs.Decimal.Finite
import GapAudit.Proofs.Json.Number

/-!
# Numbers read from their own texts

Every whole number within 64 bits, with or without a sign, is read from its own text
(`number?_toString`). A double that is read from its own text is read as a double, also where its
value is whole (`number?_text_real`).
-/

namespace GapAudit.Json.Reader

open Decimal (isNumeralChar)
open Text (isAsciiDigit spanWhile)

lemma le_foldl_value (ds : List Nat) (n : Nat) : n ≤ ds.foldl (fun n d => n * 10 + d) n := by
  induction ds generalizing n with
  | nil => exact le_refl n
  | cons d ds ih =>
    have hstep := ih (n * 10 + d)
    rw [List.foldl_cons]
    omega

lemma foldl_wholeDigit (ds : List Nat) (n : Nat)
    (h : ds.foldl (fun n d => n * 10 + d) n < wordLimit) :
    ds.foldl Significand.wholeDigit ⟨n, 0, false⟩ =
      ⟨ds.foldl (fun n d => n * 10 + d) n, 0, false⟩ := by
  induction ds generalizing n with
  | nil => rfl
  | cons d ds ih =>
    have hfits : n * 10 + d < wordLimit := lt_of_le_of_lt (le_foldl_value ds _) h
    have hstep : Significand.wholeDigit ⟨n, 0, false⟩ d = ⟨n * 10 + d, 0, false⟩ := by
      simp [Significand.wholeDigit, hfits]
    rw [List.foldl_cons, hstep]
    exact ih (n * 10 + d) h

/-- The digits of a number. -/
def digitsOf (n : Nat) : List Nat :=
  (Nat.toDigits 10 n).map fun c => c.toNat - '0'.toNat

lemma digits_toDigits (n : Nat) : digits (Nat.toDigits 10 n) = (digitsOf n, []) := by
  have hall : ∀ c ∈ Nat.toDigits 10 n, isAsciiDigit c = true :=
    fun c hc => Decimal.isAsciiDigit_of_mem_toDigits hc
  have htake : (Nat.toDigits 10 n).takeWhile isAsciiDigit = Nat.toDigits 10 n :=
    List.takeWhile_eq_self_iff.mpr hall
  have hdrop : (Nat.toDigits 10 n).dropWhile isAsciiDigit = [] :=
    List.dropWhile_eq_nil_iff.mpr hall
  simp only [digits, spanWhile, htake, hdrop, digitsOf]

lemma foldl_digitsOf (n : Nat) : (digitsOf n).foldl (fun n d => n * 10 + d) 0 = n := by
  have hvalue := @Nat.ofDigitChars_ten_toDigits n
  rw [Nat.ofDigitChars_eq_foldl] at hvalue
  rw [digitsOf, List.foldl_map]
  simpa only [Nat.mul_comm] using hvalue

lemma exists_digitsOf_cons {n : Nat} (hn : 0 < n) : ∃ d ds, digitsOf n = d :: ds ∧ d ≠ 0 := by
  induction n using Nat.strong_induction_on with
  | _ n ih =>
    by_cases hsmall : n < 10
    · refine ⟨n, [], ?_, by omega⟩
      rw [digitsOf, Nat.toDigits_of_lt_base hsmall]
      simp [Nat.toNat_digitChar_sub_48_of_lt_ten hsmall]
    · obtain ⟨d, ds, hds, hd⟩ := ih (n / 10) (by omega) (by omega)
      refine ⟨d, ds ++ [(Nat.digitChar (n % 10)).toNat - '0'.toNat], ?_, hd⟩
      rw [digitsOf, Nat.toDigits_of_base_le (by decide) (by omega), List.map_append]
      rw [digitsOf] at hds
      rw [hds]
      rfl

lemma properWhole_digitsOf (n : Nat) : properWhole (digitsOf n) = true := by
  rcases Nat.eq_zero_or_pos n with rfl | hn
  · rfl
  · obtain ⟨d, ds, hds, hd⟩ := exists_digitsOf_cons hn
    rw [hds]
    unfold properWhole
    split <;> simp_all

lemma unsigned?_toDigits (negative : Bool) (n : Nat) :
    unsigned? negative (Nat.toDigits 10 n) =
      some (assemble negative (digitsOf n) none none, []) := by
  rw [unsigned?_eq, digits_toDigits, if_pos (properWhole_digitsOf n)]
  rfl

lemma assemble_digitsOf {n : Nat} (h : n < wordLimit) :
    assemble false (digitsOf n) none none = .whole n := by
  have hfold : (digitsOf n).foldl (fun n d => n * 10 + d) 0 < wordLimit := by
    rw [foldl_digitsOf]
    exact h
  unfold assemble
  rw [foldl_wholeDigit _ 0 hfold, foldl_digitsOf]
  rfl

lemma assemble_digitsOf_neg {n : Nat} (hpos : 0 < n) (h : n ≤ signedLimit) :
    assemble true (digitsOf n) none none = .whole (-n) := by
  have hfold : (digitsOf n).foldl (fun n d => n * 10 + d) 0 < wordLimit := by
    rw [foldl_digitsOf]
    exact lt_of_le_of_lt h (by decide)
  unfold assemble
  rw [foldl_wholeDigit _ 0 hfold, foldl_digitsOf]
  have hzero : (n == 0) = false := by simpa using hpos.ne'
  simp [hzero, not_lt.mpr h]

lemma toString_ofNat (n : Nat) : (toString (Int.ofNat n)).toList = Nat.toDigits 10 n :=
  Nat.toList_repr

lemma toString_negSucc (n : Nat) :
    (toString (Int.negSucc n)).toList = '-' :: Nat.toDigits 10 (n + 1) := by
  change ("-" ++ (n + 1).repr).toList = _
  rw [String.toList_append, Nat.toList_repr]
  rfl

/-- A whole number within 64 bits, with or without a sign, is read from its text. -/
theorem number?_toString {n : Int} (hlow : -(signedLimit : Int) ≤ n) (hhigh : n < wordLimit) :
    number? (toString n).toList = some (.whole n, []) := by
  cases n with
  | ofNat n =>
    obtain ⟨c, cs, hcons⟩ := List.exists_cons_of_ne_nil (@Nat.toDigits_ne_nil n 10)
    have hdigit : isAsciiDigit c = true :=
      Decimal.isAsciiDigit_of_mem_toDigits (hcons ▸ List.mem_cons_self)
    have hminus : c ≠ '-' := by
      rintro rfl
      exact Bool.noConfusion hdigit
    rw [toString_ofNat, hcons, number?_cons_of_ne cs hminus, ← hcons, unsigned?_toDigits,
      assemble_digitsOf (Int.ofNat_lt.mp hhigh)]
    rfl
  | negSucc n =>
    have hsize : n + 1 ≤ signedLimit := by omega
    rw [toString_negSucc]
    change unsigned? true (Nat.toDigits 10 (n + 1)) = _
    rw [unsigned?_toDigits, assemble_digitsOf_neg (Nat.succ_pos n) hsize]
    rfl

lemma skipBlanks_of_isNumeralChar {c : Char} (s : List Char) (h : isNumeralChar c = true) :
    skipBlanks (c :: s) = c :: s := by
  unfold skipBlanks
  rw [List.dropWhile_cons_of_neg]
  intro hblank
  simp only [Bool.or_eq_true, beq_iff_eq] at hblank
  rcases hblank with ((rfl | rfl) | rfl) | rfl <;> exact Bool.noConfusion h

lemma value?_of_isNumeralChar {c : Char} (s : List Char) (fuel : Nat)
    (h : isNumeralChar c = true) :
    value? (fuel + 1) (c :: s) = (number? (c :: s)).map fun (n, rest) => (.number n, rest) := by
  have hne : ∀ d, isNumeralChar d = false → c ≠ d := by
    rintro d hd rfl
    rw [h] at hd
    exact Bool.noConfusion hd
  have hquote := hne '"' rfl
  have hbracket := hne '[' rfl
  have hbrace := hne '\x7b' rfl
  have hn := hne 'n' rfl
  have ht := hne 't' rfl
  have hf := hne 'f' rfl
  rw [value?]
  · simp [Text.after?, hn.symm, ht.symm, hf.symm]
  · intro s' heq
    exact hquote (List.cons.inj heq).1
  · intro s' heq
    exact hbracket (List.cons.inj heq).1
  · intro s' heq
    exact hbrace (List.cons.inj heq).1

end GapAudit.Json.Reader

namespace GapAudit.Json

open Decimal (isNumeralChar)
open Reader

lemma isNumeralChar_of_mem_toString {n : Int} {c : Char} (h : c ∈ (toString n).toList) :
    isNumeralChar c = true := by
  have hdigit : ∀ {n : Nat}, c ∈ Nat.toDigits 10 n → isNumeralChar c = true := by
    intro n hc
    exact Decimal.isNumeralChar_of_isAsciiDigit (Decimal.isAsciiDigit_of_mem_toDigits hc)
  cases n with
  | ofNat n =>
    rw [toString_ofNat] at h
    exact hdigit h
  | negSucc n =>
    rw [toString_negSucc] at h
    rcases List.mem_cons.mp h with rfl | hmem
    · rfl
    · exact hdigit hmem

lemma parse?_eq_some_iff {text : String} {value : Json} :
    parse? text = some value ↔ ∃ rest,
      value? (2 * text.toList.length + 2) (skipBlanks text.toList) = some (value, rest) ∧
        skipBlanks rest = [] := by
  have hguard : ∀ found rest,
      (if (skipBlanks rest).isEmpty then some found else none) = some value ↔
        found = value ∧ skipBlanks rest = [] := by
    intro found rest
    by_cases hrest : skipBlanks rest = []
    · simp [hrest]
    · simp [hrest]
  unfold parse?
  simp only [Option.bind_eq_bind, Option.bind_eq_some_iff, Prod.exists, hguard]
  constructor
  · rintro ⟨found, rest, hfound, rfl, hrest⟩
    exact ⟨rest, hfound, hrest⟩
  · rintro ⟨rest, hfound, hrest⟩
    exact ⟨value, rest, hfound, rfl, hrest⟩

/-- The double is read from its own text. -/
def ReadsBack (x : Float) : Prop :=
  (parse? (ofFloat x).compactText >>= toFloat?) = some x

instance (x : Float) : Decidable (ReadsBack x) :=
  inferInstanceAs (Decidable (_ = some x))

lemma text_real {x : Float} {sign : Bool} {mantissa : Nat} {exponent : Int}
    (h : Decimal.Binary.ofFloat x = .finite sign mantissa exponent) :
    (Number.real x).text = Decimal.dataText sign mantissa exponent := by
  simp only [Number.text, h]

lemma isNumeralChar_of_mem_text_real {x : Float} (hx : x.isFinite = true) {c : Char}
    (h : c ∈ (Number.real x).text.toList) : isNumeralChar c = true := by
  obtain ⟨sign, mantissa, exponent, hfinite⟩ := (Decimal.isFinite_iff x).mp hx
  rw [text_real hfinite] at h
  exact Decimal.isNumeralChar_of_mem_dataText h

lemma mark_mem_text_real {x : Float} (hx : x.isFinite = true) :
    '.' ∈ (Number.real x).text.toList ∨ 'e' ∈ (Number.real x).text.toList := by
  obtain ⟨sign, mantissa, exponent, hfinite⟩ := (Decimal.isFinite_iff x).mp hx
  rw [text_real hfinite]
  exact Decimal.mark_mem_dataText sign mantissa exponent

lemma text_real_of_not_isFinite {x : Float} (hx : ¬x.isFinite = true) :
    (Number.real x).text = "null" := by
  rw [Decimal.isFinite_iff] at hx
  cases hbinary : Decimal.Binary.ofFloat x with
  | nan => simp only [Number.text, hbinary]
  | infinite sign => simp only [Number.text, hbinary]
  | finite sign mantissa exponent => exact absurd ⟨sign, mantissa, exponent, hbinary⟩ hx

/-- A double that is read from its own text is read as a double, and a whole value too. -/
theorem number?_text_real {x : Float} (hx : x.isFinite = true) (hread : ReadsBack x) :
    number? (Number.real x).text.toList = some (.real x, []) := by
  have hchars : ∀ c ∈ (Number.real x).text.toList, isNumeralChar c = true :=
    fun c hc => isNumeralChar_of_mem_text_real hx hc
  have hmark := mark_mem_text_real hx
  have htext : (ofFloat x).compactText = String.ofList (Number.real x).text.toList := by
    simp only [compactText, ofFloat, print]
  obtain ⟨value, hparsed, hvalue⟩ := Option.bind_eq_some_iff.mp hread
  obtain ⟨rest, hvalue?, hrest⟩ := parse?_eq_some_iff.mp hparsed
  rw [htext, String.toList_ofList] at hvalue?
  obtain ⟨chars, hcharsEq⟩ : ∃ chars, chars = (Number.real x).text.toList := ⟨_, rfl⟩
  rw [← hcharsEq] at hchars hmark hvalue? ⊢
  cases chars with
  | nil => simp at hmark
  | cons c s =>
    have hc : isNumeralChar c = true := hchars c List.mem_cons_self
    rw [skipBlanks_of_isNumeralChar s hc, value?_of_isNumeralChar s _ hc] at hvalue?
    obtain ⟨⟨n, rest'⟩, hnumber, hpair⟩ := Option.map_eq_some_iff.mp hvalue?
    obtain ⟨rfl, rfl⟩ := Prod.mk.inj hpair
    -- What is left is blank, but numbers hold no blanks.
    have hnil : rest' = [] := by
      cases rest' with
      | nil => rfl
      | cons d rest =>
        have hd : isNumeralChar d = true :=
          hchars d ((number?_suffix hnumber).subset List.mem_cons_self)
        rw [skipBlanks_of_isNumeralChar rest hd] at hrest
        exact absurd hrest (List.cons_ne_nil d rest)
    subst hnil
    cases n with
    | whole n =>
      obtain ⟨taken, htaken, hdigits⟩ := number?_whole hnumber
      rw [htaken, List.append_nil] at hmark
      rcases hmark with hpoint | hexponent
      · rcases hdigits '.' hpoint with heq | hdigit
        · exact absurd heq (by decide)
        · exact Bool.noConfusion hdigit
      · rcases hdigits 'e' hexponent with heq | hdigit
        · exact absurd heq (by decide)
        · exact Bool.noConfusion hdigit
    | real y =>
      have hy : y = x := by
        change (if y.isFinite then some y else none) = some x at hvalue
        split at hvalue
        · exact Option.some.inj hvalue
        · simp at hvalue
      rw [hnumber, hy]

end GapAudit.Json
