import Mathlib
import GapAudit.Decimal.Notation
import GapAudit.Text.Letter

/-!
# The shape of numbers in data

A double in data is written with the characters of numbers alone (`isNumeralChar_of_mem_dataText`),
and always with a point or an exponent (`mark_mem_dataText`), so that a whole value does not look
like a whole number.
-/

namespace GapAudit.Decimal

open Text (isAsciiDigit)

/-- The characters that numbers are written with. -/
def isNumeralChar (c : Char) : Bool :=
  isAsciiDigit c || c == '-' || c == '+' || c == '.' || c == 'e' || c == 'E'

lemma isNumeralChar_of_isAsciiDigit {c : Char} (h : isAsciiDigit c = true) :
    isNumeralChar c = true := by
  simp [isNumeralChar, h]

lemma isAsciiDigit_of_mem_toDigits {c : Char} {n : Nat} (h : c ∈ Nat.toDigits 10 n) :
    isAsciiDigit c = true :=
  Nat.isDigit_of_mem_toDigits (by decide) (by decide) h

lemma isAsciiDigit_of_mem_normal {c : Char} {d : Digits} (h : c ∈ d.normal.1) :
    isAsciiDigit c = true := by
  rw [Digits.normal] at h
  split at h
  · obtain rfl : c = '0' := by simpa using h
    decide
  · have hwritten : c ∈ (Nat.toDigits 10 d.digits).reverse :=
      (List.dropWhile_sublist _).subset (List.mem_reverse.mp h)
    exact isAsciiDigit_of_mem_toDigits (List.mem_reverse.mp hwritten)

lemma isNumeralChar_of_mem_leftpad {c : Char} {width : Nat} {digits : List Char}
    (hdigits : ∀ c ∈ digits, isAsciiDigit c = true) (h : c ∈ digits.leftpad width '0') :
    isNumeralChar c = true := by
  rw [List.leftpad, List.mem_append] at h
  rcases h with hzero | hdigit
  · rw [List.eq_of_mem_replicate hzero]
    decide
  · exact isNumeralChar_of_isAsciiDigit (hdigits c hdigit)

lemma isNumeralChar_of_mem_positional {c : Char} {digits : List Char} {power : Int}
    (hdigits : ∀ c ∈ digits, isAsciiDigit c = true)
    (h : c ∈ positional digits power ['.', '0']) : isNumeralChar c = true := by
  rw [positional] at h
  split at h
  · simp only [List.mem_append] at h
    rcases h with (hdigit | hzero) | hmark
    · exact isNumeralChar_of_isAsciiDigit (hdigits c hdigit)
    · rw [List.eq_of_mem_replicate hzero]
      decide
    · rcases List.mem_pair.mp hmark with rfl | rfl <;> decide
  · rcases List.mem_append.mp h with hwhole | hplaces
    · exact isNumeralChar_of_mem_leftpad hdigits (List.mem_of_mem_take hwhole)
    · rcases List.mem_cons.mp hplaces with rfl | hplace
      · decide
      · exact isNumeralChar_of_mem_leftpad hdigits (List.mem_of_mem_drop hplace)

lemma isNumeralChar_of_mem_exponential {c : Char} {digits : List Char} {power : Int}
    (hdigits : ∀ c ∈ digits, isAsciiDigit c = true) (h : c ∈ exponential digits power) :
    isNumeralChar c = true := by
  unfold exponential at h
  rcases List.mem_append.mp h with hhead | htail
  · split at hhead
    · obtain rfl := List.mem_singleton.mp hhead
      decide
    · exact isNumeralChar_of_isAsciiDigit (hdigits c hhead)
    · rcases List.mem_cons.mp hhead with rfl | hmore
      · exact isNumeralChar_of_isAsciiDigit (hdigits c List.mem_cons_self)
      · rcases List.mem_cons.mp hmore with rfl | hplace
        · decide
        · exact isNumeralChar_of_isAsciiDigit (hdigits c (List.mem_cons_of_mem _ hplace))
  · rcases List.mem_cons.mp htail with rfl | hexponent
    · decide
    · rcases List.mem_cons.mp hexponent with rfl | hdigit
      · split <;> decide
      · exact isNumeralChar_of_isAsciiDigit (isAsciiDigit_of_mem_toDigits hdigit)

lemma point_mem_positional (digits : List Char) (power : Int) :
    '.' ∈ positional digits power ['.', '0'] := by
  rw [positional]
  split <;> simp

lemma mark_mem_exponential (digits : List Char) (power : Int) :
    'e' ∈ exponential digits power := by
  simp [exponential]

lemma exists_dataText_eq (negative : Bool) (mantissa : Nat) (exponent : Int) :
    ∃ power body,
      (body = positional (shortest mantissa exponent).normal.1 power ['.', '0'] ∨
        body = exponential (shortest mantissa exponent).normal.1 power) ∧
      (dataText negative mantissa exponent).toList = if negative then '-' :: body else body := by
  rw [dataText, String.toList_ofList]
  refine ⟨(shortest mantissa exponent).normal.2, _, ?_, rfl⟩
  split
  · exact Or.inl rfl
  · exact Or.inr rfl

/-- A double in data is written with the characters of numbers. -/
theorem isNumeralChar_of_mem_dataText {c : Char} {negative : Bool} {mantissa : Nat}
    {exponent : Int} (h : c ∈ (dataText negative mantissa exponent).toList) :
    isNumeralChar c = true := by
  have hdigits : ∀ c ∈ (shortest mantissa exponent).normal.1, isAsciiDigit c = true :=
    fun c hc => isAsciiDigit_of_mem_normal hc
  obtain ⟨power, body, hform, htext⟩ := exists_dataText_eq negative mantissa exponent
  have hbody : ∀ c ∈ body, isNumeralChar c = true := by
    intro c hc
    rcases hform with rfl | rfl
    · exact isNumeralChar_of_mem_positional hdigits hc
    · exact isNumeralChar_of_mem_exponential hdigits hc
  rw [htext] at h
  split at h
  · rcases List.mem_cons.mp h with rfl | hmem
    · decide
    · exact hbody c hmem
  · exact hbody c h

/-- A double in data has a point or an exponent. -/
theorem mark_mem_dataText (negative : Bool) (mantissa : Nat) (exponent : Int) :
    '.' ∈ (dataText negative mantissa exponent).toList ∨
      'e' ∈ (dataText negative mantissa exponent).toList := by
  obtain ⟨power, body, hform, htext⟩ := exists_dataText_eq negative mantissa exponent
  have hbody : '.' ∈ body ∨ 'e' ∈ body := by
    rcases hform with rfl | rfl
    · exact Or.inl (point_mem_positional _ power)
    · exact Or.inr (mark_mem_exponential _ power)
  rw [htext]
  split
  · exact hbody.imp (List.mem_cons_of_mem _) (List.mem_cons_of_mem _)
  · exact hbody

end GapAudit.Decimal
