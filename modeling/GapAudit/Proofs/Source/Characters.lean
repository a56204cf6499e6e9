import Mathlib.Data.List.Basic
import GapAudit.Source.Character
import GapAudit.Text.Word

/-!
# Characters of words and of names

Two classes of characters meet where source text is searched without being parsed: characters of
words or identifiers, as a search sees them, and characters of names, as the grammar has it. Every
character of a word or an identifier is one of a name (`isNameChar_of_isWordChar`,
`isNameChar_of_isIdentifierChar`), and no blank or end of a line is.
-/

namespace GapAudit.Source

open Text

lemma not_isNameChar_of_isSpace {c : Char} (h : isSpace c = true) : isNameChar c = false := by
  simp [isNameChar, h]

/-- The code points of the characters that are none of a name. -/
def otherCodes : List Nat :=
  List.range 0x24 ++ List.range' 0x25 0xb ++ List.range' 0x3a 7 ++
    [0x5b, 0x5d, 0x5e, 0x60, 0x7b, 0x7c, 0x7d, 0x7e, 0x85, 0xa0, 0x1680] ++ List.range' 0x2000 12 ++
    [0x2028, 0x2029, 0x202f, 0x205f, 0x2060, 0x3000, 0xfeff]

lemma toNat_mem_otherCodes {c : Char} (h : isNameChar c = false) : c.toNat ∈ otherCodes := by
  simp only [isNameChar, Bool.and_eq_false_iff, decide_eq_false_iff_not, Bool.not_eq_false'] at h
  rcases h with (hcontrol | hspace) | hpunctuation
  · simp only [otherCodes, List.mem_append, List.mem_range]
    omega
  · simp only [isSpace, Bool.or_eq_true, beq_iff_eq] at hspace
    rcases hspace with ((hblank | rfl) | rfl) | rfl
    · simp only [isBlank, Bool.or_eq_true, Bool.and_eq_true, decide_eq_true_eq,
        beq_iff_eq] at hblank
      simp only [otherCodes, List.mem_append, List.mem_range, List.mem_range'_1, List.mem_cons,
        List.not_mem_nil, or_false]
      omega
    all_goals decide
  · -- Each sign is looked up.
    have hsigns : ([':', ';', '\x60', '"', '\'', '@', '#', '.', ',', '|', '^', '&', '<', '=',
        '>', '+', '-', '*', '/', '%', '?', '!', '~', '(', ')', '[', ']', '\x7b', '\x7d'].all
          fun sign => otherCodes.contains sign.toNat) = true := by decide
    have hsign := List.all_eq_true.mp hsigns c (List.contains_iff_mem.mp hpunctuation)
    exact List.contains_iff_mem.mp hsign

/-- Whether a code point lies in one of the closed ranges, looked up in a list. -/
lemma inRanges_eq (ranges : Array (Nat × Nat)) (n : Nat) :
    inRanges ranges n = ranges.toList.any fun (first, last) => first ≤ n && n ≤ last := by
  rw [inRanges, Array.any_toList]

/-- Characters of words are characters of names. -/
theorem isNameChar_of_isWordChar {c : Char} (h : isWordChar c = true) : isNameChar c = true := by
  have hascii : ∀ n ∈ otherCodes, n < 0x80 →
      (isAsciiAlphanumeric (Char.ofNat n) || Char.ofNat n == '_') = false := by decide +kernel
  have hother : ∀ n ∈ otherCodes, ¬n < 0x80 →
      (alphabeticRanges.toList.any (fun (first, last) => first ≤ n && n ≤ last) ||
        markRanges.toList.any (fun (first, last) => first ≤ n && n ≤ last) ||
        decimalDigitRanges.toList.any (fun (first, last) => first ≤ n && n ≤ last) ||
        isWordJoiner n) = false := by decide +kernel
  rw [← Bool.not_eq_false]
  intro hname
  have hcode := toNat_mem_otherCodes hname
  rw [isWordChar] at h
  split at h
  · next hlow =>
    have hword := hascii _ hcode hlow
    rw [Char.ofNat_toNat, h] at hword
    cases hword
  · next hhigh =>
    have hword := hother _ hcode hhigh
    rw [← inRanges_eq, ← inRanges_eq, ← inRanges_eq, h] at hword
    cases hword

/-- Characters of identifiers are characters of names. -/
theorem isNameChar_of_isIdentifierChar {c : Char} (h : isIdentifierChar c = true) :
    isNameChar c = true := by
  have hother : ∀ n ∈ otherCodes, ¬n < 0x80 →
      otherNumberRanges.toList.any (fun (first, last) => first ≤ n && n ≤ last) = false := by
    decide +kernel
  rw [isIdentifierChar, Bool.or_eq_true, Bool.or_eq_true, beq_iff_eq, beq_iff_eq] at h
  rcases h with (hletter | rfl) | rfl
  · rw [isAlphanumeric] at hletter
    split at hletter
    · next hlow =>
      apply isNameChar_of_isWordChar
      simp [isWordChar, hlow, hletter]
    · next hhigh =>
      rw [Bool.or_eq_true, Bool.or_eq_true] at hletter
      rcases hletter with (hletter | hdigit) | hnumber
      · apply isNameChar_of_isWordChar
        simp [isWordChar, hhigh, hletter]
      · apply isNameChar_of_isWordChar
        simp [isWordChar, hhigh, hdigit]
      · rw [← Bool.not_eq_false]
        intro hname
        have hnone := hother _ (toNat_mem_otherCodes hname) hhigh
        rw [← inRanges_eq, hnumber] at hnone
        cases hnone
  · decide
  · decide

lemma toNat_lt_of_isAsciiDigit {c : Char} (h : isAsciiDigit c = true) : c.toNat < 0x80 := by
  simp only [isAsciiDigit, Bool.and_eq_true, decide_eq_true_eq] at h
  have hle : c.toNat ≤ '9'.toNat := h.2
  exact Nat.lt_of_le_of_lt hle (by decide)

end GapAudit.Source
