import Mathlib.Data.List.Infix
import Mathlib.Data.List.TakeWhile
import GapAudit.Proofs.Source.Characters
import GapAudit.Text.Word

/-!
# Words, blanks and names at the head of a text

What the readers of words, blanks and names take, and where they stop (`wordAfter?_eq_some`,
`nameAt?_append`), and where a word occurs (`occursIn_iff`).
-/

namespace GapAudit.Text

def importWord : List Char :=
  ['i', 'm', 'p', 'o', 'r', 't']

variable {p : Char → Bool}

lemma any_eq_false_of_imp {q : Char → Bool} {o : Option Char} (h : o.any q = false)
    (himp : ∀ c, p c = true → q c = true) : o.any p = false := by
  cases o with
  | none => rfl
  | some c => exact Bool.eq_false_iff.mpr fun hc => Bool.eq_false_iff.mp h (himp c hc)

/-- Two ways to cut a text: a first part whose last character the other one cannot hold goes beyond
it. -/
lemma exists_append_of_last {a b s t : List Char} (h : a ++ s = b ++ t) (ha : a ≠ [])
    (hlast : a.getLast?.any p = false) (hb : ∀ c ∈ b, p c = true) :
    ∃ c, c ≠ [] ∧ c.getLast? = a.getLast? ∧ a = b ++ c ∧ t = c ++ s := by
  obtain ⟨last, hlastEq⟩ : ∃ last, a.getLast? = some last :=
    ⟨_, List.getLast?_eq_some_getLast ha⟩
  have hnot : last ∉ b := by
    intro hmem
    rw [hlastEq, Option.any_some, hb last hmem] at hlast
    cases hlast
  rcases List.append_eq_append_iff.mp h with ⟨c, rfl, -⟩ | ⟨c, rfl, rfl⟩
  · exact absurd (List.mem_append_left c (List.mem_of_getLast? hlastEq)) hnot
  · have hc : c ≠ [] := by
      rintro rfl
      rw [List.append_nil] at hlastEq
      exact hnot (List.mem_of_getLast? hlastEq)
    exact ⟨c, hc, (List.getLast?_append_of_ne_nil b hc).symm, rfl, rfl⟩

lemma spanWhile_append {s rest : List Char} (hs : ∀ c ∈ s, p c = true)
    (hrest : rest.head?.any p = false) : spanWhile p (s ++ rest) = (s, rest) := by
  have hstop : rest.takeWhile p = [] ∧ rest.dropWhile p = rest := by
    cases rest with
    | nil => exact ⟨rfl, rfl⟩
    | cons c rest =>
      rw [List.head?_cons, Option.any_some] at hrest
      simp [hrest]
  rw [spanWhile, List.takeWhile_append_of_pos hs, List.dropWhile_append_of_pos hs, hstop.1, hstop.2,
    List.append_nil]

lemma after?_append (word s : List Char) : after? word (word ++ s) = some s := by
  induction word with
  | nil => rfl
  | cons w word ih => simpa [after?] using ih

lemma after?_eq_some {word s rest : List Char} (h : after? word s = some rest) :
    s = word ++ rest := by
  induction word generalizing s with
  | nil => simpa [after?] using h
  | cons w word ih =>
    cases s with
    | nil => cases h
    | cons c s =>
      rw [after?] at h
      split at h
      · next heq => rw [beq_iff_eq.mp heq, ih h, List.cons_append]
      · cases h

lemma startsWith_iff {word s : List Char} : startsWith word s = true ↔ word <+: s := by
  rw [startsWith, Option.isSome_iff_exists]
  refine ⟨fun ⟨rest, h⟩ => ⟨rest, (after?_eq_some h).symm⟩, ?_⟩
  rintro ⟨rest, rfl⟩
  exact ⟨rest, after?_append word rest⟩

lemma after?_eq_none_iff {word s : List Char} : after? word s = none ↔ ¬word <+: s := by
  rw [← startsWith_iff, startsWith, Bool.not_eq_true, Option.isSome_eq_false_iff,
    Option.isNone_iff_eq_none]

lemma occursIn_iff {word s : List Char} : occursIn word s = true ↔ word <:+: s := by
  induction s with
  | nil => rw [occursIn, List.isEmpty_iff, List.infix_nil]
  | cons c s ih => rw [occursIn, Bool.or_eq_true, startsWith_iff, ih, List.infix_cons_iff]

lemma wordAfter?_eq_some {before : Option Char} {words : List (List Char)} {s rest : List Char}
    (h : wordAfter? before words s = some rest) :
    before.any isWordChar = false ∧ ∃ word ∈ words, s = word ++ rest := by
  unfold wordAfter? at h
  split at h
  · cases h
  · next hbefore =>
    obtain ⟨word, hmem, hword⟩ := List.exists_of_findSome?_eq_some h
    exact ⟨Bool.eq_false_iff.mpr hbefore, word, hmem, after?_eq_some hword⟩

lemma wordAfter?_append {before : Option Char} {words : List (List Char)} {word s : List Char}
    (hbefore : before.any isWordChar = false) (hword : afterAny? words (word ++ s) = some s) :
    wordAfter? before words (word ++ s) = some s := by
  rw [wordAfter?, hbefore, hword]
  rfl

lemma afterBlanks?_eq_some {s rest : List Char} (h : afterBlanks? s = some rest) :
    ∃ blanks, blanks ≠ [] ∧ (∀ c ∈ blanks, isBlank c = true) ∧ s = blanks ++ rest := by
  unfold afterBlanks? at h
  split at h
  · next hblank =>
    rw [← Option.some.inj h]
    refine ⟨s.takeWhile isBlank, ?_, fun c hc => List.mem_takeWhile_imp hc, ?_⟩
    · cases s with
      | nil => cases hblank
      | cons c s =>
        have hc : isBlank c = true := hblank
        rw [List.takeWhile_cons_of_pos hc]
        exact List.cons_ne_nil c _
    · exact List.takeWhile_append_dropWhile.symm
  · cases h

lemma afterBlanks?_append {blanks rest : List Char} (hblanks : blanks ≠ [])
    (hall : ∀ c ∈ blanks, isBlank c = true) (hrest : rest.head?.any isBlank = false) :
    afterBlanks? (blanks ++ rest) = some rest := by
  have hspan := spanWhile_append hall hrest
  rw [spanWhile, Prod.mk.injEq] at hspan
  have hhead : (blanks ++ rest).head?.any isBlank = true := by
    cases blanks with
    | nil => exact absurd rfl hblanks
    | cons c blanks => exact hall c List.mem_cons_self
  rw [afterBlanks?, if_pos hhead, trimStart, hspan.2]

/-- A character that a name found without parsing consists of. -/
def isPlainNameChar (c : Char) : Bool :=
  isWordChar c || c == '$'

lemma isNameChar_of_isPlainNameChar {c : Char} (h : isPlainNameChar c = true) :
    Source.isNameChar c = true := by
  rw [isPlainNameChar, Bool.or_eq_true, beq_iff_eq] at h
  rcases h with h | rfl
  · exact Source.isNameChar_of_isWordChar h
  · decide

lemma not_isBlank_of_isPlainNameChar {c : Char} (h : isPlainNameChar c = true) :
    isBlank c = false := by
  by_contra hblank
  have hspace : Source.isSpace c = true := by simp [Source.isSpace, Bool.not_eq_false _ ▸ hblank]
  have hname := isNameChar_of_isPlainNameChar h
  rw [Source.not_isNameChar_of_isSpace hspace] at hname
  cases hname

lemma head?_name_not_isBlank {name : List Char} (hstart : name.head?.any startsName = true)
    (hname : ∀ c ∈ name, isPlainNameChar c = true) (rest : List Char) :
    (name ++ rest).head?.any isBlank = false := by
  cases name with
  | nil => cases hstart
  | cons c name => exact not_isBlank_of_isPlainNameChar (hname c List.mem_cons_self)

lemma nameAt?_eq_some {s name rest : List Char} (h : nameAt? s = some (name, rest)) :
    s = name ++ rest ∧ ∀ c ∈ name, isPlainNameChar c = true := by
  unfold nameAt? at h
  split at h
  · rw [spanWhile, Option.some.injEq, Prod.mk.injEq] at h
    obtain ⟨rfl, rfl⟩ := h
    exact ⟨List.takeWhile_append_dropWhile.symm, fun c hc => List.mem_takeWhile_imp hc⟩
  · cases h

lemma nameAt?_append {name rest : List Char} (hstart : name.head?.any startsName = true)
    (hname : ∀ c ∈ name, isPlainNameChar c = true) (hrest : rest.head?.any isPlainNameChar = false) :
    nameAt? (name ++ rest) = some (name, rest) := by
  have hhead : (name ++ rest).head?.any startsName = true := by
    cases name with
    | nil => cases hstart
    | cons c name => exact hstart
  rw [nameAt?, if_pos hhead]
  exact congrArg some (spanWhile_append hname hrest)

lemma toNat_lt_of_isAsciiAlphanumeric {c : Char} (h : isAsciiAlphanumeric c = true) :
    c.toNat < 0x80 := by
  simp only [isAsciiAlphanumeric, isAsciiLetter, isAsciiLower, isAsciiUpper, isAsciiDigit,
    Bool.or_eq_true, Bool.and_eq_true, decide_eq_true_eq] at h
  rcases h with (⟨-, h⟩ | ⟨-, h⟩) | ⟨-, h⟩
  · exact Nat.lt_of_le_of_lt h (by decide : 'z'.toNat < 0x80)
  · exact Nat.lt_of_le_of_lt h (by decide : 'Z'.toNat < 0x80)
  · exact Nat.lt_of_le_of_lt h (by decide : '9'.toNat < 0x80)

lemma isPlainNameChar_of_isAsciiAlphanumeric {c : Char} (h : isAsciiAlphanumeric c = true) :
    isPlainNameChar c = true := by
  rw [isPlainNameChar, isWordChar, if_pos (toNat_lt_of_isAsciiAlphanumeric h), h]
  rfl

lemma isPlainNameChar_of_startsName {c : Char} (h : startsName c = true) :
    isPlainNameChar c = true := by
  simp only [startsName, Bool.or_eq_true, beq_iff_eq] at h
  rcases h with (h | rfl) | rfl
  · apply isPlainNameChar_of_isAsciiAlphanumeric
    rw [isAsciiAlphanumeric, h, Bool.true_or]
  · decide
  · decide

lemma starts_of_nameAt?_eq_some {s name rest : List Char} (h : nameAt? s = some (name, rest)) :
    name.head?.any startsName = true := by
  unfold nameAt? at h
  split at h
  · next hstart =>
    rw [spanWhile, Option.some.injEq, Prod.mk.injEq] at h
    cases s with
    | nil => cases hstart
    | cons c s =>
      have hc : startsName c = true := hstart
      rw [← h.1]
      change ((c :: s).takeWhile isPlainNameChar).head?.any startsName = true
      rw [List.takeWhile_cons_of_pos (isPlainNameChar_of_startsName hc)]
      exact hc
  · cases h

end GapAudit.Text
