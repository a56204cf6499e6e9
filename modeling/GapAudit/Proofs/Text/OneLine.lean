import GapAudit.Arithmetic
import GapAudit.Proofs.Decimal.DataText
import GapAudit.Proofs.Path.Components
import GapAudit.Text.Case
import GapAudit.Timestamp

/-!
# Texts of one line

A text of lines can be taken apart into these lines only if none of them has a line feed inside
(`endedLines_ofLines`). Numbers, moments and scores have none, and a text that has none gets none
when its first character is put in upper case (`isOneLine_capitalize`).
-/

namespace GapAudit

namespace Text

/-- A text without line feeds. -/
def IsOneLine (s : String) : Prop :=
  '\n' ∉ s.toList

instance (s : String) : Decidable (IsOneLine s) :=
  inferInstanceAs (Decidable ('\n' ∉ s.toList))

/-- The texts that the line feeds of a text end. -/
def endedLines (s : String) : List String :=
  (splitAt '\n' s.toList).dropLast.map String.ofList

lemma splitAt_ofLines {lines : List String} (h : ∀ line ∈ lines, IsOneLine line) :
    splitAt '\n' (ofLines lines).toList = lines.map String.toList ++ [[]] := by
  induction lines with
  | nil => rfl
  | cons line lines ih =>
    have htext : (ofLines (line :: lines)).toList =
        line.toList ++ '\n' :: (ofLines lines).toList := by
      simp [ofLines, String.toList_join]
    have hline : splitAt '\n' line.toList = [line.toList] :=
      splitAt_of_not_mem (h line List.mem_cons_self)
    rw [htext, splitAt_append, hline, ih fun other hmem => h other (List.mem_cons_of_mem line hmem)]
    rfl

theorem endedLines_ofLines {lines : List String} (h : lines.Forall IsOneLine) :
    endedLines (ofLines lines) = lines := by
  have hpieces := splitAt_ofLines (List.forall_iff_forall_mem.mp h)
  rw [endedLines, hpieces, List.dropLast_concat, List.map_map]
  simp [Function.comp_def]

@[simp] lemma isOneLine_append {a b : String} :
    IsOneLine (a ++ b) ↔ IsOneLine a ∧ IsOneLine b := by
  simp [IsOneLine]

@[simp] lemma isOneLine_ofList {s : List Char} : IsOneLine (String.ofList s) ↔ '\n' ∉ s := by
  rw [IsOneLine, String.toList_ofList]

lemma isOneLine_intercalate {separator : String} {texts : List String}
    (hseparator : IsOneLine separator) (htexts : ∀ text ∈ texts, IsOneLine text) :
    IsOneLine (separator.intercalate texts) := by
  induction texts with
  | nil => simp [IsOneLine]
  | cons text rest ih =>
    have htext := htexts text List.mem_cons_self
    have hrest := ih fun other hmem => htexts other (List.mem_cons_of_mem text hmem)
    cases rest with
    | nil => simpa using htext
    | cons next more =>
      rw [String.intercalate_cons_cons]
      exact isOneLine_append.mpr ⟨isOneLine_append.mpr ⟨htext, hseparator⟩, hrest⟩

lemma newline_notMem_toDigits (n : Nat) : '\n' ∉ Nat.toDigits 10 n := by
  intro h
  exact absurd (Decimal.isAsciiDigit_of_mem_toDigits h) (by decide)

@[simp] lemma isOneLine_repr (n : Nat) : IsOneLine n.repr := by
  rw [IsOneLine, Nat.toList_repr]
  exact newline_notMem_toDigits n

lemma newline_notMem_leftpad (width n : Nat) : '\n' ∉ (Nat.toDigits 10 n).leftpad width '0' := by
  intro h
  have hdigits : ∀ c ∈ Nat.toDigits 10 n, isAsciiDigit c = true :=
    fun c hc => Decimal.isAsciiDigit_of_mem_toDigits hc
  exact absurd (Decimal.isNumeralChar_of_mem_leftpad hdigits h) (by decide)

lemma eq_newline_of_mem_upperChar_ascii :
    ∀ n < 128, '\n' ∈ upperChar (Char.ofNat n) → Char.ofNat n = '\n' := by
  decide +kernel

lemma newline_notMem_upperSequences :
    ∀ entry ∈ upperSequences.toList, '\n' ∉ entry.2.map Char.ofNat := by
  decide +kernel

lemma lt_image_of_mem_upperRuns : ∀ run ∈ upperRuns.toList, 10 < run.2.2.2 := by
  decide +kernel

lemma ofNat_ne_newline {n : Nat} (h : 10 < n) : Char.ofNat n ≠ '\n' := by
  intro heq
  have hcode : (Char.ofNat n).toNat = 10 := congrArg Char.toNat heq
  by_cases hvalid : n.isValidChar
  · rw [Char.toNat_ofNat, if_pos hvalid] at hcode
    omega
  · rw [Char.toNat_ofNat, if_neg hvalid] at hcode
    cases hcode

lemma lt_of_imageInRuns_upperRuns {n image : Nat} (h : imageInRuns upperRuns n = some image) :
    10 < image := by
  rw [imageInRuns, ← Array.findSome?_toList] at h
  obtain ⟨⟨first, last, step, start⟩, hrun, hfound⟩ := List.exists_of_findSome?_eq_some h
  have hstart : 10 < start := lt_image_of_mem_upperRuns _ hrun
  dsimp only at hfound
  split at hfound
  · have himage := Option.some.inj hfound
    omega
  · cases hfound

lemma eq_newline_of_mem_upperChar {c : Char} (h : '\n' ∈ upperChar c) : c = '\n' := by
  by_cases hascii : c.toNat < 0x80
  · have hcode := eq_newline_of_mem_upperChar_ascii c.toNat hascii
    rw [Char.ofNat_toNat] at hcode
    exact hcode h
  · rw [upperChar, if_neg hascii, caseImage] at h
    split at h
    · next entry image hentry =>
      rw [← Array.find?_toList] at hentry
      exact absurd h (newline_notMem_upperSequences _ (List.mem_of_find?_eq_some hentry))
    · rw [List.mem_singleton] at h
      cases himage : imageInRuns upperRuns c.toNat with
      | none =>
        rw [himage] at h
        exact h.symm
      | some image =>
        rw [himage] at h
        exact absurd h.symm (ofNat_ne_newline (lt_of_imageInRuns_upperRuns himage))

lemma isOneLine_capitalize {s : String} (h : IsOneLine s) :
    IsOneLine (String.ofList (capitalize s.toList)) := by
  rw [isOneLine_ofList]
  rw [IsOneLine] at h
  cases hs : s.toList with
  | nil => simp [capitalize]
  | cons c rest =>
    rw [hs] at h
    intro hmem
    rcases List.mem_append.mp hmem with hfirst | hrest
    · exact h (eq_newline_of_mem_upperChar hfirst ▸ List.mem_cons_self)
    · exact h (List.mem_cons_of_mem c hrest)

end Text

open Text

lemma Timestamp.newline_notMem_yearText (year : Int) : '\n' ∉ yearText year := by
  have hdigits : ∀ n, '\n' ∉ padded 4 n := fun n => newline_notMem_leftpad 4 n
  unfold yearText
  split
  · exact hdigits _
  · rw [List.mem_cons, not_or]
    exact ⟨by split <;> decide, hdigits _⟩

lemma Timestamp.isOneLine_documentText (t : Timestamp) : IsOneLine t.documentText := by
  have hyear := newline_notMem_yearText t.clock.date.year
  have hpadded : ∀ n, '\n' ∉ padded 2 n := fun n => newline_notMem_leftpad 2 n
  rw [documentText, isOneLine_ofList]
  simp [Clock.dateText, Clock.timeText, hyear, hpadded]

lemma Decimal.isOneLine_pointed (n places : Nat) : IsOneLine (pointed n places) := by
  unfold pointed
  split
  · exact isOneLine_repr n
  · have hpadded := newline_notMem_leftpad (places + 1) n
    rw [isOneLine_ofList, List.mem_append, List.mem_cons, not_or, not_or]
    refine ⟨fun h => hpadded (List.mem_of_mem_take h), by decide, ?_⟩
    exact fun h => hpadded (List.mem_of_mem_drop h)

lemma Decimal.isOneLine_fixed (places : Nat) (x : Float) : IsOneLine (fixed places x) := by
  unfold fixed
  split
  · decide
  · split <;> decide
  · rw [isOneLine_append]
    refine ⟨?_, isOneLine_pointed _ places⟩
    split <;> decide

end GapAudit
