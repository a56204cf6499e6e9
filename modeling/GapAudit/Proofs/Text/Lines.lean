import Mathlib.Data.List.DropRight
import GapAudit.Proofs.Path.Components
import GapAudit.Text.Blank

/-!
# Ends of texts and lines

What is left of a text without the blanks at its end, and the lines of a text for a reader that
passes over carriage returns at the end of a line and over empty lines: for it, lines are just the
pieces between line feeds (`filterMap_lines`).
-/

namespace GapAudit.Text

lemma dropEndWhile_cons (p : Char → Bool) (c : Char) (s : List Char) :
    dropEndWhile p (c :: s) =
      if (dropEndWhile p s).isEmpty && p c then [] else c :: dropEndWhile p s := rfl

lemma dropEndWhile_eq_rdropWhile (p : Char → Bool) (s : List Char) :
    dropEndWhile p s = s.rdropWhile p := by
  induction s with
  | nil => rfl
  | cons c s ih =>
    rw [dropEndWhile_cons, ih, List.rdropWhile, List.rdropWhile, List.reverse_cons,
      List.dropWhile_append]
    cases hkept : s.reverse.dropWhile p with
    | nil => cases hc : p c <;> simp [hc]
    | cons d kept => simp

/-- Characters of a class around a text make no difference once the text is rid of them. -/
lemma trimWhile_surround {p : Char → Bool} {c d : Char} (hc : p c = true) (hd : p d = true)
    (s : List Char) : trimWhile p (c :: (s ++ [d])) = trimWhile p s := by
  rw [trimWhile, trimWhile, List.dropWhile_cons_of_pos hc, dropEndWhile_eq_rdropWhile,
    dropEndWhile_eq_rdropWhile, List.dropWhile_append]
  split
  · next hnil =>
    rw [List.isEmpty_iff.mp hnil, List.dropWhile_cons_of_pos hd]
    rfl
  · exact List.rdropWhile_concat_pos _ _ _ hd

lemma trimWhile_of_forall_not {p : Char → Bool} {s : List Char} (h : ∀ c ∈ s, p c = false) :
    trimWhile p s = s := by
  have hstart : s.dropWhile p = s := by
    cases s with
    | nil => rfl
    | cons c s => exact List.dropWhile_cons_of_neg (Bool.eq_false_iff.mp (h c List.mem_cons_self))
  rw [trimWhile, hstart, dropEndWhile_eq_rdropWhile, List.rdropWhile_eq_self_iff]
  exact fun hs => Bool.eq_false_iff.mp (h _ (List.getLast_mem hs))

/-- Without the blanks at its ends, nothing is left of a text exactly if it is all blank. -/
lemma trim_eq_nil_iff (s : List Char) : trim s = [] ↔ allBlank s = true := by
  rw [trim, trimWhile, dropEndWhile_eq_rdropWhile, List.rdropWhile_eq_nil_iff, allBlank,
    List.all_eq_true]
  constructor
  · intro h c hc
    rw [← List.takeWhile_append_dropWhile (p := isBlank) (l := s), List.mem_append] at hc
    rcases hc with hbefore | hbehind
    · exact List.mem_takeWhile_imp hbefore
    · exact h c hbehind
  · intro h c hc
    exact h c ((List.dropWhile_sublist isBlank).subset hc)

lemma exists_append_trimEnd (s : List Char) :
    ∃ blanks, (∀ c ∈ blanks, isBlank c = true) ∧ s = trimEnd s ++ blanks := by
  refine ⟨s.rtakeWhile isBlank, fun c hc => List.mem_rtakeWhile_imp hc, ?_⟩
  rw [trimEnd, dropEndWhile_eq_rdropWhile, List.rdropWhile_append_rtakeWhile]

lemma trimEnd_append_blanks {blanks : List Char} (h : ∀ c ∈ blanks, isBlank c = true)
    (s : List Char) : trimEnd (s ++ blanks) = trimEnd s := by
  have hreverse : ∀ c ∈ blanks.reverse, isBlank c = true :=
    fun c hc => h c (List.mem_reverse.mp hc)
  rw [trimEnd, trimEnd, dropEndWhile_eq_rdropWhile, dropEndWhile_eq_rdropWhile, List.rdropWhile,
    List.rdropWhile, List.reverse_append, List.dropWhile_append_of_pos hreverse]

lemma trimEnd_cons_of_not_blank {c : Char} (h : isBlank c = false) (s : List Char) :
    trimEnd (c :: s) = c :: trimEnd s := by
  rw [trimEnd, dropEndWhile_cons, h, Bool.and_false]
  rfl

/-- Blanks at the end of a text are behind each character that is not blank. -/
lemma trimEnd_append_cons {c : Char} (h : isBlank c = false) (s t : List Char) :
    trimEnd (s ++ c :: t) = s ++ c :: trimEnd t := by
  induction s with
  | nil => exact trimEnd_cons_of_not_blank h t
  | cons d s ih =>
    have hkept : (dropEndWhile isBlank (s ++ c :: t)).isEmpty = false := by
      rw [← trimEnd, ih]
      cases s <;> rfl
    rw [List.cons_append, trimEnd, dropEndWhile_cons, hkept, ← trimEnd, ih]
    rfl

/-- A text that neither starts nor ends with a blank. -/
structure IsTrimmed (s : List Char) : Prop where
  head : s.head?.any isBlank = false
  last : s.getLast?.any isBlank = false

instance (s : List Char) : Decidable (IsTrimmed s) :=
  decidable_of_iff (s.head?.any isBlank = false ∧ s.getLast?.any isBlank = false)
    ⟨fun h => ⟨h.1, h.2⟩, fun h => ⟨h.1, h.2⟩⟩

lemma IsTrimmed.trimStart_eq {s : List Char} (h : IsTrimmed s) : trimStart s = s := by
  cases s with
  | nil => rfl
  | cons c s =>
    have hc : isBlank c = false := h.head
    exact List.dropWhile_cons_of_neg (by simp [hc])

lemma IsTrimmed.trimEnd_eq {s : List Char} (h : IsTrimmed s) : trimEnd s = s := by
  rw [trimEnd, dropEndWhile_eq_rdropWhile, List.rdropWhile_eq_self_iff]
  intro hne
  have hlast := h.last
  rw [List.getLast?_eq_some_getLast hne, Option.any_some] at hlast
  exact Bool.eq_false_iff.mp hlast

lemma IsTrimmed.trim_eq {s : List Char} (h : IsTrimmed s) : trim s = s := by
  have hstart := h.trimStart_eq
  rw [trimStart] at hstart
  rw [trim, trimWhile, hstart, ← trimEnd, h.trimEnd_eq]

/-- A blank before a text is lost with the blanks at the ends, be the text empty or not. -/
lemma IsTrimmed.trimStart_trimEnd_cons {s : List Char} (h : IsTrimmed s) {c : Char}
    (hc : isBlank c = true) : trimStart (trimEnd (c :: s)) = s := by
  rw [trimEnd, dropEndWhile_cons, ← trimEnd, h.trimEnd_eq, hc, Bool.and_true]
  cases s with
  | nil => rfl
  | cons d s =>
    have hdrop := List.dropWhile_cons_of_pos (p := isBlank) (l := d :: s) hc
    exact hdrop.trans h.trimStart_eq

variable {α : Type} {f : List Char → Option α}

lemma filterMap_lines (hreturn : ∀ line, f (line ++ ['\r']) = f line) (hempty : f [] = none)
    (s : List Char) : (lines s).filterMap f = (splitAt '\n' s).filterMap f := by
  obtain ⟨ended, last, hpieces⟩ : ∃ ended last, splitAt '\n' s = ended ++ [last] :=
    ⟨_, _, (List.dropLast_concat_getLast (splitAt_ne_nil '\n' s)).symm⟩
  have hended : (ended.map fun line =>
      if line.getLast? == some '\r' then line.dropLast else line).filterMap f =
      ended.filterMap f := by
    rw [List.filterMap_map]
    refine List.filterMap_congr fun line _ => ?_
    rw [Function.comp_apply]
    split
    · next hlast =>
      obtain ⟨kept, rfl⟩ := List.getLast?_eq_some_iff.mp (beq_iff_eq.mp hlast)
      rw [List.dropLast_concat, hreturn]
    · rfl
  rw [lines, hpieces, List.dropLast_concat, List.getLast?_concat, List.filterMap_append]
  cases last with
  | nil => rw [hended, List.filterMap_cons_none hempty, List.filterMap_nil, List.append_nil]
  | cons c last => rw [List.filterMap_append, hended]

end GapAudit.Text
