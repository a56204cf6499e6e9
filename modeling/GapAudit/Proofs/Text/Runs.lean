import Mathlib.Data.List.Basic
import GapAudit.Proofs.Text.Identifier

/-!
# Runs of characters of identifiers

A text falls into runs of characters of identifiers, with other characters between them
(`Text.identifierRuns`). The runs are what occurs as a whole and consists of such characters
(`Text.mem_identifierRuns_iff`). So a name of such characters is found as an identifier just if it
is one of the runs, although a search for matches that do not overlap passes over some of the places
where the name stands (`Text.identifierUsed_exact`).
-/

namespace GapAudit.Text

section

variable {α : Type} {p : α → Bool} {run : List α}

/-- Where an element splits a list for the first time. -/
lemma exists_first_split (p : α → Bool) (s : List α) :
    (∀ x ∈ s, p x = false) ∨ ∃ front separator rest, s = front ++ separator :: rest ∧
      (∀ x ∈ front, p x = false) ∧ p separator = true := by
  have hfront : ∀ x ∈ s.takeWhile (fun x => !p x), p x = false := by
    intro x hx
    simpa using List.mem_takeWhile_imp hx
  have hsplit := List.takeWhile_append_dropWhile (p := fun x => !p x) (l := s)
  cases hrest : s.dropWhile (fun x => !p x) with
  | nil =>
    rw [hrest, List.append_nil] at hsplit
    exact .inl (hsplit ▸ hfront)
  | cons separator rest =>
    have hstop := List.head?_dropWhile_not (fun x => !p x) s
    rw [hrest] at hsplit hstop
    exact .inr ⟨_, separator, rest, hsplit.symm, hfront, by simpa using hstop⟩

/-- A piece of a list has elements next to it only where the list is split. -/
lemma exists_of_mem_splitOnP {s : List α} (h : run ∈ s.splitOnP p) :
    (∀ x ∈ run, p x = false) ∧ ∃ before after, s = before ++ (run ++ after) ∧
      before.getLast?.all p = true ∧ after.head?.all p = true := by
  induction hlength : s.length using Nat.strong_induction_on generalizing s with
  | _ length ih =>
    obtain hnone | ⟨front, separator, rest, rfl, hfront, hseparator⟩ := exists_first_split p s
    · rw [List.splitOnP_eq_singleton hnone, List.mem_singleton] at h
      subst h
      exact ⟨hnone, [], [], by simp, rfl, rfl⟩
    · rw [List.splitOnP_append_cons_of_forall_mem hfront separator hseparator] at h
      rcases List.mem_cons.mp h with rfl | h
      · exact ⟨hfront, [], separator :: rest, rfl, rfl, hseparator⟩
      · have hshorter : rest.length < length := by
          rw [← hlength, List.length_append, List.length_cons]
          omega
        obtain ⟨hrun, before, after, rfl, hbefore, hafter⟩ := ih _ hshorter h rfl
        refine ⟨hrun, front ++ separator :: before, after, by simp, ?_, hafter⟩
        rw [List.getLast?_append_of_ne_nil front (List.cons_ne_nil separator before),
          List.getLast?_cons]
        cases hlast : before.getLast? with
        | none => exact hseparator
        | some last => rwa [hlast] at hbefore

/-- What has elements next to it only where the list is split is a piece of the list. -/
lemma mem_splitOnP (hrun : ∀ x ∈ run, p x = false) {before after : List α}
    (hbefore : before.getLast?.all p = true) (hafter : after.head?.all p = true) :
    run ∈ (before ++ (run ++ after)).splitOnP p := by
  have hhead : run ∈ (run ++ after).splitOnP p := by
    cases after with
    | nil =>
      rw [List.append_nil, List.splitOnP_eq_singleton hrun]
      exact List.mem_singleton_self run
    | cons separator rest =>
      rw [List.splitOnP_append_cons_of_forall_mem hrun separator hafter]
      exact List.mem_cons_self
  rcases List.eq_nil_or_concat' before with rfl | ⟨front, separator, rfl⟩
  · exact hhead
  · have hseparator : p separator = true := by simpa using hbefore
    rw [List.append_assoc, List.singleton_append, List.splitOnP_append_cons front _ hseparator]
    exact List.mem_append_right _ hhead

end

/-- The runs of characters of identifiers in a text, as long as they can be. -/
def identifierRuns (s : List Char) : List (List Char) :=
  (s.splitOnP fun c => !isIdentifierChar c).filter (!·.isEmpty)

/-- The runs are what consists of characters of identifiers and has none next to it. -/
theorem mem_identifierRuns_iff {run s : List Char} :
    run ∈ identifierRuns s ↔
      run ≠ [] ∧ (∀ c ∈ run, isIdentifierChar c = true) ∧ OccursWhole run s := by
  have hall (o : Option Char) :
      o.all (fun c => !isIdentifierChar c) = true ↔ o.any isIdentifierChar = false := by
    cases o <;> simp
  have hchar (c : Char) : (!isIdentifierChar c) = false ↔ isIdentifierChar c = true := by simp
  rw [identifierRuns, List.mem_filter, and_comm]
  refine and_congr (by simp) ⟨fun h => ?_, ?_⟩
  · obtain ⟨hrun, before, after, heq, hbefore, hafter⟩ := exists_of_mem_splitOnP h
    exact ⟨fun c hc => (hchar c).mp (hrun c hc), before, after, heq, (hall _).mp hbefore,
      (hall _).mp hafter⟩
  · rintro ⟨hrun, before, after, rfl, hbefore, hafter⟩
    exact mem_splitOnP (fun c hc => (hchar c).mpr (hrun c hc)) ((hall _).mpr hbefore)
      ((hall _).mpr hafter)

/-- A name of characters of identifiers is found just if it occurs as a whole, so just if it is a
run of such characters in the text. -/
theorem identifierUsed_exact {name : List Char} (hne : name ≠ [])
    (hchars : ∀ c ∈ name, isIdentifierChar c = true) (text : List Char) :
    (identifierUsed text name = true ↔ OccursWhole name text) ∧
      (identifierUsed text name = true ↔ name ∈ identifierRuns text) := by
  have hwhole := identifierUsed_iff hne (overlapsInside_of_all hchars) text
  refine ⟨hwhole, hwhole.trans ?_⟩
  rw [mem_identifierRuns_iff, and_iff_right hne, and_iff_right hchars]

/-- Of the three places where the name stands in the first text, the search passes over the second
one, and of the two in the other text none is whole. -/
theorem identifierUsed_exact_overlapping :
    "aa".toList ≠ [] ∧ (∀ c ∈ "aa".toList, isIdentifierChar c = true) ∧
      scan (occurrence? "aa".toList) "aaa aa".toList = [false, true] ∧
      identifierRuns "aaa aa".toList = ["aaa".toList, "aa".toList] ∧
      identifierUsed "aaa aa".toList "aa".toList = true ∧
      OccursWhole "aa".toList "aaa aa".toList ∧
      identifierUsed "aaa $aa".toList "aa".toList = false := by
  have hne : "aa".toList ≠ [] := by decide
  have hchars : ∀ c ∈ "aa".toList, isIdentifierChar c = true :=
    List.all_eq_true.mp (by decide +kernel)
  have hruns : identifierRuns "aaa aa".toList = ["aaa".toList, "aa".toList] := by decide +kernel
  have hothers : "aa".toList ∉ identifierRuns "aaa $aa".toList := by decide +kernel
  obtain ⟨hwhole, hrun⟩ := identifierUsed_exact hne hchars "aaa aa".toList
  have hused := hrun.mpr (by rw [hruns]; exact List.mem_cons_of_mem _ List.mem_cons_self)
  refine ⟨hne, hchars, by decide +kernel, hruns, hused, hwhole.mp hused, ?_⟩
  rw [Bool.eq_false_iff]
  exact mt (identifierUsed_exact hne hchars _).2.mp hothers

end GapAudit.Text
