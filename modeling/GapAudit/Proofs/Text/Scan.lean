import Mathlib.Data.List.TakeWhile
import GapAudit.Text.Scan

/-!
# Matches that do not overlap

A scan from left to right tries every place of a text that no earlier match has taken. So what
stands at a place is found there, unless a match that begins before reaches beyond the place
(`mem_scan_or_overlaps`), and what is found stands at a place (`exists_of_mem_scan`).
-/

namespace GapAudit.Text

variable {α : Type}

/-- A match that begins within a text and reaches beyond its end. -/
def Overlaps (find : Option Char → List Char → Option (α × List Char)) (before : Option Char)
    (u v : List Char) (found : α) : Prop :=
  ∃ front back rest, u = front ++ back ∧ back ≠ [] ∧
    find (front.getLast?.or before) (back ++ v) = some (found, rest) ∧ rest.length < v.length

variable {find : Option Char → List Char → Option (α × List Char)}

lemma getLast?_cons_or (c : Char) (before : Option Char) (u : List Char) :
    (c :: u).getLast?.or before = u.getLast?.or (some c) := by
  rw [List.getLast?_cons]
  cases u.getLast? <;> rfl

lemma Overlaps.cons {before : Option Char} {u v : List Char} {c : Char} {found : α}
    (h : Overlaps find (some c) u v found) : Overlaps find before (c :: u) v found := by
  obtain ⟨front, back, rest, rfl, hback, hfind, hrest⟩ := h
  refine ⟨c :: front, back, rest, rfl, hback, ?_, hrest⟩
  rwa [getLast?_cons_or]

/-- A scan comes to the end of the first part of a text, or a match that it finds reaches beyond
it. -/
lemma scanFrom_append (v : List Char) (u : List Char) :
    ∀ (skip : Nat) (before : Option Char), skip ≤ u.length →
      (∃ founds, scanFrom find skip before (u ++ v) =
        founds ++ scanFrom find 0 (u.getLast?.or before) v) ∨
      ∃ found ∈ scanFrom find skip before (u ++ v), Overlaps find before u v found := by
  induction u with
  | nil =>
    intro skip before hskip
    obtain rfl : skip = 0 := Nat.le_zero.mp hskip
    exact .inl ⟨[], rfl⟩
  | cons c u ih =>
    intro skip before hskip
    have hlater (skip : Nat) (hle : skip ≤ u.length) :
        (∃ founds, scanFrom find skip (some c) (u ++ v) =
          founds ++ scanFrom find 0 ((c :: u).getLast?.or before) v) ∨
        ∃ found ∈ scanFrom find skip (some c) (u ++ v), Overlaps find before (c :: u) v found := by
      rw [getLast?_cons_or]
      exact (ih skip (some c) hle).imp id fun ⟨found, hmem, hover⟩ => ⟨found, hmem, hover.cons⟩
    cases skip with
    | succ skip =>
      rw [List.cons_append, scanFrom]
      exact hlater skip (Nat.le_of_succ_le_succ hskip)
    | zero =>
      rw [List.cons_append, scanFrom]
      split
      · next found rest hfind =>
        by_cases hbeyond : rest.length < v.length
        · refine .inr ⟨found, List.mem_cons_self, [], c :: u, rest, rfl, List.cons_ne_nil c u, ?_,
            hbeyond⟩
          exact hfind
        · have hle : (u ++ v).length - rest.length ≤ u.length := by
            rw [List.length_append]
            omega
          obtain ⟨founds, heq⟩ | ⟨other, hmem, hover⟩ := hlater _ hle
          · exact .inl ⟨found :: founds, by rw [heq, List.cons_append]⟩
          · exact .inr ⟨other, List.mem_cons_of_mem found hmem, hover⟩
      · exact hlater 0 (Nat.zero_le _)

/-- What stands at a place of a text is found, unless a match that is found begins before the place
and reaches beyond it. -/
theorem mem_scan_or_overlaps {u v rest : List Char} {found : α}
    (hfind : find u.getLast? v = some (found, rest)) (hv : v ≠ []) :
    found ∈ scan find (u ++ v) ∨ ∃ other ∈ scan find (u ++ v), Overlaps find none u v other := by
  refine (scanFrom_append v u 0 none (Nat.zero_le _)).imp (fun ⟨founds, heq⟩ => ?_) id
  obtain ⟨c, s, rfl⟩ := List.exists_cons_of_ne_nil hv
  rw [scan, heq, Option.or_none, scanFrom, hfind]
  exact List.mem_append_right founds List.mem_cons_self

lemma exists_of_mem_scanFrom {s : List Char} {skip : Nat} {before : Option Char} {found : α}
    (h : found ∈ scanFrom find skip before s) :
    ∃ u v rest, s = u ++ v ∧ find (u.getLast?.or before) v = some (found, rest) := by
  induction s generalizing skip before with
  | nil =>
    unfold scanFrom at h
    cases h
  | cons c s ih =>
    have hlater {skip : Nat} (h : found ∈ scanFrom find skip (some c) s) :
        ∃ u v rest, c :: s = u ++ v ∧ find (u.getLast?.or before) v = some (found, rest) := by
      obtain ⟨u, v, rest, rfl, hfind⟩ := ih h
      exact ⟨c :: u, v, rest, rfl, by rwa [getLast?_cons_or]⟩
    cases skip with
    | succ skip => exact hlater h
    | zero =>
      rw [scanFrom] at h
      split at h
      · next first rest hfind =>
        rcases List.mem_cons.mp h with rfl | h
        · exact ⟨[], c :: s, rest, rfl, hfind⟩
        · exact hlater h
      · exact hlater h

/-- Whatever a scan finds stands at a place of the text. -/
lemma exists_of_mem_scan {s : List Char} {found : α} (h : found ∈ scan find s) :
    ∃ u v rest, s = u ++ v ∧ find u.getLast? v = some (found, rest) := by
  obtain ⟨u, v, rest, heq, hfind⟩ := exists_of_mem_scanFrom h
  rw [Option.or_none] at hfind
  exact ⟨u, v, rest, heq, hfind⟩

/-- A recogniser succeeds somewhere in a text just if it does at the head of an end of it. -/
theorem occursWhere_iff {find : Option Char → List Char → Bool} {s : List Char} :
    occursWhere find s = true ↔ ∃ u v, s = u ++ v ∧ find u.getLast? v = true := by
  have hfrom : ∀ before, (searchFrom (fun before rest => if find before rest then some () else none)
      before s).isSome = true ↔ ∃ u v, s = u ++ v ∧ find (u.getLast?.or before) v = true := by
    induction s with
    | nil =>
      intro before
      have hhere : (searchFrom (fun before rest => if find before rest then some () else none)
          before []).isSome = true ↔ find before [] = true := by
        rw [searchFrom]
        simp
      rw [hhere]
      constructor
      · exact fun h => ⟨[], [], rfl, h⟩
      · rintro ⟨u, v, heq, h⟩
        obtain ⟨rfl, rfl⟩ := List.append_eq_nil_iff.mp heq.symm
        exact h
    | cons c s ih =>
      intro before
      rw [searchFrom]
      by_cases hhere : find before (c :: s) = true
      · rw [if_pos hhere]
        exact ⟨fun _ => ⟨[], c :: s, rfl, hhere⟩, fun _ => rfl⟩
      · rw [if_neg hhere, ih]
        constructor
        · rintro ⟨u, v, rfl, hfind⟩
          exact ⟨c :: u, v, rfl, by rwa [getLast?_cons_or]⟩
        · rintro ⟨u, v, heq, hfind⟩
          rcases List.cons_eq_append_iff.mp heq with ⟨rfl, rfl⟩ | ⟨u, rfl, rfl⟩
          · exact absurd hfind hhere
          · exact ⟨u, v, rfl, by rwa [getLast?_cons_or] at hfind⟩
  rw [occursWhere, search?, hfrom none]
  simp only [Option.or_none]

/-- The characters that a match has taken are passed over. -/
lemma scanFrom_skip (u v : List Char) (before : Option Char) :
    scanFrom find u.length before (u ++ v) = scanFrom find 0 (u.getLast?.or before) v := by
  induction u generalizing before with
  | nil => rfl
  | cons c u ih =>
    rw [List.cons_append, List.length_cons, scanFrom, ih, getLast?_cons_or]

/-- A match at the head of a text, and the matches behind it. -/
lemma scanFrom_append_of_some {u v : List Char} {before : Option Char} {found : α} (hu : u ≠ [])
    (h : find before (u ++ v) = some (found, v)) :
    scanFrom find 0 before (u ++ v) = found :: scanFrom find 0 u.getLast? v := by
  obtain ⟨c, u, rfl⟩ := List.exists_cons_of_ne_nil hu
  have hlength : (u ++ v).length - v.length = u.length := by simp
  rw [List.cons_append] at h ⊢
  rw [scanFrom, h]
  dsimp only
  rw [hlength, scanFrom_skip, ← getLast?_cons_or, Option.or_none]

end GapAudit.Text
