import Mathlib.Data.List.Basic
import GapAudit.Proofs.Source.Placed

/-!
# The text around imports

The imports of a text cut it into stretches between which no name runs on
(`Tree.IsSound.exists_cut`). So if one import is taken out of the text, a name occurs in the rest
just if it occurs in what is left without any import or in one of the other imports
(`occursWhole_withoutRange_iff`).
-/

namespace GapAudit

open Components (withoutRange)
open Text

def Import.statement (source : List Char) (i : Import) : List Char :=
  takeBytes (i.stop - i.start) (dropBytes i.start source)

/-- A text with a line break in place of each import, the last one first. -/
def withoutImports (source : List Char) (imports : List Import) : List Char :=
  imports.foldr (fun i text => withoutRange text i.start i.stop) source

namespace Source

lemma withoutRange_append {start stop : Nat} {a middle : List Char}
    (hstart : start = byteSize a) (hstop : stop = byteSize (a ++ middle)) (b : List Char) :
    withoutRange (a ++ (middle ++ b)) start stop = a ++ '\n' :: b := by
  have hmax : max start stop = stop := by
    rw [hstart, hstop, byteSize_append]
    omega
  rw [withoutRange, hmax, hstart, hstop, takeBytes_append, ← List.append_assoc, dropBytes_append]

lemma statement_append {i : Import} {a statement : List Char} (hstart : i.start = byteSize a)
    (hstop : i.stop = byteSize (a ++ statement)) (b : List Char) :
    i.statement (a ++ (statement ++ b)) = statement := by
  rw [Import.statement, hstart, hstop, byteSize_append, Nat.add_sub_cancel_left, dropBytes_append,
    takeBytes_append]

lemma Apart.of_append_left {front a b : List Char} (h : Apart (front ++ a) b) : Apart a b := by
  rintro ⟨hlast, hhead⟩
  refine h ⟨?_, hhead⟩
  cases a with
  | nil => cases hlast
  | cons c a => rwa [List.getLast?_append_of_ne_nil front (List.cons_ne_nil c a)]

lemma Apart.of_head {a b c : List Char} (h : Apart a b)
    (himp : c.head?.any isNameChar = true → b.head?.any isNameChar = true) : Apart a c :=
  fun ⟨hlast, hhead⟩ => h ⟨hlast, himp hhead⟩

/-- A text behind another one, and imports whose ranges lie in it one behind the other. -/
inductive Spaced : (front s : List Char) → (imports : List Import) → Prop
  | nil (front s : List Char) : Spaced front s []
  | cons {front gap statement rest : List Char} {i : Import} {more : List Import}
      (start_eq : i.start = byteSize (front ++ gap))
      (stop_eq : i.stop = byteSize (front ++ gap ++ statement))
      (tail : Spaced (front ++ gap ++ statement) rest more) :
      Spaced front (gap ++ (statement ++ rest)) (i :: more)

lemma Spaced.prepend {front first s : List Char} {imports : List Import}
    (h : Spaced (front ++ first) s imports) : Spaced front (first ++ s) imports := by
  cases h with
  | nil => exact .nil front (first ++ s)
  | cons start_eq stop_eq tail =>
    rw [← List.append_assoc]
    rw [List.append_assoc front] at start_eq stop_eq tail
    exact .cons start_eq stop_eq tail

/-- A text behind another one, cut at imports, and the text with a line break in place of each. No
name runs on over the ends of an import. -/
inductive Cut : (front s : List Char) → (imports : List Import) → (body : List Char) → Prop
  | nil (front s : List Char) : Cut front s [] s
  | cons {front gap statement rest body : List Char} {i : Import} {more : List Import}
      (start_eq : i.start = byteSize (front ++ gap))
      (stop_eq : i.stop = byteSize (front ++ gap ++ statement)) (ne_nil : statement ≠ [])
      (place : Apart (front ++ gap) (statement ++ rest)) (behind : Apart statement rest)
      (tail : Cut (front ++ gap ++ statement) rest more body) :
      Cut front (gap ++ (statement ++ rest)) (i :: more) (gap ++ '\n' :: body)

variable {front s body : List Char} {imports : List Import}

lemma Cut.withoutImports_eq (h : Cut front s imports body) :
    withoutImports (front ++ s) imports = front ++ body := by
  induction h with
  | nil => rfl
  | @cons front gap statement rest body i more start_eq stop_eq _ _ _ _ ih =>
    have hmore : withoutImports (front ++ (gap ++ (statement ++ rest))) more =
        front ++ gap ++ (statement ++ body) := by
      rw [← List.append_assoc, ← List.append_assoc, ih, List.append_assoc (front ++ gap)]
    calc withoutImports (front ++ (gap ++ (statement ++ rest))) (i :: more)
      _ = withoutRange (front ++ gap ++ (statement ++ body)) i.start i.stop := by
        rw [← hmore]
        rfl
      _ = front ++ gap ++ '\n' :: body := withoutRange_append start_eq stop_eq body
      _ = front ++ (gap ++ '\n' :: body) := List.append_assoc _ _ _

lemma byteSize_le_start_cons {gap statement : List Char} {i : Import} {more : List Import}
    (start_eq : i.start = byteSize (front ++ gap))
    (hmore : ∀ other ∈ more, byteSize (front ++ gap ++ statement) ≤ other.start) :
    ∀ other ∈ i :: more, byteSize front ≤ other.start := by
  rw [List.forall_mem_cons, start_eq, byteSize_append]
  refine ⟨Nat.le_add_right _ _, fun other hother => ?_⟩
  have hle := hmore other hother
  simp only [byteSize_append] at hle
  omega

lemma Cut.byteSize_le_start (h : Cut front s imports body) :
    ∀ i ∈ imports, byteSize front ≤ i.start := by
  induction h with
  | nil => simp
  | cons start_eq _ _ _ _ _ ih => exact byteSize_le_start_cons start_eq ih

/-- The imports of a cut differ in where they start. -/
lemma Cut.ne_of_mem {i other : Import} {more : List Import} (h : Cut front s (i :: more) body)
    (hother : other ∈ more) : other ≠ i := by
  rintro rfl
  cases h with
  | @cons _ gap statement _ _ _ _ start_eq _ ne_nil _ _ tail =>
    have hle := tail.byteSize_le_start other hother
    have hpos := byteSize_pos ne_nil
    rw [start_eq, byteSize_append (front ++ gap)] at hle
    omega

lemma statement_in_cut {gap statement rest : List Char} {i : Import}
    (hstart : i.start = byteSize (front ++ gap))
    (hstop : i.stop = byteSize (front ++ gap ++ statement)) :
    i.statement (front ++ (gap ++ (statement ++ rest))) = statement := by
  rw [← List.append_assoc]
  exact statement_append hstart hstop rest

variable {name : List Char} (hname : IsName name)

include hname

lemma Cut.occursWhole_iff (h : Cut front s imports body) :
    OccursWhole name s ↔ OccursWhole name body ∨
      ∃ i ∈ imports, OccursWhole name (i.statement (front ++ s)) := by
  induction h with
  | nil => simp
  | cons start_eq stop_eq _ place behind _ ih =>
    simp only [List.append_assoc] at ih
    rw [hname.occursWhole_append_iff place.of_append_left, hname.occursWhole_append_iff behind, ih,
      hname.occursWhole_newline_iff, List.exists_mem_cons_iff, statement_in_cut start_eq stop_eq,
      or_assoc]
    exact or_congr_right or_left_comm

/-- A cut text with its first import taken out. -/
lemma Cut.exists_withoutFirst {i : Import} {more : List Import} (h : Cut front s (i :: more) body) :
    ∃ left, withoutRange (front ++ s) i.start i.stop = front ++ left ∧
      (left.head?.any isNameChar = true → s.head?.any isNameChar = true) ∧
      (OccursWhole name left ↔ OccursWhole name body ∨
        ∃ other ∈ more, OccursWhole name (other.statement (front ++ s))) := by
  cases h with
  | @cons _ gap statement rest body _ _ start_eq stop_eq _ _ _ tail =>
    have hrest := tail.occursWhole_iff hname
    simp only [List.append_assoc] at hrest
    refine ⟨gap ++ '\n' :: rest, ?_, ?_, ?_⟩
    · rw [← List.append_assoc, withoutRange_append start_eq stop_eq, List.append_assoc]
    · have hnewline : isNameChar '\n' = false := by decide
      cases gap <;> simp [hnewline]
    · rw [hname.occursWhole_newline_iff, hname.occursWhole_newline_iff, hrest, or_assoc]

/-- A cut text with one of its imports taken out. -/
lemma Cut.exists_withoutRange (h : Cut front s imports body) {i : Import} (hi : i ∈ imports) :
    ∃ left, withoutRange (front ++ s) i.start i.stop = front ++ left ∧
      (left.head?.any isNameChar = true → s.head?.any isNameChar = true) ∧
      (OccursWhole name left ↔ OccursWhole name body ∨
        ∃ other ∈ imports, other ≠ i ∧ OccursWhole name (other.statement (front ++ s))) := by
  induction h with
  | nil => cases hi
  | @cons front gap statement rest body first more start_eq stop_eq ne_nil place behind tail ih =>
    have hcut : Cut front (gap ++ (statement ++ rest)) (first :: more) (gap ++ '\n' :: body) :=
      .cons start_eq stop_eq ne_nil place behind tail
    simp only [List.exists_mem_cons_iff]
    rcases List.mem_cons.mp hi with rfl | hi
    · obtain ⟨left, hleft, hhead, hiff⟩ := hcut.exists_withoutFirst hname
      refine ⟨left, hleft, hhead, hiff.trans (or_congr_right ?_)⟩
      rw [or_iff_right fun h => h.1 rfl]
      exact exists_congr fun other => and_congr_right fun hother =>
        (and_iff_right (hcut.ne_of_mem hother)).symm
    · obtain ⟨left, hleft, hhead, hiff⟩ := ih hi
      have hsame : (statement ++ left).head? = (statement ++ rest).head? := by
        rw [List.head?_append_of_ne_nil _ ne_nil, List.head?_append_of_ne_nil _ ne_nil]
      have hplace : Apart gap (statement ++ left) :=
        place.of_append_left.of_head (by rw [hsame]; exact id)
      have hfirst : first ≠ i := (hcut.ne_of_mem hi).symm
      simp only [List.append_assoc] at hleft hiff
      refine ⟨gap ++ (statement ++ left), hleft, ?_, ?_⟩
      · cases gap with
        | nil =>
          rw [List.nil_append, List.nil_append, hsame]
          exact id
        | cons c gap => exact id
      · -- What stands before the import is kept, the first import included.
        rw [hname.occursWhole_append_iff hplace, hname.occursWhole_append_iff (behind.of_head hhead),
          hiff, hname.occursWhole_newline_iff, statement_in_cut start_eq stop_eq,
          and_iff_right hfirst, or_assoc]
        exact or_congr_right or_left_comm

omit hname

/-- A text is cut at imports that stand in it one behind the other, are not empty and have seams at
their ends. -/
lemma Spaced.exists_cut {source : List Char} (h : Spaced front s imports)
    (hsource : source = front ++ s) (hstand : ∀ i ∈ imports,
      i.start < i.stop ∧ isSeam source i.start = true ∧ isSeam source i.stop = true) :
    ∃ body, Cut front s imports body := by
  induction h with
  | nil front s => exact ⟨s, .nil front s⟩
  | @cons front gap statement rest i more start_eq stop_eq tail ih =>
    obtain ⟨⟨hlt, hstart, hstop⟩, hmore⟩ := List.forall_mem_cons.mp hstand
    have hplace : source = front ++ gap ++ (statement ++ rest) := by
      rw [hsource, List.append_assoc]
    have hbehind : source = front ++ gap ++ statement ++ rest := by
      rw [hplace, List.append_assoc (front ++ gap)]
    obtain ⟨body, hcut⟩ := ih hbehind hmore
    have hne : statement ≠ [] := by
      rintro rfl
      rw [start_eq, stop_eq, List.append_nil] at hlt
      exact Nat.lt_irrefl _ hlt
    have hend : Apart (front ++ gap ++ statement) rest := apart_of_isSeam hstop hbehind stop_eq
    exact ⟨_, .cons start_eq stop_eq hne (apart_of_isSeam hstart hplace start_eq)
      hend.of_append_left hcut⟩

namespace Tree

lemma range_of_import? {source : List Char} {t : Tree} {i : Import}
    (h : import? source t = some i) : i.start = t.start ∧ i.stop = t.stop := by
  obtain ⟨origin, -, rfl⟩ := Option.map_eq_some_iff.mp h
  exact ⟨rfl, rfl⟩

lemma spaced_of_arePlaced {source : List Char} {ts : List Tree} {stop : Nat} {front s : List Char}
    (h : arePlaced source (byteSize front) stop ts = true) (hsource : source = front ++ s) :
    Spaced front s (ts.filterMap (import? source)) := by
  induction ts generalizing front s with
  | nil => exact .nil front s
  | cons t ts ih =>
    simp only [arePlaced, Bool.and_eq_true, decide_eq_true_eq] at h
    obtain ⟨⟨hle, hplaced⟩, hts⟩ := h
    obtain ⟨before, after, heq, hstart, hstop⟩ := exists_text hplaced
    rw [hstart] at hle
    obtain ⟨gap, rfl, rfl⟩ := exists_append_of_byteSize_le (hsource.symm.trans heq) hle
    rw [hstop] at hts
    have hmore := ih hts (by rw [List.append_assoc]; exact heq)
    rw [List.filterMap_cons]
    cases hfound : import? source t with
    | none =>
      rw [← List.append_assoc]
      rw [List.append_assoc] at hmore
      exact hmore.prepend
    | some i =>
      obtain ⟨histart, histop⟩ := range_of_import? hfound
      exact .cons (histart.trans hstart) (histop.trans hstop) hmore

/-- The imports of a text stand in it one behind the other. -/
theorem spaced_imports {source : List Char} {tree : Tree} (h : isPlaced source tree = true) :
    Spaced [] source (tree.imports source) := by
  obtain ⟨front, s, hsource, hfront⟩ := splitsAt_iff.mp (splitsAt_of_isPlaced h).1
  have hstatements : arePlaced source tree.start tree.stop tree.importStatements = true :=
    arePlaced_filter _ (arePlaced_filter _ (arePlaced_children h))
  rw [← hfront] at hstatements
  have hspaced : Spaced ([] ++ front) s (tree.imports source) :=
    spaced_of_arePlaced hstatements hsource
  have hwhole : Spaced [] (front ++ s) (tree.imports source) := hspaced.prepend
  rwa [← hsource] at hwhole

/-- An import is not empty, since its word stands in it. -/
lemma start_lt_stop_of_mem_imports {source : List Char} {tree : Tree}
    (hplaced : isPlaced source tree = true)
    (hwords : ∀ statement ∈ tree.importStatements, statement.hasImportWord source = true) :
    ∀ i ∈ tree.imports source, i.start < i.stop := by
  intro i hi
  obtain ⟨statement, hmem, hfound⟩ := List.mem_filterMap.mp hi
  obtain ⟨hstart, hstop⟩ := range_of_import? hfound
  obtain ⟨word, hword, htext⟩ := List.any_eq_true.mp (hwords statement hmem)
  have hchild : statement ∈ tree.children :=
    List.mem_of_mem_filter (List.mem_of_mem_filter hmem)
  obtain ⟨hstatement, -, -⟩ := placed_of_mem (arePlaced_children hplaced) hchild
  rw [hstart, hstop]
  apply start_lt_stop_of_mem hstatement hword
  rw [beq_iff_eq.mp htext]
  exact List.cons_ne_nil _ _

/-- The imports of a text cut it. -/
theorem IsSound.exists_cut {source : List Char} {tree : Tree} (h : tree.IsSound source) :
    ∃ body, Cut [] source (tree.imports source) body := by
  have himporting : ∀ statement ∈ tree.importStatements, statement.hasImportWord source = true ∧
      isSeam source statement.start = true ∧ isSeam source statement.stop = true := by
    intro statement hmem
    simpa only [isImporting, Bool.and_eq_true, and_assoc] using h.imports statement hmem
  have hlt := start_lt_stop_of_mem_imports h.placed fun statement hmem =>
    (himporting statement hmem).1
  refine (spaced_imports h.placed).exists_cut (List.nil_append source).symm fun i hi => ?_
  obtain ⟨statement, hmem, hfound⟩ := List.mem_filterMap.mp hi
  obtain ⟨hstart, hstop⟩ := range_of_import? hfound
  refine ⟨hlt i hi, ?_⟩
  rw [hstart, hstop]
  exact (himporting statement hmem).2

end Tree

/-- If an import is taken out of a text, a name occurs in the rest just if it occurs in what is left
without any import or in another one. -/
theorem occursWhole_withoutRange_iff {source name : List Char} (hname : IsName name) {tree : Tree}
    (hsound : tree.IsSound source) {i : Import} (hi : i ∈ tree.imports source) :
    OccursWhole name (withoutRange source i.start i.stop) ↔
      OccursWhole name (withoutImports source (tree.imports source)) ∨
        ∃ other ∈ tree.imports source, other ≠ i ∧ OccursWhole name (other.statement source) := by
  obtain ⟨body, hcut⟩ := hsound.exists_cut
  have hbody : withoutImports source (tree.imports source) = body := hcut.withoutImports_eq
  obtain ⟨left, hleft, -, hiff⟩ := hcut.exists_withoutRange hname hi
  rw [List.nil_append, List.nil_append] at hleft
  rw [List.nil_append] at hiff
  rw [hleft, hbody, hiff]

end Source

end GapAudit
