import Mathlib
import GapAudit.Proofs.FileTree.Change
import GapAudit.Proofs.FileTree.Lookup

/-!
# Walks find files by where they stand

In a tree without links a path that is written without two points leads where its components say
(`FileTree.place_of_resolve`). So a walk below such a path finds just the files that stand where its
rules admit them (`Walk.mem_collect_iff_admits`), and what it finds in one tree and not in another
stands in only one of them.
-/

namespace GapAudit

open GapAudit.Path

namespace FileTree

variable {tree : FileTree} {path : String} {place : List String}

/-- A path without two points leads to the place of its components if it leads anywhere. -/
lemma place_of_resolve (plain : tree.isPlain = true) (absolute : isAbsolute path = true)
    (straight : ".." ∉ components path) (h : tree.resolve path = .ok place) :
    place = components path := by
  have hnames : ∀ name ∈ components path, isSegment name = true := fun name hmem =>
    (isComponent_of_mem_components absolute hmem).isSegment fun heq => straight (heq ▸ hmem)
  rw [walkTo_eq_ok (hasNoLinks_of_isPlain plain) (walkTo_of_resolve absolute h),
    foldl_step_of_isSegment hnames, List.nil_append]

/-- A path leads to the folder that stands at the place of its components. -/
lemma resolve_of_holdsFolder (plain : tree.isPlain = true) (absolute : isAbsolute path = true)
    (h : tree.holdsFolder (components path) = true) :
    tree.resolve path = .ok (components path) := by
  obtain ⟨entries, hentries⟩ := holdsFolder_iff.mp h
  have hnames := (isNamedBy_of_at? plain hentries).1
  have hwalk : tree.walkTo tree.follow [] (components path) = .ok (components path) :=
    walkTo_of_isSome (hasNoLinks_of_isPlain plain) hnames (isSome_of_holdsFolder h)
  rw [resolve_of_walkTo absolute hwalk, h, Bool.not_true, Bool.and_false, if_neg Bool.false_ne_true]

/-- A file that is put at a place is the only one that comes or goes. -/
lemma holdsFile_put_iff (h : tree.HasWayTo place) (content : ByteArray) {other : List String}
    (hother : other ≠ place) : (tree.put (.file content) place).HoldsFile other ↔
      tree.HoldsFile other := by
  have hput : (tree.put (.file content) place).standing? other = tree.standing? other := by
    rw [standing?_put (fun _ _ => rfl) h, if_neg hother]
  simp only [HoldsFile, ← standing?_eq_file_iff, hput]

end FileTree

namespace Walk

open FileTree

/-- Whether the rules of a walk admit a path below a root: it is the path of a file that is wanted,
and no folder on the way to it is hidden or passed over by its name. -/
def Admits (w : Walk) (root path : String) : Prop :=
  ∃ folders name, path = (folders ++ [name]).foldl join root ∧
    (∀ other ∈ folders ++ [name], isSegment other = true) ∧
    (∀ folder ∈ folders, folder.toList.head? ≠ some '.' ∧ folder ∉ w.skippedFolders) ∧
    w.IsWanted path name

lemma Admits.absolute {w : Walk} {root path : String} (h : w.Admits root path)
    (absolute : isAbsolute root = true) : isAbsolute path = true := by
  obtain ⟨folders, name, rfl, -⟩ := h
  exact isAbsolute_foldl_join absolute _

/-- A walk finds just the files that stand where its rules admit them. -/
theorem mem_collect_iff_admits (w : Walk) {tree : FileTree} (plain : tree.isPlain = true)
    {root : String} (absolute : isAbsolute root = true) (straight : ".." ∉ Path.components root)
    (path : String) :
    path ∈ w.collect tree root ↔ w.Admits root path ∧ tree.HoldsFile (Path.components path) := by
  rw [(collect_findsExactly plain absolute w).mem_iff]
  constructor
  · rintro ⟨place, folders, name, content, hplace, hfile, rfl, hfolders, hwanted⟩
    obtain rfl := place_of_resolve plain absolute straight hplace
    have hnames : ∀ other ∈ folders ++ [name], isSegment other = true := fun other hmem =>
      (isNamedBy_of_at? plain hfile).1 other (List.mem_append_right _ hmem)
    refine ⟨⟨folders, name, rfl, hnames, hfolders, hwanted⟩, content, ?_⟩
    rw [components_foldl_join absolute hnames, hfile]
  · rintro ⟨⟨folders, name, rfl, hnames, hfolders, hwanted⟩, content, hfile⟩
    rw [components_foldl_join absolute hnames] at hfile
    -- What has a file below it is a folder.
    have hfolder : tree.holdsFolder (Path.components root) = true := by
      obtain ⟨next, rest, hrest⟩ := List.exists_cons_of_ne_nil
        (List.append_ne_nil_of_right_ne_nil folders (List.cons_ne_nil name []))
      rw [hrest] at hfile
      exact holdsFolder_of_isSome (by rw [hfile]; rfl)
    have hroot := resolve_of_holdsFolder plain absolute hfolder
    exact ⟨Path.components root, folders, name, content, hroot, hfile, rfl, hfolders, hwanted⟩

/-- A walk finds the same in two trees at a path where the same files stand. -/
lemma mem_collect_congr (w : Walk) {tree other : FileTree} (plain : tree.isPlain = true)
    (plain' : other.isPlain = true) {root : String} (absolute : isAbsolute root = true)
    (straight : ".." ∉ Path.components root) {path : String}
    (h : isAbsolute path = true →
      (tree.HoldsFile (Path.components path) ↔ other.HoldsFile (Path.components path))) :
    path ∈ w.collect tree root ↔ path ∈ w.collect other root := by
  rw [w.mem_collect_iff_admits plain absolute straight,
    w.mem_collect_iff_admits plain' absolute straight]
  exact and_congr_right fun hadmits => h (hadmits.absolute absolute)

end Walk

end GapAudit
