import Mathlib.Data.List.Basic
import GapAudit.Walk

/-!
# Trees without contents

The shape of a tree is the tree with every file emptied. Links are followed, folders are listed and
walks go their way by the shape alone: each look-up in a tree gives what it gives in the shape
(`resolve_shape`, `isFile_shape`, `isFolder_shape`), and a walk finds the same files
(`Walk.collect_shape`).
-/

namespace GapAudit

namespace FileTree

mutual

/-- The tree with every file emptied. -/
def shape : FileTree → FileTree
  | .file _ => .file .empty
  | .link target => .link target
  | .folder entries => .folder (shapeAll entries)

def shapeAll : List (String × FileTree) → List (String × FileTree)
  | [] => []
  | (name, entry) :: rest => (name, entry.shape) :: shapeAll rest

end

lemma lookup_shapeAll (name : String) (entries : List (String × FileTree)) :
    (shapeAll entries).lookup name = (entries.lookup name).map shape := by
  induction entries with
  | nil => rfl
  | cons head rest ih =>
    obtain ⟨key, entry⟩ := head
    rw [shapeAll, List.lookup_cons, List.lookup_cons, ih]
    cases name == key <;> rfl

lemma map_fst_shapeAll (entries : List (String × FileTree)) :
    (shapeAll entries).map (·.1) = entries.map (·.1) := by
  induction entries with
  | nil => rfl
  | cons entry rest ih =>
    rw [shapeAll, List.map_cons, List.map_cons, ih]

lemma child?_shape (name : String) (tree : FileTree) :
    tree.shape.child? name = (tree.child? name).map shape := by
  cases tree with
  | file content => rfl
  | link target => rfl
  | folder entries =>
    change (shapeAll entries).lookup name = (entries.lookup name).map shape
    exact lookup_shapeAll name entries

lemma at?_shape (tree : FileTree) (place : List String) :
    tree.shape.at? place = (tree.at? place).map shape := by
  induction place generalizing tree with
  | nil => rfl
  | cons name rest ih =>
    rw [at?, at?, child?_shape]
    cases tree.child? name with
    | none => rfl
    | some entry => exact ih entry

lemma holdsFolder_shape (tree : FileTree) (place : List String) :
    tree.shape.holdsFolder place = tree.holdsFolder place := by
  rw [holdsFolder, holdsFolder, at?_shape]
  rcases tree.at? place with _ | (_ | _ | _) <;> rfl

lemma walkTo_shape (tree : FileTree)
    (follow : List String → String → Except AccessError (List String))
    (place components : List String) :
    tree.shape.walkTo follow place components = tree.walkTo follow place components := by
  induction components generalizing place with
  | nil => rfl
  | cons name rest ih =>
    rw [walkTo, walkTo, at?_shape]
    rcases tree.at? place with _ | (content | entries | target)
    · rfl
    · rfl
    · -- The entry that a name leads to is a link in the shape just where it is one in the tree.
      simp only [Option.map_some, shape, lookup_shapeAll, ih]
      rcases entries.lookup name with _ | (content | inside | target) <;> rfl
    · rfl

lemma walkPath_shape (tree : FileTree)
    (follow : List String → String → Except AccessError (List String))
    (place : List String) (path : String) :
    tree.shape.walkPath follow place path = tree.walkPath follow place path := by
  rw [walkPath, walkPath, walkTo_shape]
  simp only [holdsFolder_shape]

lemma resolveWith_shape (tree : FileTree) (links : Nat) :
    tree.shape.resolveWith links = tree.resolveWith links := by
  induction links with
  | zero =>
    funext place path
    exact walkPath_shape tree _ place path
  | succ links ih =>
    funext place path
    rw [resolveWith, resolveWith, ih]
    exact walkPath_shape tree _ place path

theorem resolve_shape (tree : FileTree) (path : String) :
    tree.shape.resolve path = tree.resolve path := by
  rw [resolve, resolve, resolveWith_shape]

lemma entry?_shape (tree : FileTree) (path : String) :
    tree.shape.entry? path = (tree.entry? path).map shape := by
  unfold entry?
  rw [resolve_shape]
  cases (tree.resolve path).toOption with
  | none => rfl
  | some place => exact at?_shape tree place

theorem isFile_shape (tree : FileTree) (path : String) :
    tree.shape.isFile path = tree.isFile path := by
  rw [isFile, isFile, entry?_shape]
  rcases tree.entry? path with _ | (_ | _ | _) <;> rfl

theorem isFolder_shape (tree : FileTree) (path : String) :
    tree.shape.isFolder path = tree.isFolder path := by
  rw [isFolder, isFolder, entry?_shape]
  rcases tree.entry? path with _ | (_ | _ | _) <;> rfl

mutual

lemma size_shape : (tree : FileTree) → tree.shape.size = tree.size
  | .file _ => rfl
  | .link _ => rfl
  | .folder entries => by rw [shape, size, size, sizeAll_shapeAll entries]

lemma sizeAll_shapeAll : (entries : List (String × FileTree)) →
    sizeAll (shapeAll entries) = sizeAll entries
  | [] => rfl
  | (_, entry) :: rest => by
    rw [shapeAll, sizeAll, sizeAll, size_shape entry, sizeAll_shapeAll rest]

end

end FileTree

namespace Walk

open FileTree

mutual

lemma inFolder_shapeAll (w : Walk) (enter : Position → String → List String) (here : Position) :
    (entries : List (String × FileTree)) →
      w.inFolder enter here (shapeAll entries) = w.inFolder enter here entries
  | [] => rfl
  | (name, entry) :: rest => by
    rw [shapeAll, inFolder, inFolder, inEntry_shape w enter here name entry,
      inFolder_shapeAll w enter here rest]

lemma inEntry_shape (w : Walk) (enter : Position → String → List String) (here : Position)
    (name : String) :
    (entry : FileTree) → w.inEntry enter here name entry.shape = w.inEntry enter here name entry
  | .file _ => rfl
  | .link _ => rfl
  | .folder entries => by
    rw [shape, inEntry, inEntry]
    simp only [inFolder_shapeAll w enter _ entries]

end

lemma throughLink_shape (w : Walk) (tree : FileTree) (links : Nat) :
    w.throughLink tree.shape links = w.throughLink tree links := by
  induction links with
  | zero => rfl
  | succ links ih =>
    funext here name
    rw [throughLink, throughLink, resolveWith_shape]
    cases tree.resolveWith linkLimit here.place name with
    | error e => rfl
    | ok place =>
      simp only [at?_shape, ih]
      rcases tree.at? place with _ | (content | entries | target)
      · rfl
      · rfl
      · simp only [Option.map_some, shape, inFolder_shapeAll]
      · rfl

/-- A walk finds in a tree what it finds in the shape of the tree. -/
theorem collect_shape (w : Walk) (tree : FileTree) (root : String) :
    w.collect tree.shape root = w.collect tree root := by
  rw [collect, collect, resolve_shape]
  cases tree.resolve root with
  | error e => rfl
  | ok place =>
    simp only [at?_shape, throughLink_shape, size_shape]
    rcases tree.at? place with _ | (content | entries | target)
    · rfl
    · rfl
    · simp only [Option.map_some, shape, inFolder_shapeAll]
    · rfl

end Walk

end GapAudit
