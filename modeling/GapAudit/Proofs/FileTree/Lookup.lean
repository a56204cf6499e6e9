import Mathlib
import GapAudit.Proofs.Path.Lexical
import GapAudit.Proofs.Walk.Exact

/-!
# Look-ups in trees without links

Where there are no links, a path without points leads to the entry at the place that its components
name (`entry?_of_isPlain`). So a path is one of a file just if a file is held at its place
(`isFile_absolutePath_iff`).
-/

namespace GapAudit.FileTree

open GapAudit.Path

variable {tree : FileTree}

/-- Whether a file stands at a place of a tree. -/
def HoldsFile (tree : FileTree) (place : List String) : Prop :=
  ∃ content, tree.at? place = some (.file content)

lemma walkTo_bind_at? (plain : tree.isPlain = true)
    (follow : List String → String → Except AccessError (List String))
    {place names : List String} (hplace : (tree.at? place).isSome)
    (hnames : ∀ name ∈ names, isSegment name = true) :
    (tree.walkTo follow place names).toOption.bind tree.at? = tree.at? (place ++ names) := by
  induction names generalizing place with
  | nil => rw [walkTo, List.append_nil]; rfl
  | cons name rest ih =>
    obtain ⟨hpoint, hpoints⟩ := ne_points_of_isSegment (hnames name List.mem_cons_self)
    have hrest := fun other hmem => hnames other (List.mem_cons_of_mem name hmem)
    obtain ⟨entry, hentry⟩ := Option.isSome_iff_exists.mp hplace
    have hbelow : tree.at? (place ++ name :: rest) =
        (entry.child? name).bind fun child => child.at? rest := by
      rw [at?_append, hentry, Option.bind_some, at?]
    rw [walkTo, hentry, hbelow]
    cases entry with
    | file content => rfl
    | link target => cases (isNamedBy_of_at? plain hentry).2
    | folder entries =>
      have hentries : areNamedBy isSegment false entries = true := (isNamedBy_of_at? plain hentry).2
      simp only [beq_iff_eq, hpoint, hpoints, if_false, child?]
      cases hlookup : entries.lookup name with
      | none => rfl
      | some child =>
        have hchild : tree.at? (place ++ [name]) = some child := by
          rw [at?_append, hentry, Option.bind_some, at?, child?, hlookup]
          rfl
        have hreached : (tree.at? (place ++ [name])).isSome := by rw [hchild]; rfl
        have hwalk := ih hreached hrest
        rw [List.append_assoc, List.singleton_append, hbelow, child?, hlookup] at hwalk
        cases child with
        | link target => cases (isNamedBy_of_lookup hentries hlookup).2
        | file content => exact hwalk
        | folder inside => exact hwalk

/-- A path without points leads to the entry at its place, unless it asks for a folder. -/
theorem entry?_of_isPlain (plain : tree.isPlain = true) {path : String}
    (absolute : isAbsolute path = true) (hnames : ∀ name ∈ components path, isSegment name = true)
    (hfolder : namesFolder path = false) : tree.entry? path = tree.at? (components path) := by
  have hwalk (follow) : (tree.walkTo follow [] (components path)).toOption.bind tree.at? =
      tree.at? (components path) :=
    walkTo_bind_at? plain follow (by rfl) hnames
  have hpath (follow) : (tree.walkPath follow [] path).toOption.bind tree.at? =
      tree.at? (components path) := by
    rw [← hwalk follow, walkPath, absolute, if_pos rfl, hfolder]
    cases tree.walkTo follow [] (components path) with
    | error e => rfl
    | ok place => rfl
  exact hpath _

lemma namesFolder_absolutePath {above : List String} {name : String}
    (hplace : ∀ other ∈ above ++ [name], isSegment other = true) :
    namesFolder (absolutePath (above ++ [name])) = false := by
  have hne : above ++ [name] ≠ [] := by simp
  have hslash : ∀ other ∈ above ++ [name], '/' ∉ other.toList :=
    fun other hmem => not_mem_of_isSegment (hplace other hmem)
  have hlast : ([] :: (above ++ [name]).map String.toList).getLast? = some name.toList := by
    simp [List.getLast?_cons]
  obtain ⟨hempty, hpoint⟩ := (counts_iff _).mp (counts_of_isSegment (hplace name (by simp)))
  rw [namesFolder, splitAt_absolutePath hne hslash]
  simp only [hlast]
  simp [hempty, hpoint]

lemma isFile_root (tree : FileTree) : tree.isFile (absolutePath []) = false := by
  have hresolve : tree.resolve (absolutePath []) =
      if tree.holdsFolder [] then .ok [] else .error .notFolder := by
    have hcomponents : components (absolutePath []) = [] := rfl
    have hfolder : namesFolder (absolutePath []) = true := rfl
    rw [resolve, linkLimit, resolveWith, walkPath, hcomponents, hfolder, ite_self, walkTo]
    cases hroot : tree.holdsFolder [] <;> simp [hroot]
  rw [isFile, entry?, hresolve]
  cases tree <;> rfl

/-- A path without points is one of a file just if a file is held at its place. -/
theorem isFile_absolutePath_iff (plain : tree.isPlain = true) (hroot : ¬tree.HoldsFile [])
    {place : List String} (hplace : ∀ name ∈ place, isSegment name = true) :
    tree.isFile (absolutePath place) = true ↔ tree.HoldsFile place := by
  rcases List.eq_nil_or_concat' place with rfl | ⟨above, name, rfl⟩
  · simp [isFile_root, hroot]
  · have hcomponents : components (absolutePath (above ++ [name])) = above ++ [name] :=
      components_absolutePath fun other hmem => .of_isSegment (hplace other hmem)
    have hentry : tree.entry? (absolutePath (above ++ [name])) = tree.at? (above ++ [name]) := by
      have hfound := entry?_of_isPlain plain (isAbsolute_absolutePath (above ++ [name]))
        (by rwa [hcomponents]) (namesFolder_absolutePath hplace)
      rwa [hcomponents] at hfound
    rw [isFile, hentry, HoldsFile]
    rcases tree.at? (above ++ [name]) with _ | (_ | _ | _) <;> simp

end GapAudit.FileTree
