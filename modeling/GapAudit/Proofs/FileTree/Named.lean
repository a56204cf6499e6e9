import Mathlib.Data.List.Basic
import GapAudit.FileTree
import GapAudit.Proofs.Path.Components

/-!
# Trees whose entries have names of their own

No two entries of a folder have the same name, and every name is one that an entry can have
(`isNamedBy`). Trees without links are plain (`isPlain`); where links may stand there are two kinds
of trees, one in which a name may hold any character of a file name (`isNamed`) and one in which it
has no backslash (`isWellNamed`).
-/

namespace GapAudit.FileTree

mutual

/-- Whether the entries of every folder of a tree have names that are allowed, no two of them the
same, and whether links stand only where they are admitted. -/
def isNamedBy (allowed : String → Bool) (links : Bool) : FileTree → Bool
  | .file _ => true
  | .link _ => links
  | .folder entries => areNamedBy allowed links entries

/-- Whether several entries have names that are allowed, no two of them the same, and so have those
inside. -/
def areNamedBy (allowed : String → Bool) (links : Bool) : List (String × FileTree) → Bool
  | [] => true
  | (name, entry) :: rest =>
    allowed name && !(rest.map (·.1)).contains name && isNamedBy allowed links entry &&
      areNamedBy allowed links rest

end

/-- Whether a tree has no links, and the entries of its folders have names of their own. -/
abbrev isPlain (tree : FileTree) : Bool :=
  tree.isNamedBy Path.isSegment false

/-- Whether the entries of every folder of a tree have names of their own. There may be links. -/
abbrev isNamed (tree : FileTree) : Bool :=
  tree.isNamedBy Path.isSegment true

/-- Whether the entries of every folder of a tree have names of their own without backslashes. There
may be links. -/
abbrev isWellNamed (tree : FileTree) : Bool :=
  tree.isNamedBy Path.isEntryName true

variable {allowed : String → Bool} {links : Bool} {tree entry : FileTree} {name : String}
  {entries rest : List (String × FileTree)}

lemma areNamedBy_cons (h : areNamedBy allowed links ((name, entry) :: rest) = true) :
    allowed name = true ∧ name ∉ rest.map (·.1) ∧ entry.isNamedBy allowed links = true ∧
      areNamedBy allowed links rest = true := by
  rw [areNamedBy] at h
  simp only [Bool.and_eq_true, Bool.not_eq_true', List.contains_eq_mem,
    decide_eq_false_iff_not] at h
  exact ⟨h.1.1.1, h.1.1.2, h.1.2, h.2⟩

lemma isNamedBy_of_lookup (h : areNamedBy allowed links entries = true)
    (hlookup : entries.lookup name = some entry) :
    allowed name = true ∧ entry.isNamedBy allowed links = true := by
  apply of_lookup (P := (areNamedBy allowed links · = true)) ?_ h hlookup
  intro key inside rest hentries
  obtain ⟨hkey, -, hinside, hrest⟩ := areNamedBy_cons hentries
  exact ⟨⟨hkey, hinside⟩, hrest⟩

/-- What stands at a place has entries with names of their own, and the place consists of such
names. -/
lemma isNamedBy_of_at? {place : List String} (h : tree.isNamedBy allowed links = true)
    (hplace : tree.at? place = some entry) :
    (∀ name ∈ place, allowed name = true) ∧ entry.isNamedBy allowed links = true := by
  induction place generalizing tree with
  | nil =>
    rw [at?] at hplace
    exact ⟨by simp, Option.some.inj hplace ▸ h⟩
  | cons name rest ih =>
    obtain ⟨entries, child, rfl, hchild, hrest⟩ := at?_cons_eq_some_iff.mp hplace
    obtain ⟨hname, hinside⟩ := isNamedBy_of_lookup h hchild
    obtain ⟨hnames, hentry⟩ := ih hinside hrest
    exact ⟨List.forall_mem_cons.mpr ⟨hname, hnames⟩, hentry⟩

lemma lookup_of_mem (h : areNamedBy allowed links entries = true) {entry : String × FileTree}
    (hmem : entry ∈ entries) : entries.lookup entry.1 = some entry.2 := by
  induction entries with
  | nil => cases hmem
  | cons head rest ih =>
    obtain ⟨-, hnew, -, hrest⟩ := areNamedBy_cons h
    rw [List.lookup_cons]
    rcases List.mem_cons.mp hmem with rfl | hmem
    · rw [beq_self_eq_true]
    · have hne : (entry.1 == head.1) = false :=
        beq_false_of_ne fun heq => hnew (heq ▸ List.mem_map_of_mem hmem)
      rw [hne]
      exact ih hrest hmem

end GapAudit.FileTree
