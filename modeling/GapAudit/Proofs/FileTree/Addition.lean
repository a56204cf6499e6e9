import Mathlib
import GapAudit.Proofs.FileTree.Change
import GapAudit.Proofs.FileTree.Growth

/-!
# Files added below a place

When files are put below a place where nothing stands, the tree becomes part of a larger one
(`isPartOf_of_addsFiles`), and what stands at places apart from it stays as it is
(`at?_of_addsFiles`). In a tree without links, a walk over a folder apart from the place finds the
same files as before, as long as the folder was there before (`Walk.collect_of_addsFiles`).
-/

namespace GapAudit

open GapAudit.Path

namespace FileTree

variable {tree more entry : FileTree} {place other : List String}

/-- Whether none of two places is the other one or above it. -/
def AreApart (place other : List String) : Prop :=
  ¬place <+: other ∧ ¬other <+: place

instance (place other : List String) : Decidable (AreApart place other) :=
  inferInstanceAs (Decidable (_ ∧ _))

/-- Whether a tree becomes another one when a file is put at a place or below it, where nothing
stands. -/
inductive AddsFile (place : List String) (tree : FileTree) : FileTree → Prop
  | put (below : List String) (content : ByteArray) (hroom : tree.HasRoomAt (place ++ below)) :
    AddsFile place tree (tree.put (.file content) (place ++ below))

/-- Whether a tree becomes another one when files are put at a place or below it, one after the
other. -/
abbrev AddsFiles (place : List String) : FileTree → FileTree → Prop :=
  Relation.ReflTransGen (AddsFile place)

lemma isPartOf_of_addsFiles (h : AddsFiles place tree more) : tree.IsPartOf more := by
  induction h with
  | refl => exact .refl tree
  | tail _ hstep ih =>
    cases hstep with
    | put below content hroom => exact IsPartOf.trans tree ih (isPartOf_put _ hroom)

lemma child?_put (tree entry : FileTree) (name key : String) (rest : List String) :
    (tree.put entry (name :: rest)).child? key =
      if key = name then some (((tree.child? name).getD empty).put entry rest)
      else tree.child? key := by
  cases tree with
  | folder entries => rw [put, child?, lookup_changeEntry, child?, child?]
  | file content | link target =>
    by_cases hkey : key = name
    · simp [put, child?, changeEntry, hkey]
    · simp [put, child?, changeEntry, hkey, List.lookup_cons, beq_false_of_ne hkey]

/-- What is put at a place leaves alone what stands apart from it. -/
lemma at?_put_of_areApart (h : AreApart place other) :
    (tree.put entry place).at? other = tree.at? other := by
  induction place generalizing tree other with
  | nil => exact absurd List.nil_prefix h.1
  | cons name rest ih =>
    cases other with
    | nil => exact absurd List.nil_prefix h.2
    | cons key below =>
      rw [at?, at?, child?_put]
      by_cases hkey : key = name
      · subst hkey
        have hbelow : AreApart rest below := by
          simpa only [AreApart, List.cons_prefix_cons, true_and] using h
        rw [if_pos rfl, Option.bind_some, ih hbelow]
        cases tree.child? key with
        | some child => rfl
        | none =>
          -- Apart from the place there is a further name, under which a new folder has nothing.
          cases below with
          | nil => exact absurd List.nil_prefix hbelow.2
          | cons next below => rfl
      · rw [if_neg hkey]

lemma at?_of_addsFiles (hadded : AddsFiles place tree more) (h : AreApart place other) :
    more.at? other = tree.at? other := by
  induction hadded with
  | refl => rfl
  | tail _ hstep ih =>
    cases hstep with
    | put below content hroom =>
      have hbelow : AreApart (place ++ below) other := by
        have hplace : place <+: place ++ below := List.prefix_append place below
        refine ⟨fun hprefix => h.1 (hplace.trans hprefix), fun hprefix => ?_⟩
        rcases List.prefix_or_prefix_of_prefix hprefix hplace with hle | hle
        · exact h.2 hle
        · exact h.1 hle
      rw [at?_put_of_areApart hbelow, ih]

end FileTree

namespace Walk

open FileTree

/-- A walk over a folder apart from the place where files are added finds the same files. -/
theorem collect_of_addsFiles (w : Walk) {tree more : FileTree} {place : List String} {root : String}
    (plain : tree.isPlain = true) (absolute : isAbsolute root = true)
    (hadded : AddsFiles place tree more) (h : AreApart place (destination [] root))
    (hroot : more.isFolder root = true → tree.isFolder root = true) :
    w.collect more root = w.collect tree root := by
  cases hfolder : tree.isFolder root with
  | false =>
    have hmore : more.isFolder root = false := by
      rw [Bool.eq_false_iff]
      intro hthere
      rw [hroot hthere] at hfolder
      cases hfolder
    rw [w.collect_of_not_isFolder hfolder, w.collect_of_not_isFolder hmore]
  | true =>
    obtain ⟨found, entries, hresolve, hfound⟩ := (isFolder_eq_true_iff tree root).mp hfolder
    have hplace : found = destination [] root := by
      rw [walkTo_eq_ok (hasNoLinks_of_isPlain plain) (walkTo_of_resolve absolute hresolve),
        destination, ite_self]
    have hmore : more.resolve root = .ok found :=
      resolve_of_isPartOf (isPartOf_of_addsFiles hadded) hresolve
    have hsame : more.at? found = some (.folder entries) := by
      rw [at?_of_addsFiles hadded (hplace ▸ h), hfound]
    have hentries : areNamedBy isSegment false entries = true := (isNamedBy_of_at? plain hfound).2
    rw [w.collect_of_resolve hresolve hfound, w.collect_of_resolve hmore hsame,
      inFolder_eq w _ _ entries hentries, inFolder_eq w _ _ entries hentries]

end Walk

end GapAudit
