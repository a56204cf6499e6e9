import Mathlib.Data.List.Basic
import Mathlib.Data.List.Nodup
import GapAudit.Proofs.FileTree.Named
import GapAudit.Walk

/-!
# Walks find no file twice

In a tree whose folders have entries with names of their own, a walk comes upon every path once: no
two paths that it gives have the same components (`Walk.collect_nodup`), also where links make it
pass through a folder several times.
-/

namespace GapAudit

namespace FileTree

/-- The components of a path that leads somewhere are names of entries and points. -/
lemma component_of_walkTo {tree : FileTree} (h : tree.isWellNamed = true)
    {follow : List String → String → Except AccessError (List String)}
    {place place' components : List String}
    (hwalk : tree.walkTo follow place components = .ok place') :
    ∀ name ∈ components, name = "." ∨ name = ".." ∨ Path.isEntryName name = true := by
  induction components generalizing place with
  | nil => simp
  | cons name rest ih =>
    rw [walkTo] at hwalk
    split at hwalk
    · next entries hentries =>
      have hhead : (name = "." ∨ name = ".." ∨ Path.isEntryName name = true) ∧
          ∃ place, tree.walkTo follow place rest = .ok place' := by
        split at hwalk
        · next hpoint => exact ⟨Or.inl (beq_iff_eq.mp hpoint), _, hwalk⟩
        · split at hwalk
          · next hpoints => exact ⟨Or.inr (Or.inl (beq_iff_eq.mp hpoints)), _, hwalk⟩
          · have hnamed : ∀ entry, entries.lookup name = some entry →
                Path.isEntryName name = true := fun entry hlookup =>
              (isNamedBy_of_lookup ((isNamedBy_of_at? h hentries).2) hlookup).1
            split at hwalk
            · cases hwalk
            · next target hlookup =>
              split at hwalk
              · exact ⟨Or.inr (Or.inr (hnamed _ hlookup)), _, hwalk⟩
              · cases hwalk
            · next entry _ hlookup => exact ⟨Or.inr (Or.inr (hnamed _ hlookup)), _, hwalk⟩
      obtain ⟨hname, place, hrest⟩ := hhead
      intro other hmem
      rcases List.mem_cons.mp hmem with rfl | hmem
      · exact hname
      · exact ih hrest other hmem
    · cases hwalk

/-- A path that leads somewhere in a well-named tree has no backslash in a component. -/
lemma isClean_of_resolve {tree : FileTree} {path : String} {place : List String}
    (h : tree.isWellNamed = true) (habsolute : Path.isAbsolute path = true)
    (hresolve : tree.resolve path = .ok place) : Path.IsClean path := by
  have hwalk : ∃ follow place', tree.walkTo follow [] (Path.components path) = .ok place' := by
    rw [resolve, linkLimit, resolveWith, walkPath, habsolute] at hresolve
    split at hresolve
    · next place' hwalk => exact ⟨_, place', hwalk⟩
    · cases hresolve
  obtain ⟨follow, place', hwalk⟩ := hwalk
  refine ⟨habsolute, fun name hmem => ?_⟩
  rcases component_of_walkTo h hwalk name hmem with rfl | rfl | hname
  · decide
  · decide
  · exact (Path.not_mem_of_isEntryName hname).2

end FileTree

namespace Walk

open FileTree GapAudit.Path

/-- Paths below one of several names of a folder, no two with the same components. -/
structure Apart (base : List String) (names : List String) (paths : List String) : Prop where
  clean : ∀ path ∈ paths, IsClean path
  below : ∀ path ∈ paths, ∃ name ∈ names, base ++ [name] <+: Path.components path
  nodup : (paths.map Path.components).Nodup

namespace Apart

variable {base names names' paths paths' : List String}

lemma nil : Apart base names [] :=
  ⟨by simp, by simp, by simp⟩

/-- Paths below different names of a folder have different components. -/
lemma append (h : Apart base names paths) (h' : Apart base names' paths')
    (hnames : names.Disjoint names') : Apart base (names ++ names') (paths ++ paths') where
  clean := by
    intro path hmem
    exact (List.mem_append.mp hmem).elim (h.clean path) (h'.clean path)
  below := by
    intro path hmem
    rcases List.mem_append.mp hmem with hmem | hmem
    · obtain ⟨name, hname, hbelow⟩ := h.below path hmem
      exact ⟨name, List.mem_append_left _ hname, hbelow⟩
    · obtain ⟨name, hname, hbelow⟩ := h'.below path hmem
      exact ⟨name, List.mem_append_right _ hname, hbelow⟩
  nodup := by
    rw [List.map_append]
    refine h.nodup.append h'.nodup ?_
    intro place hplace hplace'
    obtain ⟨path, hmem, rfl⟩ := List.mem_map.mp hplace
    obtain ⟨path', hmem', heq⟩ := List.mem_map.mp hplace'
    obtain ⟨name, hname, hbelow⟩ := h.below path hmem
    obtain ⟨name', hname', hbelow'⟩ := h'.below path' hmem'
    rw [heq] at hbelow'
    obtain rfl := eq_of_concat_prefix hbelow hbelow'
    exact hnames hname hname'

end Apart

/-- What a way of following links must do for a walk to find no file twice. -/
def EntersApart (enter : Position → String → List String) : Prop :=
  ∀ here name, IsClean here.path → isEntryName name = true →
    Apart (Path.components here.path) [name] (enter here name)

lemma apart_singleton {here : Position} {name : String} (hhere : IsClean here.path)
    (hname : isEntryName name = true) (takes : Bool) :
    Apart (Path.components here.path) [name] (if takes then [join here.path name] else []) := by
  cases takes with
  | false => exact .nil
  | true =>
    refine ⟨?_, ?_, by simp⟩
    · intro path hmem
      rw [List.mem_singleton.mp hmem]
      exact hhere.join hname
    · intro path hmem
      rw [List.mem_singleton.mp hmem,
        components_join hhere.absolute (isSegment_of_isEntryName hname)]
      exact ⟨name, List.mem_singleton_self name, List.prefix_rfl⟩

/-- The paths below a folder are below its name in the folder around it. -/
lemma Apart.inside {here : Position} {name : String} {names paths : List String}
    (hhere : IsClean here.path) (hname : isEntryName name = true)
    (h : Apart (Path.components (join here.path name)) names paths) :
    Apart (Path.components here.path) [name] paths where
  clean := h.clean
  nodup := h.nodup
  below := by
    intro path hmem
    obtain ⟨inner, -, hbelow⟩ := h.below path hmem
    rw [components_join hhere.absolute (isSegment_of_isEntryName hname)] at hbelow
    exact ⟨name, List.mem_singleton_self name, (List.prefix_append _ _).trans hbelow⟩

mutual

lemma inFolder_apart (w : Walk) {enter : Position → String → List String}
    (henter : EntersApart enter) (here : Position) (hhere : IsClean here.path) :
    (entries : List (String × FileTree)) → areNamedBy isEntryName true entries = true →
      Apart (Path.components here.path) (entries.map (·.1)) (w.inFolder enter here entries)
  | [], _ => .nil
  | (name, entry) :: rest, h => by
    obtain ⟨hname, hnew, hentry, hrest⟩ := areNamedBy_cons h
    have hfirst := inEntry_apart w henter here hhere hname entry hentry
    have hmore := inFolder_apart w henter here hhere rest hrest
    exact hfirst.append hmore (by simpa using hnew)

lemma inEntry_apart (w : Walk) {enter : Position → String → List String}
    (henter : EntersApart enter) (here : Position) (hhere : IsClean here.path) {name : String}
    (hname : isEntryName name = true) :
    (entry : FileTree) → entry.isWellNamed = true →
      Apart (Path.components here.path) [name] (w.inEntry enter here name entry)
  | .file content, _ => by
    rw [inEntry]
    exact apart_singleton hhere hname _
  | .link target, _ => by
    rw [inEntry]
    exact henter here name hhere hname
  | .folder entries, h => by
    rw [inEntry]
    split
    · exact .nil
    · have hinside := inFolder_apart w henter
        ⟨join here.path name, here.place ++ [name], (here.place ++ [name]) :: here.around⟩
        (hhere.join hname) entries h
      exact hinside.inside hhere hname

end

lemma throughLink_apart (w : Walk) {tree : FileTree} (h : tree.isWellNamed = true) (links : Nat) :
    EntersApart (w.throughLink tree links) := by
  induction links with
  | zero => exact fun here name _ _ => .nil
  | succ links ih =>
    intro here name hhere hname
    rw [throughLink]
    rcases tree.resolveWith linkLimit here.place name with e | place
    · exact .nil
    · rcases hplace : tree.at? place with _ | (content | entries | target)
      · simpa only [hplace] using .nil
      · simp only [hplace]
        exact apart_singleton hhere hname _
      · simp only [hplace]
        split
        · exact .nil
        · have hentries : areNamedBy isEntryName true entries = true :=
            (isNamedBy_of_at? h hplace).2
          have hinside := inFolder_apart w ih ⟨join here.path name, place, place :: here.around⟩
            (hhere.join hname) entries hentries
          exact hinside.inside hhere hname
      · simpa only [hplace] using .nil

/-- A walk below an absolute root finds clean paths, no two with the same components. -/
theorem collect_nodup (w : Walk) {tree : FileTree} (h : tree.isWellNamed = true) {root : String}
    (hroot : isAbsolute root = true) :
    (∀ path ∈ w.collect tree root, IsClean path) ∧
      ((w.collect tree root).map Path.components).Nodup := by
  rw [collect]
  rcases hresolve : tree.resolve root with e | place
  · simp
  · rcases hplace : tree.at? place with _ | (content | entries | target)
    · simp [hplace]
    · simp [hplace]
    · have hentries : areNamedBy isEntryName true entries = true := (isNamedBy_of_at? h hplace).2
      have hinside := inFolder_apart w (throughLink_apart w h tree.size) ⟨root, place, [place]⟩
        (isClean_of_resolve h hroot hresolve) entries hentries
      have hperm := List.mergeSort_perm
        (w.inFolder (w.throughLink tree tree.size) ⟨root, place, [place]⟩ entries)
        fun a b => !isBefore b a
      simp only [hplace]
      refine ⟨fun path hmem => hinside.clean path (hperm.mem_iff.mp hmem), ?_⟩
      exact ((hperm.map Path.components).nodup_iff).mpr hinside.nodup
    · simp [hplace]

end Walk

end GapAudit
