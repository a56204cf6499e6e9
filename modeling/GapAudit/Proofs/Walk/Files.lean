import Mathlib
import GapAudit.Proofs.Path.Order
import GapAudit.Proofs.Walk.Exact

/-!
# What walks find where links are followed

In a tree whose folders have entries with names of their own, links included, every path that a walk
finds leads to a file, and no two of them have the same components (`Walk.finds_collect`). So a walk
gives its files in strictly increasing order (`Walk.pairwise_collect`), and walks that find the same
files give the same list (`Path.eq_of_mem_iff`).
-/

namespace GapAudit

namespace FileTree

open GapAudit.Path

lemma at?_concat {tree entry : FileTree} {place : List String} {name : String}
    {entries : List (String × FileTree)} (hplace : tree.at? place = some (.folder entries))
    (hlookup : entries.lookup name = some entry) : tree.at? (place ++ [name]) = some entry := by
  rw [at?_append, hplace, Option.bind_some, at?, child?, hlookup]
  rfl

/-- How links are followed on the way of a path: one link may be nested less than in all. -/
abbrev follow (tree : FileTree) : List String → String → Except AccessError (List String) :=
  tree.resolveWith (linkLimit - 1)

variable {tree : FileTree}

lemma walkTo_append (follow : List String → String → Except AccessError (List String))
    (place names more : List String) :
    tree.walkTo follow place (names ++ more) =
      (tree.walkTo follow place names).bind fun reached => tree.walkTo follow reached more := by
  induction names generalizing place with
  | nil => rfl
  | cons name rest ih =>
    rw [List.cons_append, walkTo, walkTo]
    split
    · simp only [ih]
      split_ifs
      · rfl
      · rfl
      · split
        · rfl
        · split <;> rfl
        · rfl
    · rfl

lemma walkTo_singleton {follow : List String → String → Except AccessError (List String)}
    {place : List String} {name : String} {entry : FileTree} {entries : List (String × FileTree)}
    (hname : isSegment name = true) (hplace : tree.at? place = some (.folder entries))
    (hlookup : entries.lookup name = some entry) (hentry : ∀ target, entry ≠ .link target) :
    tree.walkTo follow place [name] = .ok (place ++ [name]) := by
  obtain ⟨hpoint, hpoints⟩ := ne_points_of_isSegment hname
  rw [walkTo, hplace]
  simp only [beq_iff_eq, hpoint, hpoints, if_false, hlookup]
  cases entry with
  | link target => exact absurd rfl (hentry target)
  | file content => rfl
  | folder inside => rfl

lemma namesFolder_of_isSegment {name : String} (hname : isSegment name = true) :
    namesFolder name = false := by
  rw [namesFolder, Text.splitAt_of_not_mem (not_mem_of_isSegment hname)]
  rfl

lemma namesFolder_join {base name : String} (hbase : isAbsolute base = true)
    (hname : isSegment name = true) : namesFolder (join base name) = false := by
  have hpieces : ∃ front, Text.splitAt '/' (join base name).toList = front ++ [name.toList] := by
    rw [join_of_relative hbase (not_isAbsolute_of_isSegment hname)]
    split
    · next hslash =>
      obtain ⟨front, hfront⟩ := List.getLast?_eq_some_iff.mp (by simpa using hslash)
      refine ⟨Text.splitAt '/' front, ?_⟩
      rw [String.toList_append, hfront, List.append_assoc, List.singleton_append,
        Text.splitAt_append, Text.splitAt_of_not_mem (not_mem_of_isSegment hname)]
    · refine ⟨Text.splitAt '/' base.toList, ?_⟩
      have htext : (base ++ "/" ++ name).toList = base.toList ++ '/' :: name.toList := by simp
      rw [htext, Text.splitAt_append, Text.splitAt_of_not_mem (not_mem_of_isSegment hname)]
  obtain ⟨front, hfront⟩ := hpieces
  obtain ⟨hempty, hpoint⟩ := (counts_iff _).mp (counts_of_isSegment hname)
  rw [namesFolder, hfront]
  simp [hempty, hpoint]

lemma components_of_isSegment {name : String} (hname : isSegment name = true) :
    components name = [name] := by
  obtain ⟨hempty, -⟩ := (counts_iff _).mp (counts_of_isSegment hname)
  rw [components, parts, not_isAbsolute_of_isSegment hname,
    Text.splitAt_of_not_mem (not_mem_of_isSegment hname), partsOf]
  simp [hempty, partsOf]

lemma resolveWith_linkLimit (place : List String) (path : String) :
    tree.resolveWith linkLimit place path = tree.walkPath tree.follow place path := rfl

lemma resolveWith_of_isSegment {name : String} (hname : isSegment name = true)
    (place : List String) :
    tree.resolveWith linkLimit place name = tree.walkTo tree.follow place [name] := by
  rw [resolveWith_linkLimit, walkPath, not_isAbsolute_of_isSegment hname,
    if_neg Bool.false_ne_true, components_of_isSegment hname, namesFolder_of_isSegment hname]
  cases tree.walkTo tree.follow place [name] <;> rfl

lemma resolve_join {base name : String} {place : List String} (hbase : isAbsolute base = true)
    (hname : isSegment name = true)
    (h : tree.walkTo tree.follow [] (components (join base name)) = .ok place) :
    tree.resolve (join base name) = .ok place := by
  rw [resolve, resolveWith_linkLimit, walkPath, isAbsolute_join hbase, if_pos rfl, h,
    namesFolder_join hbase hname]
  rfl

lemma isFile_of_resolve {path : String} {place : List String} {content : ByteArray}
    (h : tree.resolve path = .ok place) (hplace : tree.at? place = some (.file content)) :
    tree.isFile path = true := by
  have hentry : tree.entry? path = some (.file content) := by
    unfold entry?
    rw [h]
    exact hplace
  rw [isFile, hentry]

lemma walkTo_of_resolve {path : String} {place : List String} (hpath : isAbsolute path = true)
    (h : tree.resolve path = .ok place) :
    tree.walkTo tree.follow [] (components path) = .ok place := by
  rw [resolve, resolveWith_linkLimit, walkPath, hpath, if_pos rfl] at h
  split at h
  · next reached hreached =>
    split at h
    · cases h
    · rw [hreached, h]
  · cases h

/-- The path of an entry of a folder leads from the place of the folder to where its name leads. -/
lemma walkTo_components_join {base name : String} {place : List String}
    (hbase : isAbsolute base = true) (hname : isSegment name = true)
    (h : tree.walkTo tree.follow [] (components base) = .ok place) :
    tree.walkTo tree.follow [] (components (join base name)) =
      tree.walkTo tree.follow place [name] := by
  rw [components_join hbase hname, walkTo_append, h]
  rfl

end FileTree

namespace Walk

open FileTree GapAudit.Path

/-- Paths below one of several names of a folder that lead to files, no two of them with the same
components. -/
structure Finds (tree : FileTree) (base names paths : List String) : Prop where
  files : ∀ path ∈ paths, isAbsolute path = true ∧ tree.isFile path = true
  below : ∀ path ∈ paths, ∃ name ∈ names, base ++ [name] <+: Path.components path
  nodup : (paths.map Path.components).Nodup

namespace Finds

variable {tree : FileTree} {base names others paths more : List String}

lemma nil : Finds tree base names [] :=
  ⟨by simp, by simp, by simp⟩

/-- Paths below different names of a folder have different components. -/
lemma append (h : Finds tree base names paths) (hmore : Finds tree base others more)
    (hnames : names.Disjoint others) : Finds tree base (names ++ others) (paths ++ more) where
  files := by
    intro path hpath
    exact (List.mem_append.mp hpath).elim (h.files path) (hmore.files path)
  below := by
    intro path hpath
    rcases List.mem_append.mp hpath with hpath | hpath
    · obtain ⟨name, hname, hbelow⟩ := h.below path hpath
      exact ⟨name, List.mem_append_left _ hname, hbelow⟩
    · obtain ⟨name, hname, hbelow⟩ := hmore.below path hpath
      exact ⟨name, List.mem_append_right _ hname, hbelow⟩
  nodup := by
    rw [List.map_append]
    refine h.nodup.append hmore.nodup ?_
    intro place hplace hother
    obtain ⟨path, hpath, rfl⟩ := List.mem_map.mp hplace
    obtain ⟨other, hmem, heq⟩ := List.mem_map.mp hother
    obtain ⟨name, hname, hbelow⟩ := h.below path hpath
    obtain ⟨name', hname', hbelow'⟩ := hmore.below other hmem
    rw [heq] at hbelow'
    obtain rfl := eq_of_concat_prefix hbelow hbelow'
    exact hnames hname hname'

lemma singleton {base name : String} {place : List String} {content : ByteArray}
    (hbase : isAbsolute base = true) (hname : isSegment name = true)
    (hway : tree.walkTo tree.follow [] (Path.components (join base name)) = .ok place)
    (hplace : tree.at? place = some (.file content)) (takes : Bool) :
    Finds tree (Path.components base) [name] (if takes then [join base name] else []) := by
  cases takes with
  | false => exact .nil
  | true =>
    refine ⟨?_, ?_, by simp⟩
    · intro path hpath
      rw [List.mem_singleton.mp hpath]
      exact ⟨isAbsolute_join hbase name, isFile_of_resolve (resolve_join hbase hname hway) hplace⟩
    · intro path hpath
      rw [List.mem_singleton.mp hpath, components_join hbase hname]
      exact ⟨name, List.mem_singleton_self name, List.prefix_rfl⟩

/-- Paths below a folder are below its name in the folder around it. -/
lemma inside {base name : String} (hbase : isAbsolute base = true) (hname : isSegment name = true)
    (h : Finds tree (Path.components (join base name)) names paths) :
    Finds tree (Path.components base) [name] paths where
  files := h.files
  nodup := h.nodup
  below := by
    intro path hpath
    obtain ⟨inner, -, hbelow⟩ := h.below path hpath
    rw [components_join hbase hname] at hbelow
    exact ⟨name, List.mem_singleton_self name, (List.prefix_append _ _).trans hbelow⟩

end Finds

/-- A position in a tree: its path leads to its place. -/
structure Position.IsIn (here : Position) (tree : FileTree) : Prop where
  absolute : isAbsolute here.path = true
  way : tree.walkTo tree.follow [] (Path.components here.path) = .ok here.place

/-- What a way of following links must do for a walk to find files, and none of them twice. -/
def EntersFiles (tree : FileTree) (enter : Position → String → List String) : Prop :=
  ∀ here : Position, here.IsIn tree → ∀ name, isSegment name = true →
    Finds tree (Path.components here.path) [name] (enter here name)

variable {tree : FileTree}

lemma Position.IsIn.step {here : Position} (hhere : here.IsIn tree) {name : String}
    (hname : isSegment name = true) {place : List String}
    (hway : tree.walkTo tree.follow here.place [name] = .ok place) (around : List (List String)) :
    Position.IsIn ⟨join here.path name, place, around⟩ tree where
  absolute := isAbsolute_join hhere.absolute name
  way := by rw [walkTo_components_join hhere.absolute hname hhere.way, hway]

mutual

lemma finds_inFolder (w : Walk) {enter : Position → String → List String}
    (henter : EntersFiles tree enter) (here : Position) (hhere : here.IsIn tree)
    {all : List (String × FileTree)} (hall : tree.at? here.place = some (.folder all)) :
    (entries : List (String × FileTree)) → areNamedBy isSegment true entries = true →
      (∀ entry ∈ entries, all.lookup entry.1 = some entry.2) →
        Finds tree (Path.components here.path) (entries.map (·.1)) (w.inFolder enter here entries)
  | [], _, _ => .nil
  | (name, entry) :: rest, h, hlookup => by
    obtain ⟨hname, hnew, hentry, hrest⟩ := areNamedBy_cons h
    obtain ⟨hfirst, hmore⟩ := List.forall_mem_cons.mp hlookup
    have hhead := finds_inEntry w henter here hhere hname hall entry hentry hfirst
    have htail := finds_inFolder w henter here hhere hall rest hrest hmore
    exact hhead.append htail (by simpa using hnew)

lemma finds_inEntry (w : Walk) {enter : Position → String → List String}
    (henter : EntersFiles tree enter) (here : Position) (hhere : here.IsIn tree) {name : String}
    (hname : isSegment name = true) {all : List (String × FileTree)}
    (hall : tree.at? here.place = some (.folder all)) :
    (entry : FileTree) → entry.isNamed = true → all.lookup name = some entry →
      Finds tree (Path.components here.path) [name] (w.inEntry enter here name entry)
  | .file content, _, hlookup => by
    have hway : tree.walkTo tree.follow here.place [name] = .ok (here.place ++ [name]) :=
      walkTo_singleton hname hall hlookup (by simp)
    have hfile : tree.at? (here.place ++ [name]) = some (.file content) :=
      at?_concat hall hlookup
    rw [inEntry]
    exact .singleton hhere.absolute hname (hhere.step hname hway here.around).way hfile _
  | .link target, _, _ => by
    rw [inEntry]
    exact henter here hhere name hname
  | .folder entries, h, hlookup => by
    have hway : tree.walkTo tree.follow here.place [name] = .ok (here.place ++ [name]) :=
      walkTo_singleton hname hall hlookup (by simp)
    have hfolder : tree.at? (here.place ++ [name]) = some (.folder entries) :=
      at?_concat hall hlookup
    rw [inEntry]
    split
    · exact .nil
    · have hinside := finds_inFolder w henter _
        (hhere.step hname hway ((here.place ++ [name]) :: here.around)) hfolder entries h
        fun entry hentry => lookup_of_mem h hentry
      exact hinside.inside hhere.absolute hname

end

lemma entersFiles_throughLink (w : Walk) (h : tree.isNamed = true) (links : ℕ) :
    EntersFiles tree (w.throughLink tree links) := by
  induction links with
  | zero => exact fun here _ name _ => .nil
  | succ links ih =>
    intro here hhere name hname
    rw [throughLink, resolveWith_of_isSegment hname]
    rcases hway : tree.walkTo tree.follow here.place [name] with e | place
    · exact .nil
    · rcases hplace : tree.at? place with _ | (content | entries | target)
      · simpa only [hplace] using .nil
      · simp only [hplace]
        exact .singleton hhere.absolute hname (hhere.step hname hway here.around).way hplace _
      · simp only [hplace]
        split
        · exact .nil
        · have hentries : areNamedBy isSegment true entries = true := (isNamedBy_of_at? h hplace).2
          have hinside := finds_inFolder w ih _ (hhere.step hname hway (place :: here.around))
            hplace entries hentries fun entry hentry => lookup_of_mem hentries hentry
          exact hinside.inside hhere.absolute hname
      · simpa only [hplace] using .nil

lemma collect_of_resolve (w : Walk) {root : String} {place : List String}
    {entries : List (String × FileTree)} (hresolve : tree.resolve root = .ok place)
    (hplace : tree.at? place = some (.folder entries)) :
    w.collect tree root =
      sort (w.inFolder (w.throughLink tree tree.size) ⟨root, place, [place]⟩ entries) := by
  rw [collect, hresolve]
  simp only [hplace]

/-- What a walk below an absolute root finds are paths of files with different components, in
order. -/
theorem finds_collect (w : Walk) (h : tree.isNamed = true) {root : String}
    (hroot : isAbsolute root = true) :
    ∃ names paths, w.collect tree root = sort paths ∧
      Finds tree (Path.components root) names paths := by
  rcases hresolve : tree.resolve root with e | place
  · exact ⟨[], [], by simp [collect, hresolve, sort], .nil⟩
  rcases hplace : tree.at? place with _ | (content | entries | target)
  · exact ⟨[], [], by simp [collect, hresolve, hplace, sort], .nil⟩
  · exact ⟨[], [], by simp [collect, hresolve, hplace, sort], .nil⟩
  · have hentries : areNamedBy isSegment true entries = true := (isNamedBy_of_at? h hplace).2
    have hway : tree.walkTo tree.follow [] (Path.components root) = .ok place :=
      walkTo_of_resolve hroot hresolve
    exact ⟨_, _, w.collect_of_resolve hresolve hplace,
      finds_inFolder w (entersFiles_throughLink w h tree.size) ⟨root, place, [place]⟩
        ⟨hroot, hway⟩ hplace entries hentries fun entry hentry => lookup_of_mem hentries hentry⟩
  · exact ⟨[], [], by simp [collect, hresolve, hplace, sort], .nil⟩

/-- What a walk finds are paths of files. -/
theorem isFile_of_mem_collect {w : Walk} (h : tree.isNamed = true) {root path : String}
    (hroot : isAbsolute root = true) (hpath : path ∈ w.collect tree root) :
    tree.isFile path = true := by
  obtain ⟨names, paths, hcollect, hfinds⟩ := w.finds_collect h hroot
  rw [hcollect, sort, List.mem_mergeSort] at hpath
  exact (hfinds.files path hpath).2

lemma pairwise_le_collect (w : Walk) (tree : FileTree) (root : String) :
    (w.collect tree root).Pairwise fun a b => sortKey a ≤ sortKey b := by
  unfold collect
  split
  · exact .nil
  · split
    · exact pairwise_le_sort _
    · exact .nil

/-- A walk gives its files in strictly increasing order. -/
theorem pairwise_collect (w : Walk) (h : tree.isNamed = true) {root : String}
    (hroot : isAbsolute root = true) :
    (w.collect tree root).Pairwise fun a b => sortKey a < sortKey b := by
  obtain ⟨names, paths, hcollect, hfinds⟩ := w.finds_collect h hroot
  have hnodup : (paths.map sortKey).Nodup := by
    refine List.pairwise_map.mpr ((List.pairwise_map.mp hfinds.nodup).imp ?_)
    exact fun hne heq => hne (components_eq_of_sortKey_eq heq)
  rw [hcollect]
  exact pairwise_sort hnodup

end Walk

namespace Project

variable {project : Project}

lemma isFile_of_mem_walk (h : project.tree.isNamed = true)
    (hroot : Path.isAbsolute project.root = true) {folder : String} {w : Walk} {path : String}
    (hpath : path ∈ project.walk folder w) : project.tree.isFile path = true :=
  Walk.isFile_of_mem_collect h (Path.isAbsolute_join hroot folder) (List.mem_of_mem_filter hpath)

lemma pairwise_le_walk (project : Project) (folder : String) (w : Walk) :
    (project.walk folder w).Pairwise fun a b => Path.sortKey a ≤ Path.sortKey b :=
  (w.pairwise_le_collect project.tree _).filter _

lemma pairwise_walk (h : project.tree.isNamed = true)
    (hroot : Path.isAbsolute project.root = true) (folder : String) (w : Walk) :
    (project.walk folder w).Pairwise fun a b => Path.sortKey a < Path.sortKey b :=
  (w.pairwise_collect h (Path.isAbsolute_join hroot folder)).filter _

end Project

namespace Path

/-- Paths in strictly increasing order are determined by which paths they are. -/
lemma eq_of_mem_iff {paths others : List String}
    (hpaths : paths.Pairwise fun a b => sortKey a < sortKey b)
    (hothers : others.Pairwise fun a b => sortKey a < sortKey b)
    (h : ∀ path, path ∈ paths ↔ path ∈ others) : paths = others := by
  have hirrefl : Std.Irrefl fun a b : String => sortKey a < sortKey b := ⟨fun a => lt_irrefl _⟩
  have hantisymm : Std.Antisymm fun a b : String => sortKey a < sortKey b :=
    ⟨fun a b hab hba => absurd hab hba.asymm⟩
  exact hpaths.eq_of_mem_iff hothers h

end Path

end GapAudit
