import Mathlib
import GapAudit.Proofs.FileTree.Named
import GapAudit.Proofs.Path.Order
import GapAudit.Proofs.Text.Word
import GapAudit.Project

/-!
# Walks find exactly the files they should

In a tree without links a walk goes down from its root through all folders that it does not pass
over. The names that lead to the files on its way are listed in `reached`: they are the places of
files (`mem_reached_iff`), each of them once (`nodup_reached`). The main statement is that a walk
finds exactly the files that it should take, in increasing order (`collect_finds`). A file without
an extension counts as one with the empty extension (`bare_file_found`).
-/

namespace GapAudit

namespace FileTree

lemma at?_append (tree : FileTree) (place below : List String) :
    tree.at? (place ++ below) = (tree.at? place).bind fun entry => entry.at? below := by
  induction place generalizing tree with
  | nil => rfl
  | cons name rest ih =>
    rw [List.cons_append, at?, at?]
    cases tree.child? name with
    | none => rfl
    | some entry => exact ih entry

lemma at?_folder_cons (key name : String) (entry : FileTree) (rest : List (String × FileTree))
    (below : List String) :
    (folder ((key, entry) :: rest)).at? (name :: below) =
      if name = key then entry.at? below else (folder rest).at? (name :: below) := by
  rw [at?, at?, child?, child?, List.lookup_cons]
  by_cases h : name = key
  · simp [h]
  · have hbeq : (name == key) = false := beq_eq_false_iff_ne.mpr h
    rw [hbeq, if_neg h]

end FileTree

namespace Walk

open FileTree

mutual

/-- The names that lead from a folder with the given entries to the files below it, through folders
that a walk does not pass over. -/
def reached (w : Walk) : List (String × FileTree) → List (List String)
  | [] => []
  | (name, entry) :: rest => reachedAt w name entry ++ reached w rest

/-- The names that lead through an entry of a folder. -/
def reachedAt (w : Walk) (name : String) : FileTree → List (List String)
  | .file _ => [[name]]
  | .link _ => []
  | .folder entries => if w.skipsFolder name then [] else (reached w entries).map (name :: ·)

end

mutual

/-- A walk over a plain folder takes what it should of the files it reaches. -/
lemma inFolder_eq (w : Walk) (enter : Position → String → List String) (here : Position) :
    (entries : List (String × FileTree)) → areNamedBy Path.isSegment false entries = true →
      w.inFolder enter here entries =
        ((w.reached entries).map fun names => names.foldl Path.join here.path).filter w.takesFile
  | [], _ => rfl
  | (name, entry) :: rest, h => by
    obtain ⟨-, -, hentry, hrest⟩ := areNamedBy_cons h
    rw [inFolder, reached, List.map_append, List.filter_append,
      inEntry_eq w enter here name entry hentry, inFolder_eq w enter here rest hrest]

lemma inEntry_eq (w : Walk) (enter : Position → String → List String) (here : Position)
    (name : String) :
    (entry : FileTree) → entry.isPlain = true →
      w.inEntry enter here name entry =
        ((w.reachedAt name entry).map fun names =>
          names.foldl Path.join here.path).filter w.takesFile
  | .file _, _ => by
    rw [inEntry, reachedAt, List.map_singleton, List.filter_cons]
    rfl
  | .folder entries, h => by
    rw [inEntry, reachedAt]
    split
    · rfl
    · have hinside := inFolder_eq w enter
        ⟨Path.join here.path name, here.place ++ [name], (here.place ++ [name]) :: here.around⟩
        entries h
      rw [hinside, List.map_map]
      rfl

end

mutual

/-- The names that a walk reaches are the places of files, all folders on the way to which are not
passed over. -/
lemma mem_reached_iff (w : Walk) (names : List String) :
    (entries : List (String × FileTree)) → areNamedBy Path.isSegment false entries = true →
      (names ∈ w.reached entries ↔ (∃ content, (folder entries).at? names = some (.file content)) ∧
        ∀ folder ∈ names.dropLast, w.skipsFolder folder = false)
  | [], _ => by
    cases names <;> simp [reached, at?, child?]
  | (key, entry) :: rest, h => by
    obtain ⟨-, hnew, hentry, hrest⟩ := areNamedBy_cons h
    rw [reached, List.mem_append, mem_reachedAt_iff w names key entry hentry,
      mem_reached_iff w names rest hrest]
    cases names with
    | nil => simp [at?]
    | cons name below =>
      rw [at?_folder_cons]
      by_cases hname : name = key
      · -- The entry under the name comes first, and no other has this name.
        subst hname
        have hnone : (folder rest).at? (name :: below) = none := by
          rw [at?, child?, List.lookup_eq_none_iff.mpr, Option.bind_none]
          intro other hmem
          have hother : other.1 ∈ rest.map (·.1) := List.mem_map_of_mem hmem
          exact bne_iff_ne.mpr fun heq => hnew (heq ▸ hother)
        simp [hnone]
      · simp [hname]

lemma mem_reachedAt_iff (w : Walk) (names : List String) (name : String) :
    (entry : FileTree) → entry.isPlain = true →
      (names ∈ w.reachedAt name entry ↔ ∃ below, names = name :: below ∧
        (∃ content, entry.at? below = some (.file content)) ∧
        ∀ folder ∈ names.dropLast, w.skipsFolder folder = false)
  | .file content, _ => by
    rw [reachedAt, List.mem_singleton]
    constructor
    · rintro rfl
      exact ⟨[], rfl, ⟨content, rfl⟩, by simp⟩
    · rintro ⟨below, rfl, ⟨content', hbelow⟩, -⟩
      cases below with
      | nil => rfl
      | cons next more => cases hbelow
  | .folder entries, h => by
    rw [reachedAt]
    constructor
    · intro hmem
      split at hmem
      · cases hmem
      · next hskip =>
        obtain ⟨below, hbelow, rfl⟩ := List.mem_map.mp hmem
        obtain ⟨hfile, hfolders⟩ := (mem_reached_iff w below entries h).mp hbelow
        refine ⟨below, rfl, hfile, fun folder hfolder => ?_⟩
        cases below with
        | nil => simp at hfolder
        | cons next more =>
          rcases List.mem_cons.mp hfolder with rfl | hfolder
          · exact Bool.eq_false_iff.mpr hskip
          · exact hfolders folder hfolder
    · rintro ⟨below, rfl, hfile, hfolders⟩
      -- A folder is no file, so that its name is one of a folder on the way.
      obtain ⟨next, more, rfl⟩ : ∃ next more, below = next :: more := by
        cases below with
        | nil =>
          obtain ⟨content, hcontent⟩ := hfile
          cases hcontent
        | cons next more => exact ⟨next, more, rfl⟩
      have hskip : w.skipsFolder name = false := hfolders name List.mem_cons_self
      rw [hskip, if_neg Bool.false_ne_true]
      refine List.mem_map_of_mem ((mem_reached_iff w _ entries h).mpr ⟨hfile, ?_⟩)
      exact fun folder hfolder => hfolders folder (List.mem_cons_of_mem name hfolder)

end

lemma isSegment_of_mem_reached {w : Walk} {entries : List (String × FileTree)}
    (h : areNamedBy Path.isSegment false entries = true) {names : List String}
    (hmem : names ∈ w.reached entries) :
    ∀ name ∈ names, Path.isSegment name = true := by
  obtain ⟨⟨content, hfile⟩, -⟩ := (mem_reached_iff w names entries h).mp hmem
  have hplain : (folder entries).isPlain = true := h
  exact (isNamedBy_of_at? hplain hfile).1

lemma exists_cons_of_mem_reachedAt {w : Walk} {name : String} {entry : FileTree}
    {names : List String} (hmem : names ∈ w.reachedAt name entry) :
    ∃ below, names = name :: below := by
  cases entry with
  | file content =>
    rw [reachedAt, List.mem_singleton] at hmem
    exact ⟨[], hmem⟩
  | link target => cases hmem
  | folder entries =>
    rw [reachedAt] at hmem
    split at hmem
    · cases hmem
    · obtain ⟨below, -, rfl⟩ := List.mem_map.mp hmem
      exact ⟨below, rfl⟩

mutual

/-- A walk reaches every file once. -/
lemma nodup_reached (w : Walk) : (entries : List (String × FileTree)) →
    areNamedBy Path.isSegment false entries = true → (w.reached entries).Nodup
  | [], _ => List.nodup_nil
  | (name, entry) :: rest, h => by
    obtain ⟨-, hnew, hentry, hrest⟩ := areNamedBy_cons h
    rw [reached, List.nodup_append]
    refine ⟨nodup_reachedAt w name entry hentry, nodup_reached w rest hrest, ?_⟩
    rintro names hmem _ hmem' rfl
    obtain ⟨below, rfl⟩ := exists_cons_of_mem_reachedAt hmem
    obtain ⟨⟨content, hfile⟩, -⟩ := (mem_reached_iff w _ rest hrest).mp hmem'
    rw [at?, Option.bind_eq_some_iff] at hfile
    obtain ⟨child, hchild, -⟩ := hfile
    obtain ⟨before, after, heq, -⟩ := List.lookup_eq_some_iff.mp hchild
    exact hnew (by simp [heq])

lemma nodup_reachedAt (w : Walk) (name : String) : (entry : FileTree) →
    entry.isPlain = true → (w.reachedAt name entry).Nodup
  | .file _, _ => List.nodup_singleton _
  | .folder entries, h => by
    rw [reachedAt]
    split
    · exact List.nodup_nil
    · exact (nodup_reached w entries h).map (List.cons_injective)

end

/-- The paths with which a walk reaches the files below an absolute root differ in their places in
the order of paths. -/
lemma nodup_sortKey_reached (w : Walk) {root : String} (absolute : Path.isAbsolute root = true)
    {entries : List (String × FileTree)} (h : areNamedBy Path.isSegment false entries = true) :
    (((w.reached entries).map fun names => names.foldl Path.join root).map Path.sortKey).Nodup := by
  rw [List.map_map]
  refine (nodup_reached w entries h).map_on ?_
  intro names hnames names' hnames' heq
  have hsegments := isSegment_of_mem_reached h hnames
  have hsegments' := isSegment_of_mem_reached h hnames'
  have hcomponents := Path.components_eq_of_sortKey_eq heq
  rw [Path.components_foldl_join absolute hsegments,
    Path.components_foldl_join absolute hsegments'] at hcomponents
  exact List.append_cancel_left hcomponents

/-- Whether a walk should take a file of a name: its extension is one of those to take, and the name
marks no test if tests are skipped. A file without an extension counts as one with the empty
extension. -/
def IsWanted (w : Walk) (path name : String) : Prop :=
  (Path.extension? path).getD "" ∈ w.extensions ∧
    (w.skipTestFiles = true →
      ∀ mark ∈ [".test.", ".spec.", ".stories."], ¬mark.toList <:+: name.toList)

/-- A file below a root that a walk should take: it is wanted, and no folder on the way to it is
hidden or passed over by its name. -/
def ShouldTake (w : Walk) (tree : FileTree) (root path : String) : Prop :=
  ∃ place folders name content,
    tree.resolve root = .ok place ∧
      tree.at? (place ++ (folders ++ [name])) = some (.file content) ∧
      path = (folders ++ [name]).foldl Path.join root ∧
      (∀ folder ∈ folders, folder.toList.head? ≠ some '.' ∧ folder ∉ w.skippedFolders) ∧
      w.IsWanted path name

/-- A list of exactly the files below a root that a walk should take, in the order in which the
bytes of their components put them. -/
structure FindsExactly (w : Walk) (tree : FileTree) (root : String) (found : List String) :
    Prop where
  mem_iff : ∀ path, path ∈ found ↔ w.ShouldTake tree root path
  increasing : found.Pairwise fun a b =>
    (Path.components a).map Text.bytes < (Path.components b).map Text.bytes
  nodup : found.Nodup
  nil_of_not_folder : tree.isFolder root = false → found = []

lemma skipsFolder_eq_false_iff (w : Walk) (name : String) :
    w.skipsFolder name = false ↔ name.toList.head? ≠ some '.' ∧ name ∉ w.skippedFolders := by
  simp [skipsFolder]

lemma takesFile_iff (w : Walk) {path name : String} (hname : Path.fileName? path = some name) :
    w.takesFile path = true ↔ w.IsWanted path name := by
  have htest : isTestFile path = true ↔
      ∃ mark ∈ [".test.", ".spec.", ".stories."], mark.toList <:+: name.toList := by
    rw [isTestFile, Path.fileName, hname, Option.getD_some, List.any_eq_true]
    simp only [Text.occursIn_iff]
  rw [takesFile, IsWanted, Bool.and_eq_true, List.contains_iff_mem, Bool.not_eq_true',
    Bool.and_eq_false_imp, ← Bool.not_eq_true, htest]
  simp

lemma isFolder_eq_true_iff (tree : FileTree) (root : String) :
    tree.isFolder root = true ↔
      ∃ place entries, tree.resolve root = .ok place ∧ tree.at? place = some (.folder entries) := by
  rw [isFolder, entry?]
  cases tree.resolve root with
  | error e => simp [Except.toOption]
  | ok place =>
    rcases hplace : tree.at? place with _ | (_ | _ | _) <;> simp [Except.toOption, hplace]

lemma collect_of_not_isFolder (w : Walk) {tree : FileTree} {root : String}
    (h : tree.isFolder root = false) : w.collect tree root = [] := by
  rw [collect]
  cases hresolve : tree.resolve root with
  | error e => rfl
  | ok place =>
    rcases hplace : tree.at? place with _ | (_ | entries | _)
    · simp only [hplace]
    · simp only [hplace]
    · rw [(isFolder_eq_true_iff tree root).mpr ⟨place, entries, hresolve, hplace⟩] at h
      cases h
    · simp only [hplace]

lemma mem_reached_takes_iff (w : Walk) {tree : FileTree} {root path : String}
    {place : List String} {entries : List (String × FileTree)} (plain : tree.isPlain = true)
    (absolute : Path.isAbsolute root = true) (hresolve : tree.resolve root = .ok place)
    (hplace : tree.at? place = some (.folder entries)) :
    path ∈ ((w.reached entries).map fun names => names.foldl Path.join root).filter w.takesFile ↔
      w.ShouldTake tree root path := by
  have hentries : areNamedBy Path.isSegment false entries = true :=
    (isNamedBy_of_at? plain hplace).2
  have hbelow : ∀ names, tree.at? (place ++ names) = (folder entries).at? names := by
    intro names
    rw [at?_append, hplace, Option.bind_some]
  -- The file name of a path below the root is the last of the names that lead to it.
  have htakes : ∀ folders name content,
      (folder entries).at? (folders ++ [name]) = some (.file content) →
        (w.takesFile ((folders ++ [name]).foldl Path.join root) = true ↔
          w.IsWanted ((folders ++ [name]).foldl Path.join root) name) := by
    intro folders name content hfile
    have hplain : (folder entries).isPlain = true := hentries
    have hnames := (isNamedBy_of_at? hplain hfile).1
    have hcomponents := Path.components_foldl_join absolute hnames
    rw [← List.append_assoc] at hcomponents
    exact w.takesFile_iff (Path.fileName?_of_components hcomponents (hnames name (by simp)))
  rw [List.mem_filter, List.mem_map]
  constructor
  · rintro ⟨⟨names, hmem, rfl⟩, htake⟩
    obtain ⟨⟨content, hfile⟩, hfolders⟩ := (mem_reached_iff w names entries hentries).mp hmem
    obtain ⟨folders, name, rfl⟩ : ∃ folders name, names = folders ++ [name] := by
      rcases List.eq_nil_or_concat names with rfl | ⟨folders, name, rfl⟩
      · cases hfile
      · exact ⟨folders, name, List.concat_eq_append⟩
    rw [List.dropLast_concat] at hfolders
    refine ⟨place, folders, name, content, hresolve, ?_, rfl, ?_, ?_⟩
    · rw [hbelow, hfile]
    · exact fun folder hmem => (w.skipsFolder_eq_false_iff folder).mp (hfolders folder hmem)
    · exact (htakes folders name content hfile).mp htake
  · rintro ⟨place', folders, name, content, hresolve', hfile, rfl, hfolders, htake⟩
    obtain rfl : place = place' := Except.ok.inj (hresolve.symm.trans hresolve')
    rw [hbelow] at hfile
    refine ⟨⟨folders ++ [name], ?_, rfl⟩, (htakes folders name content hfile).mpr htake⟩
    refine (mem_reached_iff w _ entries hentries).mpr ⟨⟨content, hfile⟩, ?_⟩
    rw [List.dropLast_concat]
    exact fun folder hmem => (w.skipsFolder_eq_false_iff folder).mpr (hfolders folder hmem)

lemma collect_findsExactly {tree : FileTree} (plain : tree.isPlain = true) {root : String}
    (absolute : Path.isAbsolute root = true) (w : Walk) :
    w.FindsExactly tree root (w.collect tree root) := by
  rcases hfolder : tree.isFolder root with _ | _
  · rw [w.collect_of_not_isFolder hfolder]
    refine ⟨fun path => ?_, List.Pairwise.nil, List.nodup_nil, fun _ => rfl⟩
    simp only [List.not_mem_nil, false_iff]
    rintro ⟨place, folders, name, content, hresolve, hfile, -⟩
    -- What has a file below it is a folder.
    rw [at?_append, Option.bind_eq_some_iff] at hfile
    obtain ⟨entry, hplace, hbelow⟩ := hfile
    rcases entry with _ | entries | _
    · cases folders <;> cases hbelow
    · rw [(isFolder_eq_true_iff tree root).mpr ⟨place, entries, hresolve, hplace⟩] at hfolder
      cases hfolder
    · cases folders <;> cases hbelow
  · obtain ⟨place, entries, hresolve, hplace⟩ := (isFolder_eq_true_iff tree root).mp hfolder
    have hentries : areNamedBy Path.isSegment false entries = true :=
      (isNamedBy_of_at? plain hplace).2
    have hcollect : w.collect tree root = Path.sort
        (((w.reached entries).map fun names => names.foldl Path.join root).filter w.takesFile) := by
      rw [collect, hresolve]
      simp only [hplace, inFolder_eq w _ _ entries hentries]
    have hmem : ∀ path, path ∈ w.collect tree root ↔ w.ShouldTake tree root path := by
      intro path
      rw [hcollect, Path.sort, List.mem_mergeSort]
      exact mem_reached_takes_iff w plain absolute hresolve hplace
    have hsorted : (w.collect tree root).Pairwise fun a b => Path.sortKey a < Path.sortKey b := by
      rw [hcollect]
      exact Path.pairwise_sort
        ((w.nodup_sortKey_reached absolute hentries).sublist (List.filter_sublist.map _))
    constructor
    case mem_iff => exact hmem
    case increasing =>
      refine hsorted.imp_of_mem ?_
      intro a b ha hb hlt
      obtain ⟨placeA, foldersA, nameA, contentA, -, hfileA, rfl, -⟩ := (hmem a).mp ha
      obtain ⟨placeB, foldersB, nameB, contentB, -, hfileB, rfl, -⟩ := (hmem b).mp hb
      have hnamesA := fun name hmem =>
        (isNamedBy_of_at? plain hfileA).1 name (List.mem_append_right placeA hmem)
      have hnamesB := fun name hmem =>
        (isNamedBy_of_at? plain hfileB).1 name (List.mem_append_right placeB hmem)
      exact Path.bytes_lt_of_sortKey_lt absolute hnamesA hnamesB hlt
    case nodup => exact hsorted.imp fun hlt heq => (heq ▸ hlt).false
    case nil_of_not_folder => exact fun h => absurd (hfolder.symm.trans h) (by decide)

end Walk

/-- The files that a walk keeps are those that no pattern of the project excludes. -/
lemma Project.walk_eq_filter (project : Project) (folder : String) (w : Walk) :
    project.walk folder w = (w.collect project.tree (project.path folder)).filter fun path =>
      ∀ pattern ∈ project.config.excludedPaths,
        Glob.matchesPath pattern (project.relative path) = false := by
  apply List.filter_congr
  intro path _
  rw [Bool.eq_iff_iff, Bool.not_eq_true', Config.isExcluded, List.any_eq_false,
    decide_eq_true_iff]
  simp only [Bool.not_eq_true]

/-- In a tree without links a walk below an absolute root finds exactly the files that it should
take, in order, and a project keeps those of them that are not excluded. -/
theorem Walk.collect_finds {tree : FileTree} (plain : tree.isPlain = true) {root : String}
    (absolute : Path.isAbsolute root = true) (w : Walk) :
    w.FindsExactly tree root (w.collect tree root) ∧
      ∀ (project : Project) (folder : String), project.tree = tree → project.path folder = root →
        project.walk folder w = (w.collect tree root).filter fun path =>
          ∀ pattern ∈ project.config.excludedPaths,
            Glob.matchesPath pattern (project.relative path) = false := by
  refine ⟨Walk.collect_findsExactly plain absolute w, ?_⟩
  rintro project folder rfl rfl
  exact project.walk_eq_filter folder w

/-- A project with a hidden folder and a hidden file, a test, a folder of built files, and a folder
whose name another name continues. -/
def Project.assorted : Project where
  tree := .folder [("app", .folder [
    ("a.tsx", .file .empty),
    ("a", .folder [("b.tsx", .file .empty), ("b.test.tsx", .file .empty)]),
    ("dist", .folder [("c.tsx", .file .empty)]),
    (".cache", .folder [("d.tsx", .file .empty)]),
    (".e.tsx", .file .empty),
    ("f\\g.TSX", .file .empty)])]
  root := "/"
  config := { excludedPaths := ["**/b.*"] }

theorem Walk.collect_finds_assorted :
    Project.assorted.tree.isPlain = true ∧ Path.isAbsolute "/app" = true ∧
      Project.assorted.path "app" = "/app" ∧
      Walk.components.FindsExactly Project.assorted.tree "/app"
        ["/app/.e.tsx", "/app/a/b.tsx", "/app/a.tsx"] ∧
      Project.assorted.walk "app" Walk.components = ["/app/.e.tsx", "/app/a.tsx"] := by
  have hplain : Project.assorted.tree.isPlain = true := by decide +kernel
  have habsolute : Path.isAbsolute "/app" = true := by decide +kernel
  have hpath : Project.assorted.path "app" = "/app" := by decide +kernel
  have hfound : Walk.components.collect Project.assorted.tree "/app" =
      ["/app/.e.tsx", "/app/a/b.tsx", "/app/a.tsx"] := by
    have hsort : Walk.components.collect Project.assorted.tree "/app" =
        Path.sort ["/app/a.tsx", "/app/a/b.tsx", "/app/.e.tsx"] := by rfl
    have hinside : Path.isBefore "/app/a/b.tsx" "/app/a.tsx" = true := by decide +kernel
    have hpoint : Path.isBefore "/app/.e.tsx" "/app/a/b.tsx" = true := by decide +kernel
    simp [hsort, Path.sort, List.mergeSort, hinside, hpoint]
  obtain ⟨hexact, hwalk⟩ := Walk.collect_finds hplain habsolute Walk.components
  rw [hfound] at hexact hwalk
  refine ⟨hplain, habsolute, hpath, hexact, ?_⟩
  rw [hwalk Project.assorted "app" rfl hpath]
  decide +kernel

/-- A walk that takes the empty extension finds a file that has no extension. -/
theorem Walk.bare_file_found :
    let w : Walk := ⟨[""], [], false⟩
    let tree : FileTree := .folder [("Makefile", .file .empty)]
    tree.isPlain = true ∧ Path.isAbsolute "/" = true ∧ "/Makefile" ∈ w.collect tree "/" ∧
      ¬∃ extension ∈ w.extensions, Path.extension? "/Makefile" = some extension := by
  decide +kernel

end GapAudit
