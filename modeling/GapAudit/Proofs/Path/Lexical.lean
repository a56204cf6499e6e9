import Mathlib.Data.List.Basic
import GapAudit.Components.Inspection
import GapAudit.Proofs.Path.Components

/-!
# Where paths lead without a look at the tree

A path leads from a place by its names, one after the other: a point stays, and two points take back
the last name (`Path.destination`). A normalized path is made of the names of the place to which the
path leads from the root, also if it is put together from two (`normalize_join`).
-/

namespace GapAudit

namespace Path

open Text

/-- Where a name leads from a place. -/
def step (place : List String) (name : String) : List String :=
  if name = "." then place
  else if name = ".." then place.dropLast
  else place ++ [name]

/-- Where a path leads from a place, whatever there is on the way. An absolute path starts at the
root, and there two points stay. -/
def destination (place : List String) (path : String) : List String :=
  (components path).foldl step (if isAbsolute path then [] else place)

/-- The place of the folder that a path leads through last. -/
def folderOf (path : String) : List String :=
  (components path).dropLast.foldl step []

/-- A name between separators: it is neither empty nor a point, and has no separator. -/
structure IsComponent (name : String) : Prop where
  counts : counts name.toList = true
  noSlash : '/' ∉ name.toList

lemma IsComponent.of_isSegment {name : String} (h : isSegment name = true) : IsComponent name where
  counts := counts_of_isSegment h
  noSlash := not_mem_of_isSegment h

lemma IsComponent.isSegment {name : String} (h : IsComponent name) (hpoints : name ≠ "..") :
    isSegment name = true := by
  obtain ⟨hempty, hpoint⟩ := (counts_iff _).mp h.counts
  have hnotEmpty : name ≠ "" := by
    rintro rfl
    exact hempty rfl
  have hnotPoint : name ≠ "." := by
    rintro rfl
    exact hpoint rfl
  have hall : (name.toList.all fun c => c != '/') = true := by
    rw [List.all_eq_true]
    intro c hmem
    exact bne_iff_ne.mpr (ne_of_mem_of_not_mem hmem h.noSlash)
  simp [Path.isSegment, hnotEmpty, hnotPoint, hpoints, hall]

lemma isComponent_of_mem {path name : String}
    (h : name ∈ ((splitAt '/' path.toList).filter counts).map String.ofList) :
    IsComponent name := by
  obtain ⟨piece, hpiece, rfl⟩ := List.mem_map.mp h
  obtain ⟨hmem, hcounts⟩ := List.mem_filter.mp hpiece
  constructor
  · rwa [String.toList_ofList]
  · rw [String.toList_ofList]
    exact not_mem_of_mem_splitAt hmem

lemma isComponent_of_mem_components {path name : String} (hpath : isAbsolute path = true)
    (h : name ∈ components path) : IsComponent name := by
  rw [components_of_isAbsolute hpath] at h
  exact isComponent_of_mem h

/-- A point at the start of a relative path leads nowhere else, so that the pieces that count in
absolute paths lead where a path leads. -/
lemma foldl_step_components (place : List String) (path : String) :
    (components path).foldl step place =
      (((splitAt '/' path.toList).filter counts).map String.ofList).foldl step place := by
  rw [components, parts]
  cases splitAt '/' path.toList with
  | nil => rfl
  | cons piece pieces =>
    have hrest (gap : List Char) : ((partsOf false gap pieces).map fun part =>
        String.ofList part.text) = (pieces.filter counts).map String.ofList := by
      rw [← map_text_partsOf gap pieces, List.map_map]
      rfl
    rw [partsOf, List.filter_cons, counts]
    by_cases hempty : piece.isEmpty = true
    · simp [hempty, hrest]
    · by_cases hpoint : piece = ['.']
      · subst hpoint
        cases isAbsolute path with
        | true => simp [hrest]
        | false => simp [hrest, step]
      · simp [hempty, hpoint, hrest]

lemma step_of_isSegment {name : String} (h : isSegment name = true) (place : List String) :
    step place name = place ++ [name] := by
  obtain ⟨hpoint, hpoints⟩ := ne_points_of_isSegment h
  rw [step, if_neg hpoint, if_neg hpoints]

lemma foldl_step_of_isSegment {names : List String} (h : ∀ name ∈ names, isSegment name = true)
    (place : List String) : names.foldl step place = place ++ names := by
  induction names generalizing place with
  | nil => simp
  | cons name rest ih =>
    rw [List.foldl_cons, step_of_isSegment (h name List.mem_cons_self),
      ih fun other hmem => h other (List.mem_cons_of_mem name hmem), List.append_assoc]
    rfl

lemma isSegment_of_mem_foldl_step {place names : List String}
    (hplace : ∀ name ∈ place, isSegment name = true) (hnames : ∀ name ∈ names, IsComponent name) :
    ∀ name ∈ names.foldl step place, isSegment name = true := by
  induction names generalizing place with
  | nil => exact hplace
  | cons name rest ih =>
    refine ih ?_ fun other hmem => hnames other (List.mem_cons_of_mem name hmem)
    intro other hmem
    unfold step at hmem
    split_ifs at hmem with hpoint hpoints
    · exact hplace other hmem
    · exact hplace other (List.dropLast_subset _ hmem)
    · rcases List.mem_append.mp hmem with hmem | hmem
      · exact hplace other hmem
      · rw [List.mem_singleton.mp hmem]
        exact (hnames name List.mem_cons_self).isSegment hpoints

/-- The place to which a path leads has no points in its names. -/
theorem isSegment_of_mem_destination {place : List String}
    (hplace : ∀ name ∈ place, isSegment name = true) (path : String) :
    ∀ name ∈ destination place path, isSegment name = true := by
  unfold destination
  rw [foldl_step_components]
  refine isSegment_of_mem_foldl_step ?_ fun name => isComponent_of_mem
  split
  · simp
  · exact hplace

lemma isAbsolute_absolutePath (names : List String) : isAbsolute (absolutePath names) = true := by
  simp [absolutePath, isAbsolute]

lemma splitAt_intercalate {names : List String} (hne : names ≠ [])
    (hnames : ∀ name ∈ names, '/' ∉ name.toList) :
    splitAt '/' ("/".intercalate names).toList = names.map String.toList := by
  induction names with
  | nil => contradiction
  | cons name rest ih =>
    have hname : splitAt '/' name.toList = [name.toList] :=
      splitAt_of_not_mem (hnames name List.mem_cons_self)
    cases rest with
    | nil => simpa using hname
    | cons next more =>
      have htext : ("/".intercalate (name :: next :: more)).toList =
          name.toList ++ '/' :: ("/".intercalate (next :: more)).toList := by
        rw [String.intercalate_cons_cons]
        simp
      rw [htext, splitAt_append, hname,
        ih (List.cons_ne_nil _ _) fun other hmem => hnames other (List.mem_cons_of_mem name hmem)]
      rfl

lemma splitAt_absolutePath {names : List String} (hne : names ≠ [])
    (hnames : ∀ name ∈ names, '/' ∉ name.toList) :
    splitAt '/' (absolutePath names).toList = [] :: names.map String.toList := by
  have htext : (absolutePath names).toList = [] ++ '/' :: ("/".intercalate names).toList := by
    rw [absolutePath, String.toList_append]
    rfl
  rw [htext, splitAt_append, splitAt_intercalate hne hnames]
  rfl

lemma components_absolutePath {names : List String} (hnames : ∀ name ∈ names, IsComponent name) :
    components (absolutePath names) = names := by
  rw [components_of_isAbsolute (isAbsolute_absolutePath names)]
  by_cases hne : names = []
  · subst hne
    rfl
  · rw [splitAt_absolutePath hne fun name hmem => (hnames name hmem).noSlash]
    have hall : (names.map String.toList).filter counts = names.map String.toList := by
      rw [List.filter_eq_self]
      intro piece hmem
      obtain ⟨name, hname, rfl⟩ := List.mem_map.mp hmem
      exact (hnames name hname).counts
    have hfirst : counts [] = false := rfl
    rw [List.filter_cons, hfirst, if_neg Bool.false_ne_true, hall, List.map_map]
    simp [Function.comp_def]

lemma intercalate_concat {separator name : String} {names : List String} (hne : names ≠ []) :
    separator.intercalate (names ++ [name]) = separator.intercalate names ++ separator ++ name := by
  induction names with
  | nil => contradiction
  | cons first rest ih =>
    cases rest with
    | nil => simp [String.intercalate_cons_cons]
    | cons next more =>
      have hrest := ih (List.cons_ne_nil _ _)
      rw [List.cons_append] at hrest
      rw [List.cons_append, List.cons_append, String.intercalate_cons_cons, hrest,
        String.intercalate_cons_cons]
      simp only [String.append_assoc]

lemma absolutePath_concat {names : List String} (hne : names ≠ []) (name : String) :
    absolutePath (names ++ [name]) = absolutePath names ++ "/" ++ name := by
  rw [absolutePath, intercalate_concat hne, absolutePath]
  simp only [String.append_assoc]

/-- A name added to the path of a place makes the path of the place below it. -/
lemma join_absolutePath {names : List String} (hnames : ∀ name ∈ names, isSegment name = true)
    {name : String} (hname : isSegment name = true) :
    join (absolutePath names) name = absolutePath (names ++ [name]) := by
  rw [join_of_relative (isAbsolute_absolutePath names) (not_isAbsolute_of_isSegment hname)]
  rcases List.eq_nil_or_concat' names with rfl | ⟨above, last, rfl⟩
  · have hslash : ((absolutePath []).toList.getLast? == some '/') = true := by decide
    rw [hslash, if_pos rfl]
    simp [absolutePath]
  · have hlast := hnames last (by simp)
    have htext : ∃ front, (absolutePath (above ++ [last])).toList = front ++ last.toList := by
      by_cases habove : above = []
      · exact ⟨['/'], by simp [habove, absolutePath]⟩
      · exact ⟨_, by rw [absolutePath_concat habove, String.toList_append]⟩
    have hslash : ¬((absolutePath (above ++ [last])).toList.getLast? == some '/') = true := by
      obtain ⟨front, hfront⟩ := htext
      have hnotEmpty : last.toList ≠ [] := ((counts_iff _).mp (counts_of_isSegment hlast)).1
      rw [beq_iff_eq, hfront, List.getLast?_append_of_ne_nil _ hnotEmpty]
      exact fun hslash => not_mem_of_isSegment hlast (List.mem_of_getLast? hslash)
    have hne : above ++ [last] ≠ [] := by simp
    rw [if_neg hslash, absolutePath_concat hne]

lemma isAbsolute_parentPath {path : String} (h : isAbsolute path = true) :
    isAbsolute (parentPath path) = true := by
  rw [parentPath, if_pos h]
  exact isAbsolute_absolutePath _

lemma components_parentPath {path : String} (h : isAbsolute path = true) :
    components (parentPath path) = (components path).dropLast := by
  rw [parentPath, if_pos h]
  apply components_absolutePath
  intro name hmem
  exact isComponent_of_mem_components h (List.dropLast_subset _ hmem)

end Path

open GapAudit.Path

lemma normalizeOnto_eq (above names : List String) :
    normalizeOnto above names = names.foldl step above.reverse := by
  induction names generalizing above with
  | nil => rfl
  | cons name rest ih =>
    rw [normalizeOnto, List.foldl_cons, step]
    by_cases hpoint : name = "."
    · simp [hpoint, ih]
    · by_cases hpoints : name = ".."
      · simp [hpoints, ih, List.dropLast_reverse]
      · simp [hpoint, hpoints, ih]

lemma normalize_eq_foldl (path : String) : normalize path = (components path).foldl step [] :=
  normalizeOnto_eq [] _

lemma normalize_eq (path : String) : normalize path = destination [] path := by
  rw [normalize_eq_foldl, destination, ite_self]

lemma normalize_parentPath {path : String} (h : isAbsolute path = true) :
    normalize (parentPath path) = folderOf path := by
  rw [normalize_eq_foldl, components_parentPath h, folderOf]

/-- A path put together from two leads where the second one leads from where the first one does. -/
theorem normalize_join {base : String} (hbase : isAbsolute base = true) (path : String) :
    normalize (join base path) = destination (normalize base) path := by
  cases hpath : isAbsolute path with
  | true =>
    have hjoin : join base path = path := by simp [join, hpath]
    rw [hjoin, normalize_eq, destination, destination, hpath]
    rfl
  | false =>
    rw [normalize_eq_foldl, components_join_of_relative hbase hpath, List.foldl_append,
      destination, hpath, normalize_eq_foldl, foldl_step_components _ path]
    rfl

end GapAudit
