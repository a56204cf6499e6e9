import Mathlib.Data.List.Basic
import GapAudit.Path

/-!
# Components of absolute paths

The components of an absolute path are what counts among the pieces between its separators
(`components_of_isAbsolute`), so that a name added to a path adds one component
(`components_join`). The path relative to a base still tells the components: two absolute paths
without backslashes that are the same relative to an absolute base have the same components
(`components_eq_of_relativeTo_eq`).
-/

namespace GapAudit

namespace Text

variable {separator : Char}

lemma splitAt_of_not_mem {s : List Char} (h : separator ∉ s) : splitAt separator s = [s] := by
  induction s with
  | nil => rfl
  | cons c s ih =>
    obtain ⟨hc, hs⟩ : separator ≠ c ∧ separator ∉ s := by simpa using h
    have hne : (c == separator) = false := by simpa using Ne.symm hc
    rw [splitAt, hne, ih hs]
    rfl

lemma splitAt_ne_nil (separator : Char) (s : List Char) : splitAt separator s ≠ [] := by
  cases s with
  | nil => simp [splitAt]
  | cons c s =>
    rw [splitAt]
    split
    · simp
    · split <;> simp

lemma splitAt_append (separator : Char) (a b : List Char) :
    splitAt separator (a ++ separator :: b) = splitAt separator a ++ splitAt separator b := by
  induction a with
  | nil => simp [splitAt]
  | cons c a ih =>
    rw [List.cons_append, splitAt, splitAt, ih]
    split
    · rfl
    · -- The first piece grows, and there is one.
      rcases hpieces : splitAt separator a with _ | ⟨piece, pieces⟩
      · exact absurd hpieces (splitAt_ne_nil separator a)
      · rfl

lemma not_mem_of_mem_splitAt {s piece : List Char} (h : piece ∈ splitAt separator s) :
    separator ∉ piece := by
  induction s generalizing piece with
  | nil => simp_all [splitAt]
  | cons c s ih =>
    rw [splitAt] at h
    split at h
    · rcases List.mem_cons.mp h with rfl | hrest
      · simp
      · exact ih hrest
    · next hne =>
      rcases hpieces : splitAt separator s with _ | ⟨first, pieces⟩ <;> rw [hpieces] at h ih
      · exact absurd hpieces (splitAt_ne_nil separator s)
      · rcases List.mem_cons.mp h with rfl | hrest
        · have hfirst := ih List.mem_cons_self
          have hc : separator ≠ c := fun heq => hne (by simp [heq])
          simp [hc, hfirst]
        · exact ih (List.mem_cons_of_mem first hrest)

end Text

namespace Path

open Text

/-- Whether a piece between separators counts as a component of an absolute path. -/
def counts (piece : List Char) : Bool :=
  !(piece.isEmpty || piece == ['.'])

lemma counts_iff (piece : List Char) : counts piece = true ↔ piece ≠ [] ∧ piece ≠ ['.'] := by
  simp [counts]

lemma map_text_partsOf (gap : List Char) (pieces : List (List Char)) :
    (partsOf false gap pieces).map (·.text) = pieces.filter counts := by
  induction pieces generalizing gap with
  | nil => rfl
  | cons piece pieces ih =>
    rw [partsOf, List.filter_cons, counts]
    cases hpiece : piece.isEmpty || piece == ['.'] <;> simp_all

/-- The components of an absolute path are its pieces that count. -/
theorem components_of_isAbsolute {path : String} (h : isAbsolute path = true) :
    components path = ((splitAt '/' path.toList).filter counts).map String.ofList := by
  have htexts := map_text_partsOf [] (splitAt '/' path.toList)
  rw [components, parts, h, Bool.not_true, ← htexts, List.map_map]
  rfl

/-- Whether a text can stand between the separators of a path as a name: it is neither empty nor
made of one or two points, and it has no slashes. -/
def isSegment (name : String) : Bool :=
  name != "" && name != "." && name != ".." && name.toList.all fun c => c != '/'

/-- Whether a text can be the name of an entry of a folder: it is neither empty nor made of one or
two points, and it has neither slashes nor backslashes. -/
def isEntryName (name : String) : Bool :=
  name != "" && name != "." && name != ".." && name.toList.all fun c => c != '/' && c != '\\'

lemma not_mem_of_isSegment {name : String} (h : isSegment name = true) : '/' ∉ name.toList := by
  simp only [isSegment, Bool.and_eq_true, List.all_eq_true, bne_iff_ne] at h
  exact fun hmem => h.2 _ hmem rfl

lemma ne_points_of_isSegment {name : String} (h : isSegment name = true) :
    name ≠ "." ∧ name ≠ ".." := by
  simp only [isSegment, Bool.and_eq_true, bne_iff_ne] at h
  exact ⟨h.1.1.2, h.1.2⟩

lemma not_mem_of_isEntryName {name : String} (h : isEntryName name = true) :
    '/' ∉ name.toList ∧ '\\' ∉ name.toList := by
  simp only [isEntryName, Bool.and_eq_true, List.all_eq_true, bne_iff_ne] at h
  exact ⟨fun hmem => (h.2 _ hmem).1 rfl, fun hmem => (h.2 _ hmem).2 rfl⟩

lemma isSegment_of_isEntryName {name : String} (h : isEntryName name = true) :
    isSegment name = true := by
  simp only [isEntryName, isSegment, Bool.and_eq_true, List.all_eq_true] at h ⊢
  exact ⟨h.1, fun c hmem => (h.2 c hmem).1⟩

lemma counts_of_isSegment {name : String} (h : isSegment name = true) :
    counts name.toList = true := by
  simp only [isSegment, Bool.and_eq_true, bne_iff_ne] at h
  obtain ⟨⟨⟨hempty, hpoint⟩, -⟩, -⟩ := h
  have hpoint' : name.toList ≠ ['.'] := fun heq => hpoint (String.toList_inj.mp heq)
  have hempty' : name.toList ≠ [] := fun heq => hempty (String.toList_inj.mp heq)
  exact (counts_iff _).mpr ⟨hempty', hpoint'⟩

/-- An absolute path none of whose components has a backslash. -/
structure IsClean (path : String) : Prop where
  absolute : isAbsolute path = true
  noBackslash : ∀ component ∈ components path, '\\' ∉ component.toList

lemma isAbsolute_append {base : String} (h : isAbsolute base = true) (s : String) :
    isAbsolute (base ++ s) = true := by
  unfold isAbsolute at h ⊢
  rw [String.toList_append]
  rcases hbase : base.toList with _ | ⟨c, rest⟩ <;> simp_all

lemma isEmpty_eq_false {path : String} (h : isAbsolute path = true) : path.isEmpty = false := by
  rw [Bool.eq_false_iff]
  intro hempty
  rw [String.isEmpty_iff] at hempty
  subst hempty
  cases h

lemma isAbsolute_join {base : String} (h : isAbsolute base = true) (path : String) :
    isAbsolute (join base path) = true := by
  rw [join, isEmpty_eq_false h, Bool.or_false]
  split
  · assumption
  · split
    · exact isAbsolute_append h path
    · rw [String.append_assoc]
      exact isAbsolute_append h _

lemma join_of_relative {base path : String} (hbase : isAbsolute base = true)
    (hpath : isAbsolute path = false) :
    join base path = if base.toList.getLast? == some '/' then base ++ path
      else base ++ "/" ++ path := by
  rw [join, hpath, isEmpty_eq_false hbase]
  rfl

/-- A relative path added to an absolute one adds its pieces that count. -/
lemma components_join_of_relative {base path : String} (hbase : isAbsolute base = true)
    (hpath : isAbsolute path = false) :
    components (join base path) =
      components base ++ ((splitAt '/' path.toList).filter counts).map String.ofList := by
  have hjoin : isAbsolute (join base path) = true := isAbsolute_join hbase path
  rw [components_of_isAbsolute hjoin, components_of_isAbsolute hbase, join_of_relative hbase hpath]
  split
  · next hslash =>
    -- The base ends in a separator, behind which it has an empty piece.
    obtain ⟨front, hfront⟩ := List.getLast?_eq_some_iff.mp (by simpa using hslash)
    have hsplit : splitAt '/' base.toList = splitAt '/' front ++ [[]] := by
      rw [hfront, splitAt_append]
      rfl
    rw [String.toList_append, hsplit, hfront, List.append_assoc, List.singleton_append,
      splitAt_append, List.filter_append, List.filter_append]
    simp [counts]
  · have htext : (base ++ "/" ++ path).toList = base.toList ++ '/' :: path.toList := by simp
    rw [htext, splitAt_append, List.filter_append, List.map_append]

lemma not_isAbsolute_of_isSegment {name : String} (h : isSegment name = true) :
    isAbsolute name = false := by
  rw [Bool.eq_false_iff]
  intro habsolute
  have hmem : '/' ∈ name.toList := List.mem_of_mem_head? (by simpa [isAbsolute] using habsolute)
  exact not_mem_of_isSegment h hmem

/-- A name added to an absolute path adds one component. -/
theorem components_join {base name : String} (hbase : isAbsolute base = true)
    (hname : isSegment name = true) : components (join base name) = components base ++ [name] := by
  have hpieces : splitAt '/' name.toList = [name.toList] :=
    splitAt_of_not_mem (not_mem_of_isSegment hname)
  rw [components_join_of_relative hbase (not_isAbsolute_of_isSegment hname), hpieces]
  simp [counts_of_isSegment hname]

lemma isAbsolute_foldl_join {base : String} (hbase : isAbsolute base = true) (names : List String) :
    isAbsolute (names.foldl join base) = true := by
  induction names generalizing base with
  | nil => exact hbase
  | cons name rest ih => exact ih (isAbsolute_join hbase name)

/-- Names added one after the other to an absolute path add their components. -/
lemma components_foldl_join {base : String} {names : List String} (hbase : isAbsolute base = true)
    (hnames : ∀ name ∈ names, isSegment name = true) :
    components (names.foldl join base) = components base ++ names := by
  induction names generalizing base with
  | nil => simp
  | cons name rest ih =>
    have hname := hnames name List.mem_cons_self
    have hrest := ih (isAbsolute_join hbase name) fun other hmem =>
      hnames other (List.mem_cons_of_mem name hmem)
    rw [List.foldl_cons, hrest, components_join hbase hname, List.append_assoc,
      List.singleton_append]

lemma fileName?_of_components {path name : String} {above : List String}
    (h : components path = above ++ [name]) (hname : isSegment name = true) :
    fileName? path = some name := by
  obtain ⟨hpoint, hpoints⟩ := ne_points_of_isSegment hname
  simp [fileName?, h, hpoint, hpoints]

lemma IsClean.join {base name : String} (hbase : IsClean base) (hname : isEntryName name = true) :
    IsClean (join base name) where
  absolute := isAbsolute_join hbase.absolute name
  noBackslash := by
    intro component hmem
    rw [components_join hbase.absolute (isSegment_of_isEntryName hname)] at hmem
    rcases List.mem_append.mp hmem with hbaseMem | hnameMem
    · exact hbase.noBackslash component hbaseMem
    · rw [List.mem_singleton.mp hnameMem]
      exact (not_mem_of_isEntryName hname).2

/-! ### Paths relative to a base -/

/-- Text between two components: it begins with a separator and has no backslash, and it parts what
stands before it from what follows without a component of its own. -/
structure IsGap (gap : List Char) : Prop where
  begins : ∃ rest, gap = '/' :: rest
  noBackslash : '\\' ∉ gap
  separates : ∀ before rest : List Char, '/' ∉ before →
    (splitAt '/' (before ++ gap ++ rest)).filter counts =
      [before].filter counts ++ (splitAt '/' rest).filter counts

lemma isGap_separator : IsGap ['/'] where
  begins := ⟨[], rfl⟩
  noBackslash := by decide
  separates := by
    intro before rest hbefore
    rw [List.append_assoc, List.singleton_append, splitAt_append, splitAt_of_not_mem hbefore,
      List.filter_append]

lemma IsGap.extend {gap piece : List Char} (h : IsGap gap) (hpiece : counts piece = false) :
    IsGap (gap ++ piece ++ ['/']) where
  begins := by
    obtain ⟨rest, hrest⟩ := h.begins
    exact ⟨rest ++ piece ++ ['/'], by rw [hrest]; rfl⟩
  noBackslash := by
    have hpiece' : '\\' ∉ piece := by
      simp only [counts, Bool.not_eq_false', Bool.or_eq_true, List.isEmpty_iff, beq_iff_eq] at hpiece
      rcases hpiece with rfl | rfl <;> decide
    simp [h.noBackslash, hpiece']
  separates := by
    intro before rest hbefore
    have hseparator : '/' ∉ piece := by
      simp only [counts, Bool.not_eq_false', Bool.or_eq_true, List.isEmpty_iff, beq_iff_eq] at hpiece
      rcases hpiece with rfl | rfl <;> decide
    have htext : before ++ (gap ++ piece ++ ['/']) ++ rest =
        before ++ gap ++ (piece ++ '/' :: rest) := by simp
    rw [htext, h.separates before _ hbefore, splitAt_append, splitAt_of_not_mem hseparator,
      List.filter_append]
    simp [hpiece]

/-- A part of an absolute path. -/
structure IsPart (part : Part) : Prop where
  gap : IsGap part.gap
  counts : counts part.text = true
  noSeparator : '/' ∉ part.text

lemma isPart_of_mem_partsOf {gap : List Char} {pieces : List (List Char)} {part : Part}
    (hgap : IsGap gap) (hpieces : ∀ piece ∈ pieces, '/' ∉ piece)
    (h : part ∈ partsOf false gap pieces) : IsPart part := by
  induction pieces generalizing gap with
  | nil => simp [partsOf] at h
  | cons piece pieces ih =>
    have hrest : ∀ piece ∈ pieces, '/' ∉ piece :=
      fun piece hmem => hpieces piece (List.mem_cons_of_mem _ hmem)
    rw [partsOf] at h
    split at h
    · next hskipped =>
      have hnone : Path.counts piece = false := by
        rw [Path.counts, Bool.not_eq_false']
        simpa using hskipped
      exact ih (hgap.extend hnone) hrest h
    · next hkept =>
      rcases List.mem_cons.mp h with rfl | hmem
      · have hcounts : Path.counts piece = true := by
          rw [Path.counts, Bool.not_eq_true']
          simpa using hkept
        exact ⟨hgap, hcounts, hpieces piece List.mem_cons_self⟩
      · exact ih isGap_separator hrest hmem

lemma isPart_of_mem_parts {path : String} {part : Part} (h : isAbsolute path = true)
    (hpart : part ∈ parts path) : IsPart part := by
  obtain ⟨rest, hrest⟩ : ∃ rest, path.toList = '/' :: rest :=
    List.head?_eq_some_iff.mp (by simpa [isAbsolute] using h)
  have hparts : parts path = partsOf false ['/'] (splitAt '/' rest) := by
    rw [parts, h, hrest]
    rfl
  rw [hparts] at hpart
  exact isPart_of_mem_partsOf isGap_separator (fun piece => not_mem_of_mem_splitAt) hpart

lemma filter_splitAt_textOf {text : List Char} {more : List Part} (hcounts : counts text = true)
    (hseparator : '/' ∉ text) (hmore : ∀ part ∈ more, IsPart part) :
    (splitAt '/' (text ++ textOf more)).filter counts = text :: more.map (·.text) := by
  induction more generalizing text with
  | nil => simp [textOf, splitAt_of_not_mem hseparator, hcounts]
  | cons part more ih =>
    have hpart := hmore part List.mem_cons_self
    have hrest := ih hpart.counts hpart.noSeparator
      fun part hmem => hmore part (List.mem_cons_of_mem _ hmem)
    have htext : text ++ textOf (part :: more) = text ++ part.gap ++ (part.text ++ textOf more) := by
      simp [textOf]
    rw [htext, hpart.gap.separates text _ hseparator, hrest]
    simp [hcounts]

lemma partsAfter?_eq_some {base all rest : List Part} (h : partsAfter? base all = some rest) :
    ∃ front, all = front ++ rest ∧ front.map (·.text) = base.map (·.text) := by
  induction base generalizing all with
  | nil =>
    rw [partsAfter?] at h
    exact ⟨[], Option.some.inj h, rfl⟩
  | cons b base ih =>
    cases all with
    | nil => simp [partsAfter?] at h
    | cons p all =>
      rw [partsAfter?] at h
      split at h
      · next heq =>
        obtain ⟨front, rfl, hfront⟩ := ih h
        exact ⟨p :: front, rfl, by simp_all⟩
      · cases h

/-- A text with slashes for backslashes. -/
def slashed (s : List Char) : List Char :=
  s.map fun c => if c == '\\' then '/' else c

lemma slashed_eq_self {s : List Char} (h : '\\' ∉ s) : slashed s = s := by
  conv_rhs => rw [← List.map_id s]
  apply List.map_congr_left
  intro c hmem
  have hc : c ≠ '\\' := fun heq => h (heq ▸ hmem)
  simp [hc]

/-- Relative to a base, a path elsewhere stays as it is, and of a path below it the components
behind those of the base are left. -/
lemma relativeTo_cases {root path : String} (hroot : isAbsolute root = true) (h : IsClean path) :
    relativeTo root path = path ∨
      components path = components root ++
          ((splitAt '/' (relativeTo root path).toList).filter counts).map String.ofList ∧
        isAbsolute (relativeTo root path) = false := by
  rw [relativeTo, after?, hroot, h.absolute]
  rcases hafter : partsAfter? (parts root) (parts path) with _ | rest
  · exact Or.inl rfl
  · obtain ⟨front, hparts, hfront⟩ := partsAfter?_eq_some hafter
    have hrest : ∀ part ∈ rest, IsPart part := fun part hmem =>
      isPart_of_mem_parts h.absolute (hparts ▸ List.mem_append_right front hmem)
    have hcomponents : components path =
        components root ++ rest.map fun part => String.ofList part.text := by
      have hfront' : front.map (fun part => String.ofList part.text) = components root := by
        have := congrArg (List.map String.ofList) hfront
        simpa [components, Function.comp_def] using this
      rw [components, hparts, List.map_append, hfront']
    right
    cases rest with
    | nil =>
      refine ⟨?_, rfl⟩
      rw [hcomponents]
      rfl
    | cons first more =>
      have hfirst := hrest first List.mem_cons_self
      have hmore : ∀ part ∈ more, IsPart part :=
        fun part hmem => hrest part (List.mem_cons_of_mem _ hmem)
      have hbackslash : '\\' ∉ first.text ++ textOf more := by
        have htext : ∀ part ∈ first :: more, '\\' ∉ part.text := by
          intro part hmem
          have hmem' : String.ofList part.text ∈ components path := by
            rw [hcomponents]
            exact List.mem_append_right _ (List.mem_map_of_mem hmem)
          simpa using h.noBackslash _ hmem'
        simp only [textOf, List.mem_append, List.mem_flatMap, not_or, not_exists, not_and]
        refine ⟨htext first List.mem_cons_self, fun part hmem => ⟨?_, ?_⟩⟩
        · exact (hmore part hmem).gap.noBackslash
        · exact htext part (List.mem_cons_of_mem _ hmem)
      have hsame : (first.text ++ textOf more).map (fun c => if c == '\\' then '/' else c) =
          first.text ++ textOf more := slashed_eq_self hbackslash
      simp only [bne_self_eq_false, Bool.false_eq_true, if_false, Option.map_some, Bool.not_true,
        Bool.false_and, String.toList_ofList, hsame]
      constructor
      · rw [filter_splitAt_textOf hfirst.counts hfirst.noSeparator hmore, hcomponents]
        simp
      · rcases htext : first.text with _ | ⟨c, text⟩
        · have hcounts := hfirst.counts
          rw [htext] at hcounts
          cases hcounts
        · have hc : c ≠ '/' := by
            have hseparator := hfirst.noSeparator
            rw [htext] at hseparator
            exact fun heq => hseparator (heq ▸ List.mem_cons_self)
          simp [isAbsolute, hc]

/-- What a clean path is relative to an absolute base tells its components. -/
theorem components_eq_of_relativeTo_eq {root p q : String} (hroot : isAbsolute root = true)
    (hp : IsClean p) (hq : IsClean q) (h : relativeTo root p = relativeTo root q) :
    components p = components q := by
  rcases relativeTo_cases hroot hp with hpSame | ⟨hpComponents, hpRelative⟩ <;>
    rcases relativeTo_cases hroot hq with hqSame | ⟨hqComponents, hqRelative⟩
  · rw [← hpSame, h, hqSame]
  · rw [← h, hpSame, hp.absolute] at hqRelative
    cases hqRelative
  · rw [h, hqSame, hq.absolute] at hpRelative
    cases hpRelative
  · rw [hpComponents, hqComponents, h]

/-- The text before the first part is the one that pieces are read behind, and more. -/
lemma prefix_gap_of_partsOf {gap : List Char} {pieces : List (List Char)} {part : Part}
    {more : List Part} (h : partsOf false gap pieces = part :: more) : gap <+: part.gap := by
  induction pieces generalizing gap with
  | nil => cases h
  | cons piece pieces ih =>
    rw [partsOf] at h
    split at h
    · exact ((List.prefix_append gap piece).trans (List.prefix_append _ _)).trans (ih h)
    · cases h
      exact List.prefix_rfl

lemma components_parent {path : String} (h : isAbsolute path = true) :
    components (parent path) = (components path).dropLast := by
  have hcomponents : (components path).dropLast =
      (parts path).dropLast.map fun part => String.ofList part.text := List.map_dropLast.symm
  rw [hcomponents, parent, h, Bool.and_true]
  cases habove : (parts path).dropLast with
  | nil => rfl
  | cons part more =>
    rw [List.isEmpty_cons, if_neg Bool.false_ne_true]
    obtain ⟨rest, hrest⟩ : ∃ rest, path.toList = '/' :: rest :=
      List.head?_eq_some_iff.mp (by simpa [isAbsolute] using h)
    have hsubset : ∀ other ∈ part :: more, IsPart other := by
      intro other hmem
      rw [← habove] at hmem
      exact isPart_of_mem_parts h (List.dropLast_subset _ hmem)
    have hgap : ['/'] <+: part.gap := by
      have hparts : partsOf false ['/'] (splitAt '/' rest) = part :: (parts path).tail := by
        have hfirst : parts path = part :: (parts path).tail := by
          obtain ⟨tail, htail⟩ := List.dropLast_prefix (parts path)
          rw [← htail, habove]
          rfl
        rw [← hfirst, parts, h, hrest]
        rfl
      exact prefix_gap_of_partsOf hparts
    have htext : textOf (part :: more) = [] ++ part.gap ++ (part.text ++ textOf more) := by
      simp [textOf]
    have habsolute : isAbsolute (String.ofList (textOf (part :: more))) = true := by
      obtain ⟨tail, htail⟩ := hgap
      rw [isAbsolute, String.toList_ofList, htext, ← htail]
      rfl
    have hpart := hsubset part List.mem_cons_self
    rw [components_of_isAbsolute habsolute, String.toList_ofList, htext,
      hpart.gap.separates [] _ (List.not_mem_nil), filter_splitAt_textOf hpart.counts
        hpart.noSeparator fun other hmem => hsubset other (List.mem_cons_of_mem part hmem)]
    simp [counts]

/-- What stands below a folder stands below one of its names only. -/
lemma eq_of_concat_prefix {base components : List String} {name name' : String}
    (h : base ++ [name] <+: components) (h' : base ++ [name'] <+: components) : name = name' := by
  have hsame : base ++ [name] = base ++ [name'] :=
    (List.prefix_of_prefix_length_le h h' (by simp)).eq_of_length (by simp)
  simpa using hsame

end Path

end GapAudit
