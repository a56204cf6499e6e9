import Mathlib
import GapAudit.FileTree.Change
import GapAudit.Proofs.Path.Lexical
import GapAudit.Proofs.Walk.Files

/-!
# What a change to a tree leaves alone

What stands at a place is seen without what is inside (`standing?`). A file or an empty folder put
at a place changes what stands there and nothing else (`standing?_put`). In trees without links a
path leads where its names say (`walkTo_eq_ok`), so that making folders along a path adds folders
where ancestors of the path lead, and nothing else (`makesFolders_makeFolders`), and the file that
is written stands where the path leads (`isWritten_of_write`).
-/

namespace GapAudit.FileTree

open GapAudit.Path

/-- What stands at a place, without what is inside. -/
inductive Standing where
  | file (content : ByteArray)
  | folder
  | link (target : String)

/-- What an entry is seen to be from outside. -/
def standing : FileTree → Standing
  | .file content => .file content
  | .folder _ => .folder
  | .link target => .link target

/-- What stands at a place of a tree. -/
def standing? (tree : FileTree) (place : List String) : Option Standing :=
  (tree.at? place).map standing

variable {tree next entry : FileTree} {place other : List String}

lemma standing?_eq_none_iff : tree.standing? place = none ↔ tree.at? place = none :=
  Option.map_eq_none_iff

lemma isSome_standing? : (tree.standing? place).isSome = (tree.at? place).isSome :=
  Option.isSome_map

lemma standing?_eq_file_iff {content : ByteArray} :
    tree.standing? place = some (.file content) ↔ tree.at? place = some (.file content) := by
  rw [standing?]
  rcases tree.at? place with _ | (_ | _ | _) <;> simp [standing]

lemma standing?_eq_folder_iff :
    tree.standing? place = some .folder ↔ tree.holdsFolder place = true := by
  rw [standing?, holdsFolder]
  rcases tree.at? place with _ | (_ | _ | _) <;> simp [standing]

lemma holdsFolder_iff :
    tree.holdsFolder place = true ↔ ∃ entries, tree.at? place = some (.folder entries) := by
  rw [holdsFolder]
  rcases tree.at? place with _ | (_ | _ | _) <;> simp

/-- What is above something that stands is a folder. -/
lemma holdsFolder_of_isSome {name : String} {rest : List String}
    (h : (tree.at? (place ++ name :: rest)).isSome) : tree.holdsFolder place = true := by
  rw [at?_append] at h
  rw [holdsFolder]
  cases hplace : tree.at? place with
  | none => simp [hplace] at h
  | some entry =>
    rw [hplace, Option.bind_some] at h
    cases entry with
    | file content => cases h
    | folder entries => rfl
    | link target => cases h

/-- Something stands above what stands at a place. -/
lemma isSome_at?_dropLast (h : (tree.at? place).isSome) : (tree.at? place.dropLast).isSome := by
  rcases List.eq_nil_or_concat' place with rfl | ⟨above, last, rfl⟩
  · rfl
  · obtain ⟨entries, hentries⟩ := holdsFolder_iff.mp (holdsFolder_of_isSome h)
    rw [List.dropLast_concat, hentries]
    rfl

lemma lookup_changeEntry (name : String) (change : Option FileTree → FileTree)
    (entries : List (String × FileTree)) (key : String) :
    (changeEntry name change entries).lookup key =
      if key = name then some (change (entries.lookup name)) else entries.lookup key := by
  induction entries with
  | nil =>
    by_cases hkey : key = name
    · simp [changeEntry, hkey]
    · simp [changeEntry, hkey, List.lookup_cons, beq_false_of_ne hkey]
  | cons head rest ih =>
    obtain ⟨first, inside⟩ := head
    rw [changeEntry]
    by_cases hfirst : first = name
    · subst hfirst
      by_cases hkey : key = first
      · simp [hkey]
      · simp [hkey, List.lookup_cons, beq_false_of_ne hkey]
    · have hname : (name == first) = false := beq_false_of_ne (Ne.symm hfirst)
      rw [if_neg (by simpa using hfirst), List.lookup_cons, List.lookup_cons, List.lookup_cons, ih,
        hname]
      by_cases hkey : key = first
      · subst hkey
        simp [hfirst]
      · simp [beq_false_of_ne hkey]

/-- Whether there is a way to a place for an entry that has nothing inside: only folders lead there,
and nothing stands below. -/
structure HasWayTo (tree : FileTree) (place : List String) : Prop where
  folders : ∀ above name below, place = above ++ name :: below → tree.holdsFolder above = true
  nothing_below : ∀ name below, tree.at? (place ++ name :: below) = none

lemma HasWayTo.child {name : String} {rest : List String} {entries : List (String × FileTree)}
    {child : FileTree} (h : (folder entries).HasWayTo (name :: rest))
    (hchild : entries.lookup name = some child) : child.HasWayTo rest := by
  have hbelow : ∀ below, (folder entries).at? (name :: below) = child.at? below := by
    intro below
    rw [at?, child?, hchild]
    rfl
  constructor
  · intro above other below heq
    have hway := h.folders (name :: above) other below (by rw [heq]; rfl)
    simpa only [holdsFolder, hbelow] using hway
  · intro other below
    rw [← hbelow]
    exact h.nothing_below other below

lemma HasWayTo.exists_entries {name : String} {rest : List String}
    (h : tree.HasWayTo (name :: rest)) : ∃ entries, tree = .folder entries := by
  obtain ⟨entries, hentries⟩ := holdsFolder_iff.mp (h.folders [] name rest rfl)
  exact ⟨entries, Option.some.inj hentries⟩

/-- Only the last name of a place to which there is a way can be new. -/
lemma HasWayTo.eq_nil_of_lookup {name : String} {rest : List String}
    {entries : List (String × FileTree)} (h : (folder entries).HasWayTo (name :: rest))
    (hnone : entries.lookup name = none) : rest = [] := by
  by_contra hne
  obtain ⟨second, more, rfl⟩ := List.exists_cons_of_ne_nil hne
  obtain ⟨inside, hinside⟩ := holdsFolder_iff.mp (h.folders [name] second more rfl)
  rw [at?, child?, hnone] at hinside
  cases hinside

/-- An entry with nothing inside changes what stands at its place only. -/
theorem standing?_put (hentry : ∀ name below, entry.at? (name :: below) = none)
    (h : tree.HasWayTo place) (other : List String) :
    (tree.put entry place).standing? other =
      if other = place then some entry.standing else tree.standing? other := by
  induction place generalizing tree other with
  | nil =>
    rw [put]
    cases other with
    | nil => rfl
    | cons name below =>
      have hbelow : tree.at? (name :: below) = none := h.nothing_below name below
      rw [if_neg (List.cons_ne_nil name below), standing?, standing?, hentry, hbelow]
  | cons name rest ih =>
    obtain ⟨entries, rfl⟩ := h.exists_entries
    rw [put]
    cases other with
    | nil => rw [if_neg (by simp)]; rfl
    | cons key below =>
      rw [standing?, standing?, at?, at?, child?, child?, lookup_changeEntry]
      by_cases hkey : key = name
      · subst hkey
        rw [if_pos rfl, Option.bind_some]
        cases hchild : entries.lookup key with
        | some child => simpa [standing?] using ih (h.child hchild) below
        | none =>
          obtain rfl := h.eq_nil_of_lookup hchild
          cases below with
          | nil => simp [put, at?]
          | cons second more => simp [put, hentry]
      · rw [if_neg hkey, if_neg (by simp [hkey])]

lemma changeEntry_congr {name : String} {change change' : Option FileTree → FileTree}
    {entries : List (String × FileTree)}
    (h : change (entries.lookup name) = change' (entries.lookup name)) :
    changeEntry name change entries = changeEntry name change' entries := by
  induction entries with
  | nil => simpa [changeEntry] using h
  | cons head rest ih =>
    obtain ⟨first, inside⟩ := head
    rw [changeEntry, changeEntry]
    by_cases hfirst : first = name
    · subst hfirst
      simpa using h
    · have hname : (name == first) = false := beq_false_of_ne (Ne.symm hfirst)
      rw [List.lookup_cons, hname] at h
      simp only [beq_iff_eq, hfirst, if_false, ih h]

/-- A folder that is made where nothing stands is an empty folder put there. -/
lemma putFolder_eq_put (h : tree.HasWayTo place) (hnone : tree.at? place = none) :
    tree.putFolder place = tree.put empty place := by
  induction place generalizing tree with
  | nil => cases hnone
  | cons name rest ih =>
    obtain ⟨entries, rfl⟩ := h.exists_entries
    rw [putFolder, put]
    congr 1
    apply changeEntry_congr
    cases hchild : entries.lookup name with
    | some child =>
      rw [at?, child?, hchild] at hnone
      exact ih (h.child hchild) hnone
    | none =>
      obtain rfl := h.eq_nil_of_lookup hchild
      rfl

/-- In a folder there is a way to a name under which no other folder and no link stands. -/
lemma hasWayTo_concat {name : String} (hfolder : tree.holdsFolder place = true)
    (hnothing : ∀ other below, tree.at? (place ++ [name] ++ other :: below) = none) :
    tree.HasWayTo (place ++ [name]) where
  folders := by
    intro above other below heq
    obtain ⟨entries, hentries⟩ := holdsFolder_iff.mp hfolder
    -- The names above lead to the folder or through it.
    rcases List.eq_nil_or_concat' below with rfl | ⟨front, last, rfl⟩
    · obtain ⟨rfl, -⟩ := List.append_inj' heq rfl
      exact hfolder
    · have hplace : place = above ++ other :: front := by
        have hsplit : place ++ [name] = (above ++ other :: front) ++ [last] := by simpa using heq
        exact (List.append_inj' hsplit rfl).1
      apply holdsFolder_of_isSome
      rw [← hplace, hentries]
      rfl
  nothing_below := hnothing

/-- Whether no link stands anywhere in a tree. -/
def HasNoLinks (tree : FileTree) : Prop :=
  ∀ place target, tree.standing? place ≠ some (.link target)

lemma hasNoLinks_of_isPlain (h : tree.isPlain = true) : tree.HasNoLinks := by
  intro place target hlink
  rw [standing?] at hlink
  cases hplace : tree.at? place with
  | none => rw [hplace] at hlink; cases hlink
  | some entry =>
    have hentry := (isNamedBy_of_at? h hplace).2
    rw [hplace] at hlink
    cases entry with
    | file content => cases hlink
    | folder entries => cases hlink
    | link target => cases hentry

variable {follow follow' : List String → String → Except AccessError (List String)}

/-- A name leads from a folder where it says if something stands there. -/
lemma walkTo_cons (h : tree.HasNoLinks) (name : String) (rest : List String) :
    tree.walkTo follow place (name :: rest) =
      if tree.holdsFolder place = false then .error .notFolder
      else if (tree.at? (step place name)).isSome then
        tree.walkTo follow (step place name) rest
      else .error .missing := by
  rw [walkTo, step, holdsFolder]
  cases hplace : tree.at? place with
  | none => rfl
  | some entry =>
    cases entry with
    | file content => rfl
    | link target => rfl
    | folder entries =>
      have hlookup : tree.at? (place ++ [name]) = entries.lookup name := by
        rw [at?_append, hplace, Option.bind_some, at?, child?]
        cases entries.lookup name <;> rfl
      simp only [beq_iff_eq, if_false, Bool.true_eq_false]
      by_cases hpoint : name = "."
      · simp [hpoint, hplace]
      · by_cases hpoints : name = ".."
        · have habove : (tree.at? place.dropLast).isSome :=
            isSome_at?_dropLast (by rw [hplace]; rfl)
          simp [hpoints, habove]
        · simp only [hpoint, hpoints, if_false, hlookup]
          cases hchild : entries.lookup name with
          | none => rfl
          | some child =>
            cases child with
            | file content => rfl
            | folder inside => rfl
            | link target =>
              have hlink : tree.standing? (place ++ [name]) = some (.link target) := by
                rw [standing?, hlookup, hchild]
                rfl
              exact absurd hlink (h _ _)

/-- Names lead where they say if they lead anywhere. -/
lemma walkTo_eq_ok (h : tree.HasNoLinks) {names found : List String}
    (hwalk : tree.walkTo follow place names = .ok found) : found = names.foldl step place := by
  induction names generalizing place with
  | nil =>
    rw [walkTo] at hwalk
    exact (Except.ok.inj hwalk).symm
  | cons name rest ih =>
    rw [walkTo_cons h] at hwalk
    split_ifs at hwalk
    exact ih hwalk

/-- Names lead to the same place in every tree in which as much stands. -/
lemma walkTo_of_standing (h : tree.HasNoLinks) (hnext : next.HasNoLinks)
    (hfolders : ∀ place, tree.holdsFolder place = true → next.holdsFolder place = true)
    (hstands : ∀ place, (tree.at? place).isSome → (next.at? place).isSome)
    {names found : List String} (hwalk : tree.walkTo follow place names = .ok found) :
    next.walkTo follow' place names = .ok found := by
  induction names generalizing place with
  | nil => exact hwalk
  | cons name rest ih =>
    rw [walkTo_cons h] at hwalk
    rw [walkTo_cons hnext]
    split_ifs at hwalk with hfolder hthere
    rw [Bool.not_eq_false] at hfolder
    rw [if_neg (by rw [hfolders _ hfolder]; simp), if_pos (hstands _ hthere)]
    exact ih hwalk

/-- The names of a place where something stands lead there. -/
lemma walkTo_of_isSome (h : tree.HasNoLinks) {names : List String}
    (hnames : ∀ name ∈ names, isSegment name = true) (hsome : (tree.at? (place ++ names)).isSome) :
    tree.walkTo follow place names = .ok (place ++ names) := by
  induction names generalizing place with
  | nil => rw [walkTo, List.append_nil]
  | cons name rest ih =>
    have hfolder : tree.holdsFolder place = true := holdsFolder_of_isSome hsome
    have hstep := step_of_isSegment (hnames name List.mem_cons_self) place
    rw [← List.singleton_append, ← List.append_assoc] at hsome
    have hthere : (tree.at? (place ++ [name])).isSome := by
      rw [at?_append] at hsome
      cases hname : tree.at? (place ++ [name]) with
      | none => simp [hname] at hsome
      | some entry => rfl
    rw [walkTo_cons h, hfolder, hstep, if_neg (by simp), if_pos hthere,
      ih (fun other hmem => hnames other (List.mem_cons_of_mem name hmem)) hsome]
    simp

lemma isSome_of_holdsFolder (h : tree.holdsFolder place = true) : (tree.at? place).isSome := by
  obtain ⟨entries, hentries⟩ := holdsFolder_iff.mp h
  rw [hentries]
  rfl

lemma holdsFolder_nil_of_holdsFolder (h : tree.holdsFolder place = true) :
    tree.holdsFolder [] = true := by
  cases place with
  | nil => exact h
  | cons name rest =>
    have hsome : (tree.at? ([] ++ name :: rest)).isSome := isSome_of_holdsFolder h
    exact holdsFolder_of_isSome hsome

lemma resolve_of_walkTo {path : String} (absolute : isAbsolute path = true)
    (hwalk : tree.walkTo tree.follow [] (components path) = .ok place) :
    tree.resolve path =
      if namesFolder path && !tree.holdsFolder place then .error .notFolder else .ok place := by
  rw [resolve, resolveWith_linkLimit, walkPath, absolute, if_pos rfl, hwalk]

lemma resolve_of_walkTo_error {path : String} (absolute : isAbsolute path = true) {e : AccessError}
    (hwalk : tree.walkTo tree.follow [] (components path) = .error e) :
    tree.resolve path = .error e := by
  rw [resolve, resolveWith_linkLimit, walkPath, absolute, if_pos rfl, hwalk]

/-- Whether a tree becomes another one when folders are made at places where nothing stood. -/
structure MakesFolders (tree next : FileTree) (places : List (List String)) : Prop where
  new : ∀ made ∈ places, tree.at? made = none
  standing : ∀ place,
    next.standing? place = if place ∈ places then some .folder else tree.standing? place

namespace MakesFolders

variable {last : FileTree} {places more : List (List String)}

lemma refl (tree : FileTree) : MakesFolders tree tree [] :=
  ⟨by simp, by simp⟩

lemma trans (h : MakesFolders tree next places) (hmore : MakesFolders next last more) :
    MakesFolders tree last (places ++ more) where
  new := by
    intro made hmade
    rcases List.mem_append.mp hmade with hplaces | hlater
    · exact h.new made hplaces
    · have hnext := h.standing made
      rw [standing?_eq_none_iff.mpr (hmore.new made hlater)] at hnext
      split_ifs at hnext
      exact standing?_eq_none_iff.mp hnext.symm
  standing := by
    intro place
    rw [hmore.standing, h.standing]
    by_cases hplaces : place ∈ places
    · simp [hplaces]
    · simp [hplaces]

/-- What stood before still stands there. -/
lemma standing?_eq (h : MakesFolders tree next places) (hplace : (tree.at? place).isSome) :
    next.standing? place = tree.standing? place := by
  rw [h.standing, if_neg]
  intro hmem
  rw [h.new place hmem] at hplace
  cases hplace

lemma hasNoLinks (h : MakesFolders tree next places) (hlinks : tree.HasNoLinks) :
    next.HasNoLinks := by
  intro place target hlink
  rw [h.standing] at hlink
  split_ifs at hlink
  · cases hlink
  · exact hlinks place target hlink

lemma putFolder {name : String} (hfolder : tree.holdsFolder place = true)
    (hnone : tree.at? (place ++ [name]) = none) :
    MakesFolders tree (tree.putFolder (place ++ [name])) [place ++ [name]] := by
  have hway : tree.HasWayTo (place ++ [name]) := by
    apply hasWayTo_concat hfolder
    intro other below
    rw [at?_append, hnone, Option.bind_none]
  constructor
  · intro made hmade
    rwa [List.mem_singleton.mp hmade]
  · intro other
    rw [putFolder_eq_put hway hnone, standing?_put (fun _ _ => rfl) hway]
    simp only [List.mem_singleton]
    rfl

end MakesFolders

/-- Folders are made where the first of the names lead, and nowhere else. -/
lemma makesFolders_makeFoldersFrom (h : tree.HasNoLinks) (made : Bool)
    (hfolder : tree.holdsFolder place = true) (names : List String) :
    ∃ places, MakesFolders tree (makeFoldersFrom made place names tree).1 places ∧
      ∀ new ∈ places, ∃ above, above <+: names ∧ new = above.foldl step place := by
  induction names generalizing made place tree with
  | nil => exact ⟨[], .refl tree, by simp⟩
  | cons name rest ih =>
    rw [makeFoldersFrom, walkTo_cons h, hfolder, if_neg (by simp)]
    by_cases hthere : (tree.at? (step place name)).isSome
    · -- the name leads somewhere, and the rest goes on from there if it is a folder
      rw [if_pos hthere, walkTo]
      by_cases hnext : tree.holdsFolder (step place name) = true
      · simp only [hnext, Bool.not_true, Bool.and_false, Bool.false_eq_true, if_false]
        obtain ⟨places, hmakes, hplaces⟩ := ih h made hnext
        refine ⟨places, hmakes, fun new hnew => ?_⟩
        obtain ⟨above, habove, rfl⟩ := hplaces new hnew
        exact ⟨name :: above, List.cons_prefix_cons.mpr ⟨rfl, habove⟩, rfl⟩
      · refine ⟨[], ?_, by simp⟩
        cases rest with
        | nil => exact .refl tree
        | cons second more => simpa [hnext] using MakesFolders.refl tree
    · -- a name that leads nowhere is that of a new folder
      rw [if_neg hthere]
      have hname : step place name = place ++ [name] := by
        rw [step] at hthere ⊢
        split_ifs at hthere ⊢ with hpoint hpoints
        · obtain ⟨entries, hentries⟩ := holdsFolder_iff.mp hfolder
          simp [hentries] at hthere
        · obtain ⟨entries, hentries⟩ := holdsFolder_iff.mp hfolder
          exact absurd (isSome_at?_dropLast (by rw [hentries]; rfl)) hthere
        · rfl
      have hnone : tree.at? (place ++ [name]) = none := by
        rw [hname, Option.not_isSome_iff_eq_none] at hthere
        exact hthere
      have hmakes := MakesFolders.putFolder hfolder hnone
      simp only [hnone, Option.isSome_none, Bool.false_eq_true, if_false]
      have hinside : (tree.putFolder (place ++ [name])).holdsFolder (place ++ [name]) = true := by
        rw [← standing?_eq_folder_iff, hmakes.standing]
        simp
      obtain ⟨places, hlater, hplaces⟩ := ih (hmakes.hasNoLinks h) true hinside
      refine ⟨[place ++ [name]] ++ places, hmakes.trans hlater, fun new hnew => ?_⟩
      rcases List.mem_cons.mp hnew with rfl | hnew
      · exact ⟨[name], List.cons_prefix_cons.mpr ⟨rfl, List.nil_prefix⟩, hname.symm⟩
      · obtain ⟨above, habove, rfl⟩ := hplaces new hnew
        exact ⟨name :: above, List.cons_prefix_cons.mpr ⟨rfl, habove⟩, by
          rw [List.foldl_cons, hname]⟩

/-- In a tree that is no folder no folders are made. -/
lemma makeFoldersFrom_of_not_holdsFolder (h : tree.HasNoLinks) (hroot : tree.holdsFolder [] = false)
    (made : Bool) (place names : List String) :
    (makeFoldersFrom made place names tree).1 = tree := by
  have hnone : ∀ name below, tree.at? (name :: below) = none := by
    intro name below
    rw [← Option.not_isSome_iff_eq_none]
    intro hsome
    have hfolder : tree.holdsFolder [] = true := holdsFolder_of_isSome hsome
    rw [hroot] at hfolder
    cases hfolder
  induction names generalizing made place with
  | nil => rfl
  | cons name rest ih =>
    have hplace : tree.holdsFolder place = false := by
      cases place with
      | nil => exact hroot
      | cons first below => rw [holdsFolder, hnone]
    obtain ⟨first, below, hbelow⟩ := List.exists_cons_of_ne_nil (List.concat_ne_nil name place)
    have hput : tree.putFolder (place ++ [name]) = tree := by
      rw [hbelow]
      cases tree with
      | folder entries => cases hroot
      | file content => rfl
      | link target => rfl
    rw [makeFoldersFrom, walkTo_cons h, if_pos hplace]
    simp only [hbelow, hnone, Option.isSome_none, Bool.false_eq_true, if_false]
    rw [← hbelow, hput]
    exact ih true _

/-- Folders are made where ancestors of a path lead, and nowhere else. -/
theorem makesFolders_makeFolders (h : tree.HasNoLinks) (path : String) :
    ∃ places, MakesFolders tree (tree.makeFolders path).1 places ∧
      ∀ new ∈ places, ∃ above, above <+: components path ∧ new = above.foldl step [] := by
  rw [makeFolders]
  cases hroot : tree.holdsFolder [] with
  | true => exact makesFolders_makeFoldersFrom h false hroot _
  | false =>
    rw [makeFoldersFrom_of_not_holdsFolder h hroot]
    exact ⟨[], .refl tree, by simp⟩

/-! ### Writing a file -/

/-- A path that does not end in points ends in a name. -/
lemma exists_components_concat {path : String} (absolute : isAbsolute path = true)
    (hends : endsInPoints path = false) :
    ∃ above name, components path = above ++ [name] ∧ isSegment name = true := by
  rw [endsInPoints] at hends
  cases hlast : ((Text.splitAt '/' path.toList).filter (!·.isEmpty)).getLast? with
  | none => rw [hlast] at hends; cases hends
  | some piece =>
    rw [hlast] at hends
    have hnoPoints : (piece == ['.'] || piece == ['.', '.']) = false := hends
    obtain ⟨front, hfront⟩ := List.getLast?_eq_some_iff.mp hlast
    obtain ⟨-, hnotEmpty⟩ := List.mem_filter.mp (List.mem_of_getLast? hlast)
    have hcounts : counts piece = true := by
      rw [counts_iff]
      constructor
      · simpa using hnotEmpty
      · rintro rfl
        cases hnoPoints
    have hfilter : (Text.splitAt '/' path.toList).filter counts =
        front.filter counts ++ [piece] := by
      have htwice : (Text.splitAt '/' path.toList).filter counts =
          ((Text.splitAt '/' path.toList).filter (!·.isEmpty)).filter counts := by
        rw [List.filter_filter]
        apply List.filter_congr
        intro other _
        cases other <;> simp [counts]
      rw [htwice, hfront, List.filter_append]
      simp [hcounts]
    have hcomponents : components path =
        (front.filter counts).map String.ofList ++ [String.ofList piece] := by
      rw [components_of_isAbsolute absolute, hfilter, List.map_append]
      rfl
    refine ⟨_, _, hcomponents, ?_⟩
    have hcomponent : IsComponent (String.ofList piece) :=
      isComponent_of_mem_components absolute (by rw [hcomponents]; simp)
    apply hcomponent.isSegment
    intro hpoints
    obtain rfl : piece = ['.', '.'] := by
      rw [← String.toList_ofList (l := piece), hpoints]
      rfl
    cases hnoPoints

/-- Whether a tree becomes another one when a file is written at a place. -/
structure IsWritten (tree next : FileTree) (place : List String) (content : ByteArray) : Prop where
  standing : ∀ other, next.standing? other =
    if other = place then some (.file content) else tree.standing? other
  replaces : ∀ old, tree.standing? place = some old → ∃ content, old = .file content

namespace IsWritten

variable {content : ByteArray}

lemma hasNoLinks (h : IsWritten tree next place content) (hlinks : tree.HasNoLinks) :
    next.HasNoLinks := by
  intro other target hlink
  rw [h.standing] at hlink
  split_ifs at hlink
  · cases hlink
  · exact hlinks other target hlink

lemma holdsFolder (h : IsWritten tree next place content) (hother : tree.holdsFolder other = true) :
    next.holdsFolder other = true := by
  rw [← standing?_eq_folder_iff] at hother ⊢
  rw [h.standing, if_neg]
  · exact hother
  · rintro rfl
    obtain ⟨old, hold⟩ := h.replaces _ hother
    cases hold

lemma isSome (h : IsWritten tree next place content) (hother : (tree.at? other).isSome) :
    (next.at? other).isSome := by
  rw [← isSome_standing?] at hother ⊢
  rw [h.standing]
  split_ifs
  · rfl
  · exact hother

lemma at?_eq (h : IsWritten tree next place content) : next.at? place = some (.file content) := by
  rw [← standing?_eq_file_iff, h.standing, if_pos rfl]

lemma put {name : String} (hfolder : tree.holdsFolder place = true)
    (hreplaces : ∀ old, tree.standing? (place ++ [name]) = some old → ∃ content, old = .file content)
    (content : ByteArray) :
    IsWritten tree (tree.put (.file content) (place ++ [name])) (place ++ [name]) content := by
  have hway : tree.HasWayTo (place ++ [name]) := by
    apply hasWayTo_concat hfolder
    intro other below
    rw [← Option.not_isSome_iff_eq_none]
    intro hsome
    obtain ⟨old, hold⟩ := hreplaces _ (standing?_eq_folder_iff.mpr (holdsFolder_of_isSome hsome))
    cases hold
  exact ⟨fun other => standing?_put (fun _ _ => rfl) hway other, hreplaces⟩

end IsWritten

/-- A file is written in a folder that is there, under the last name of its path. -/
lemma write_eq_ok {path : String} {content : ByteArray} (h : tree.HasNoLinks)
    (absolute : isAbsolute path = true) (hwrite : tree.write path content = .ok next) :
    ∃ above name, components path = above ++ [name] ∧ isSegment name = true ∧
      namesFolder path = false ∧
      tree.walkTo tree.follow [] above = .ok (above.foldl step []) ∧
      tree.IsWritten next (above.foldl step [] ++ [name]) content := by
  have hby : writePlaceWith tree linkLimit [] path =
      tree.writePlaceBy (writePlaceWith tree (linkLimit - 1)) [] path := rfl
  rw [write, hby, writePlaceBy] at hwrite
  simp only [absolute, if_true, bind, Except.bind, pure, Except.pure, throw, throwThe,
    MonadExceptOf.throw] at hwrite
  cases hends : endsInPoints path with
  | true =>
    rw [hends, if_pos rfl] at hwrite
    cases hresolve : tree.resolveWith linkLimit [] path <;> rw [hresolve] at hwrite <;> cases hwrite
  | false =>
    obtain ⟨above, name, hcomponents, hname⟩ := exists_components_concat absolute hends
    rw [hends, if_neg Bool.false_ne_true, hcomponents, List.dropLast_concat,
      List.getLastD_concat] at hwrite
    cases hwalk : tree.walkTo (tree.resolveWith linkLimit) [] above with
    | error e => rw [hwalk] at hwrite; cases hwrite
    | ok folder =>
      obtain rfl := walkTo_eq_ok h hwalk
      have hwalk' : tree.walkTo tree.follow [] above = .ok (above.foldl step []) :=
        walkTo_of_standing h h (fun _ h => h) (fun _ h => h) hwalk
      simp only [hwalk] at hwrite
      cases hfolder : tree.holdsFolder (above.foldl step []) with
      | false =>
        simp only [hfolder, Bool.not_false, if_true, Except.map] at hwrite
        cases hwrite
      | true =>
        cases hnames : namesFolder path with
        | true =>
          simp only [hfolder, hnames, Bool.not_true, Bool.false_eq_true, if_false, if_true,
            Except.map] at hwrite
          cases hwrite
        | false =>
          refine ⟨above, name, hcomponents, hname, rfl, hwalk', ?_⟩
          simp only [hfolder, hnames, Bool.not_true, Bool.false_eq_true, if_false] at hwrite
          have hput : ∀ place, Except.map (fun place => tree.put (.file content) place)
              (.ok place : Except AccessError (List String)) = .ok next →
              tree.put (.file content) place = next := fun _ heq => Except.ok.inj heq
          split at hwrite
          · cases hwrite
          · next target hlink =>
            refine absurd ?_ (h (above.foldl step [] ++ [name]) target)
            rw [standing?, hlink]
            rfl
          · next hother hnoFolder hnoLink =>
            obtain rfl := hput _ hwrite
            apply IsWritten.put hfolder
            intro old hold
            rw [standing?] at hold
            cases hplace : tree.at? (above.foldl step [] ++ [name]) with
            | none => rw [hplace] at hold; cases hold
            | some entry =>
              rw [hplace] at hold
              cases entry with
              | file content => exact ⟨content, (Option.some.inj hold).symm⟩
              | folder entries => exact absurd hplace (hnoFolder entries)
              | link target => exact absurd hplace (hnoLink target)

/-- The path of a file that is written leads to it. -/
theorem isWritten_of_write {path : String} {content : ByteArray} (h : tree.HasNoLinks)
    (absolute : isAbsolute path = true) (hwrite : tree.write path content = .ok next) :
    tree.IsWritten next (destination [] path) content ∧
      next.resolve path = .ok (destination [] path) := by
  obtain ⟨above, name, hcomponents, hname, hnames, hwalk, hwritten⟩ :=
    write_eq_ok h absolute hwrite
  have hstep : step (above.foldl step []) name = above.foldl step [] ++ [name] :=
    step_of_isSegment hname _
  have hplace : destination [] path = above.foldl step [] ++ [name] := by
    rw [destination, ite_self, hcomponents, List.foldl_concat, hstep]
  have hlinks := hwritten.hasNoLinks h
  have hsome : (next.at? (above.foldl step [] ++ [name])).isSome := by
    rw [hwritten.at?_eq]
    rfl
  have hend : next.walkTo next.follow [] (components path) = .ok (destination [] path) := by
    rw [hcomponents, walkTo_append, walkTo_of_standing h hlinks (fun _ => hwritten.holdsFolder)
      (fun _ => hwritten.isSome) hwalk]
    change next.walkTo next.follow (above.foldl step []) [name] = _
    rw [walkTo_cons hlinks, holdsFolder_of_isSome hsome, hstep, if_neg (by simp), if_pos hsome,
      hplace]
    rfl
  refine ⟨hplace ▸ hwritten, ?_⟩
  rw [resolve, resolveWith_linkLimit, walkPath, absolute, if_pos rfl, hend, hnames]
  rfl

end GapAudit.FileTree
