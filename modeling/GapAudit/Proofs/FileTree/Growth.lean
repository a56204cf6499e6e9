import Mathlib.Data.List.Infix
import GapAudit.FileTree.Change
import GapAudit.Walk

/-!
# Trees that grow

A tree is part of another one if everything that stands in it stands in the other as it is: files
with their contents, links with their targets, folders with at least their entries. A tree becomes
part of a larger one when a file is put where nothing stands (`isPartOf_put`). Whatever a path leads
to is still there in the larger tree (`exists_entry?`), and a walk finds at least the same files
(`Walk.collect_subset`), also through links.
-/

namespace GapAudit

namespace FileTree

mutual

/-- Whether everything that stands in a tree stands in another one as it is. -/
def IsPartOf : FileTree → FileTree → Prop
  | .file content, more => more = .file content
  | .link target, more => more = .link target
  | .folder entries, more => ∃ others, more = .folder others ∧ ArePartOf entries others

/-- Whether every one of several entries stands, with all that is in it, under its name among other
entries. -/
def ArePartOf : List (String × FileTree) → List (String × FileTree) → Prop
  | [], _ => True
  | (name, entry) :: rest, others =>
    ∃ before other after, others = before ++ (name, other) :: after ∧
      name ∉ before.map (·.1) ∧ IsPartOf entry other ∧ ArePartOf rest (before ++ after)

end

lemma ArePartOf.cons {name : String} {entry other : FileTree}
    {rest others : List (String × FileTree)} (hentry : entry.IsPartOf other)
    (hrest : ArePartOf rest others) :
    ArePartOf ((name, entry) :: rest) ((name, other) :: others) := by
  rw [ArePartOf]
  exact ⟨[], other, others, rfl, List.not_mem_nil, hentry, hrest⟩

mutual

lemma IsPartOf.refl : (tree : FileTree) → tree.IsPartOf tree
  | .file _ => by rw [IsPartOf]
  | .link _ => by rw [IsPartOf]
  | .folder entries => by
    rw [IsPartOf]
    exact ⟨entries, rfl, ArePartOf.refl entries⟩

lemma ArePartOf.refl : (entries : List (String × FileTree)) → ArePartOf entries entries
  | [] => by rw [ArePartOf]; trivial
  | (_, entry) :: rest => .cons (IsPartOf.refl entry) (ArePartOf.refl rest)

end

/-- Without one of several entries the others still stand among what is left. -/
lemma ArePartOf.exists_of_middle {name : String} {entry : FileTree}
    {before after others : List (String × FileTree)}
    (h : ArePartOf (before ++ (name, entry) :: after) others) (hnew : name ∉ before.map (·.1)) :
    ∃ front other back, others = front ++ (name, other) :: back ∧ name ∉ front.map (·.1) ∧
      entry.IsPartOf other ∧ ArePartOf (before ++ after) (front ++ back) := by
  induction before generalizing others with
  | nil =>
    rw [List.nil_append, ArePartOf] at h
    exact h
  | cons head before ih =>
    obtain ⟨key, first⟩ := head
    obtain ⟨hkey, hrest⟩ : name ≠ key ∧ name ∉ before.map (·.1) := by simpa using hnew
    rw [List.cons_append, ArePartOf] at h
    obtain ⟨left, other, right, rfl, hleft, hfirst, hmore⟩ := h
    obtain ⟨front, found, back, heq, hfront, hentry, hothers⟩ := ih hmore hrest
    -- The entry stands on one side of the first one or on the other.
    rcases List.append_eq_append_iff.mp heq with ⟨middle, rfl, rfl⟩ | ⟨middle, rfl, hback⟩
    · refine ⟨left ++ (key, other) :: middle, found, back, by simp, ?_, hentry, ?_⟩
      · simpa [hkey] using hfront
      · rw [List.cons_append, ArePartOf]
        exact ⟨left, other, middle ++ back, by simp, hleft, hfirst, by simpa using hothers⟩
    · cases middle with
      | nil =>
        obtain rfl : (name, found) :: back = right := by simpa using hback
        refine ⟨front ++ [(key, other)], found, back, by simp, ?_, hentry, ?_⟩
        · simpa [hkey] using hfront
        · rw [List.cons_append, ArePartOf]
          refine ⟨front, other, back, by simp, ?_, hfirst, hothers⟩
          simpa using hleft
      | cons head middle =>
        obtain ⟨rfl, rfl⟩ := List.cons.inj hback
        refine ⟨front, found, middle ++ (key, other) :: right, by simp, hfront, hentry, ?_⟩
        rw [List.cons_append, ArePartOf]
        refine ⟨front ++ middle, other, right, by simp, ?_, hfirst, by simpa using hothers⟩
        simp only [List.map_append, List.map_cons, List.mem_append, List.mem_cons, not_or] at hleft ⊢
        exact ⟨hleft.1, hleft.2.2⟩

mutual

lemma IsPartOf.trans : (tree : FileTree) → {more most : FileTree} → tree.IsPartOf more →
    more.IsPartOf most → tree.IsPartOf most
  | .file _, _, _, h, hmore => by
    rw [IsPartOf] at h
    exact h ▸ hmore
  | .link _, _, _, h, hmore => by
    rw [IsPartOf] at h
    exact h ▸ hmore
  | .folder entries, _, _, h, hmore => by
    rw [IsPartOf] at h
    obtain ⟨others, rfl, hentries⟩ := h
    rw [IsPartOf] at hmore
    obtain ⟨most, rfl, hothers⟩ := hmore
    rw [IsPartOf]
    exact ⟨most, rfl, ArePartOf.trans entries hentries hothers⟩

lemma ArePartOf.trans : (entries : List (String × FileTree)) →
    {others most : List (String × FileTree)} → ArePartOf entries others →
      ArePartOf others most → ArePartOf entries most
  | [], _, _, _, _ => by rw [ArePartOf]; trivial
  | (_, entry) :: rest, _, _, h, hothers => by
    rw [ArePartOf] at h
    obtain ⟨before, other, after, rfl, hnew, hentry, hrest⟩ := h
    obtain ⟨front, found, back, rfl, hfront, hfound, hmore⟩ := hothers.exists_of_middle hnew
    rw [ArePartOf]
    exact ⟨front, found, back, rfl, hfront, IsPartOf.trans entry hentry hfound,
      ArePartOf.trans rest hrest hmore⟩

end

lemma arePartOf_changeEntry {name : String} {change : Option FileTree → FileTree}
    {entries : List (String × FileTree)}
    (h : ∀ entry, entries.lookup name = some entry → entry.IsPartOf (change (some entry))) :
    ArePartOf entries (changeEntry name change entries) := by
  induction entries with
  | nil => rw [ArePartOf]; trivial
  | cons head rest ih =>
    obtain ⟨key, entry⟩ := head
    rw [changeEntry]
    by_cases hkey : key = name
    · subst hkey
      rw [if_pos (beq_self_eq_true _)]
      exact .cons (h entry (by simp)) (ArePartOf.refl rest)
    · have hne : (name == key) = false := beq_false_of_ne (Ne.symm hkey)
      rw [if_neg (by simpa using hkey)]
      refine .cons (IsPartOf.refl entry) (ih fun child hchild => h child ?_)
      rw [List.lookup_cons, hne]
      exact hchild

/-- Whether something can be added at a place: nothing stands there, and only folders on the way. -/
def HasRoomAt (tree : FileTree) (place : List String) : Prop :=
  tree.at? place = none ∧
    ∀ above, above <+: place → tree.at? above = none ∨ tree.holdsFolder above = true

instance (tree : FileTree) (place : List String) : Decidable (tree.HasRoomAt place) :=
  decidable_of_iff (tree.at? place = none ∧
      ∀ above ∈ place.inits, tree.at? above = none ∨ tree.holdsFolder above = true) <| by
    simp only [HasRoomAt, List.mem_inits]

lemma HasRoomAt.child {name : String} {rest : List String} {entries : List (String × FileTree)}
    {child : FileTree} (h : (folder entries).HasRoomAt (name :: rest))
    (hchild : entries.lookup name = some child) : child.HasRoomAt rest := by
  have hbelow : ∀ above, (folder entries).at? (name :: above) = child.at? above := by
    intro above
    rw [at?, child?, hchild]
    rfl
  refine ⟨(hbelow rest).symm.trans h.1, fun above habove => ?_⟩
  have hway := h.2 (name :: above) (List.cons_prefix_cons.mpr ⟨rfl, habove⟩)
  simpa only [holdsFolder, hbelow] using hway

/-- A tree is part of what it becomes when something is put where nothing stands. -/
theorem isPartOf_put {tree : FileTree} {place : List String} (entry : FileTree)
    (h : tree.HasRoomAt place) : tree.IsPartOf (tree.put entry place) := by
  induction place generalizing tree with
  | nil => cases h.1
  | cons name rest ih =>
    cases tree with
    | file content => simpa [at?, holdsFolder] using h.2 [] List.nil_prefix
    | link target => simpa [at?, holdsFolder] using h.2 [] List.nil_prefix
    | folder entries =>
      rw [put, IsPartOf]
      refine ⟨_, rfl, arePartOf_changeEntry fun child hchild => ?_⟩
      exact ih (h.child hchild)

/-! ### Look-ups -/

lemma ArePartOf.exists_lookup {name : String} {entry : FileTree}
    {entries others : List (String × FileTree)} (h : ArePartOf entries others)
    (hlookup : entries.lookup name = some entry) :
    ∃ other, others.lookup name = some other ∧ entry.IsPartOf other := by
  induction entries generalizing others with
  | nil => simp at hlookup
  | cons head rest ih =>
    obtain ⟨key, first⟩ := head
    rw [ArePartOf] at h
    obtain ⟨before, other, after, rfl, hnew, hfirst, hrest⟩ := h
    rw [List.lookup_cons] at hlookup
    split at hlookup
    · next heq =>
      obtain rfl := beq_iff_eq.mp heq
      cases hlookup
      refine ⟨other, List.lookup_eq_some_iff.mpr ⟨before, after, rfl, ?_⟩, hfirst⟩
      intro earlier hearlier
      refine bne_iff_ne.mpr fun heq => hnew ?_
      exact List.mem_map.mpr ⟨earlier, hearlier, heq.symm⟩
    · next hne =>
      obtain ⟨found, hfound, hpart⟩ := ih hrest hlookup
      refine ⟨found, ?_, hpart⟩
      rw [List.lookup_append] at hfound ⊢
      rw [List.lookup_cons, hne]
      exact hfound

lemma exists_at? {tree more entry : FileTree} {place : List String} (h : tree.IsPartOf more)
    (hplace : tree.at? place = some entry) :
    ∃ other, more.at? place = some other ∧ entry.IsPartOf other := by
  induction place generalizing tree more with
  | nil =>
    obtain rfl : tree = entry := Option.some.inj hplace
    exact ⟨more, rfl, h⟩
  | cons name rest ih =>
    obtain ⟨entries, child, rfl, hchild, hrest⟩ := at?_cons_eq_some_iff.mp hplace
    rw [IsPartOf] at h
    obtain ⟨others, rfl, hentries⟩ := h
    obtain ⟨other, hother, hpart⟩ := hentries.exists_lookup hchild
    obtain ⟨found, hfound, hbelow⟩ := ih hpart hrest
    exact ⟨found, at?_cons_eq_some_iff.mpr ⟨others, other, rfl, hother, hfound⟩, hbelow⟩

section

variable {tree more : FileTree}

lemma exists_folder_at? {place : List String} {entries : List (String × FileTree)}
    (h : tree.IsPartOf more) (hplace : tree.at? place = some (.folder entries)) :
    ∃ others, more.at? place = some (.folder others) ∧ ArePartOf entries others := by
  obtain ⟨other, hother, hpart⟩ := exists_at? h hplace
  rw [IsPartOf] at hpart
  obtain ⟨others, rfl, hentries⟩ := hpart
  exact ⟨others, hother, hentries⟩

lemma file_at? {place : List String} {content : ByteArray} (h : tree.IsPartOf more)
    (hplace : tree.at? place = some (.file content)) : more.at? place = some (.file content) := by
  obtain ⟨other, hother, hpart⟩ := exists_at? h hplace
  rw [IsPartOf] at hpart
  rw [hother, hpart]

lemma holdsFolder_of_isPartOf {place : List String} (h : tree.IsPartOf more)
    (hfolder : tree.holdsFolder place = true) : more.holdsFolder place = true := by
  rw [holdsFolder] at hfolder
  split at hfolder
  · next entries hplace =>
    obtain ⟨others, hothers, -⟩ := exists_folder_at? h hplace
    rw [holdsFolder, hothers]
  · cases hfolder

/-- Whether links that lead somewhere in one way of following them lead to the same place in another
way. -/
def Agrees (follow follow' : List String → String → Except AccessError (List String)) : Prop :=
  ∀ place target place', follow place target = .ok place' → follow' place target = .ok place'

lemma walkTo_of_isPartOf {follow follow' : List String → String → Except AccessError (List String)}
    (h : tree.IsPartOf more) (hfollow : Agrees follow follow') {place components found : List String}
    (hwalk : tree.walkTo follow place components = .ok found) :
    more.walkTo follow' place components = .ok found := by
  induction components generalizing place with
  | nil => exact hwalk
  | cons name rest ih =>
    rw [walkTo] at hwalk
    split at hwalk
    · next entries hentries =>
      obtain ⟨others, hothers, hpart⟩ := exists_folder_at? h hentries
      rw [walkTo, hothers]
      by_cases hpoint : (name == ".") = true
      · simp only [hpoint, if_true] at hwalk ⊢
        exact ih hwalk
      by_cases hpoints : (name == "..") = true
      · simp only [hpoint, hpoints, if_true] at hwalk ⊢
        exact ih hwalk
      simp only [hpoint, hpoints] at hwalk ⊢
      cases hlookup : entries.lookup name with
      | none =>
        rw [hlookup] at hwalk
        cases hwalk
      | some entry =>
        obtain ⟨other, hother, hentry⟩ := hpart.exists_lookup hlookup
        rw [hlookup] at hwalk
        rw [hother]
        cases entry with
        | link target =>
          rw [IsPartOf] at hentry
          subst hentry
          cases hlink : follow place target with
          | error e => simp [hlink] at hwalk
          | ok next =>
            simp only [hlink] at hwalk
            simp only [hfollow _ _ _ hlink]
            exact ih hwalk
        | file content =>
          rw [IsPartOf] at hentry
          subst hentry
          exact ih hwalk
        | folder inside =>
          rw [IsPartOf] at hentry
          obtain ⟨insideOther, rfl, -⟩ := hentry
          exact ih hwalk
    · cases hwalk

lemma walkPath_of_isPartOf
    {follow follow' : List String → String → Except AccessError (List String)}
    (h : tree.IsPartOf more) (hfollow : Agrees follow follow') :
    Agrees (tree.walkPath follow) (more.walkPath follow') := by
  intro place path found hwalk
  rw [walkPath] at hwalk
  split at hwalk
  · next reached hreached =>
    rw [walkPath, walkTo_of_isPartOf h hfollow hreached]
    split at hwalk
    · cases hwalk
    · next hfolder =>
      obtain rfl := Except.ok.inj hwalk
      refine if_neg fun hnames => hfolder ?_
      simp only [Bool.and_eq_true, Bool.not_eq_true'] at hnames ⊢
      refine ⟨hnames.1, Bool.eq_false_iff.mpr fun hholds => ?_⟩
      rw [holdsFolder_of_isPartOf h hholds] at hnames
      cases hnames.2
  · cases hwalk

lemma resolveWith_of_isPartOf (h : tree.IsPartOf more) (links : Nat) :
    Agrees (tree.resolveWith links) (more.resolveWith links) := by
  induction links with
  | zero => exact walkPath_of_isPartOf h fun _ _ _ hnone => by cases hnone
  | succ links ih => exact walkPath_of_isPartOf h ih

lemma resolve_of_isPartOf (h : tree.IsPartOf more) {path : String} {place : List String}
    (hpath : tree.resolve path = .ok place) : more.resolve path = .ok place :=
  resolveWith_of_isPartOf h linkLimit [] path place hpath

/-- What a path leads to is part of what it leads to in a larger tree. -/
theorem exists_entry? (h : tree.IsPartOf more) {path : String} {entry : FileTree}
    (hpath : tree.entry? path = some entry) :
    ∃ other, more.entry? path = some other ∧ entry.IsPartOf other := by
  unfold entry? at hpath ⊢
  obtain ⟨place, hplace, hentry⟩ := Option.bind_eq_some_iff.mp hpath
  cases hresolve : tree.resolve path with
  | error e =>
    rw [hresolve] at hplace
    cases hplace
  | ok reached =>
    rw [hresolve] at hplace
    cases hplace
    obtain ⟨other, hother, hpart⟩ := exists_at? h hentry
    refine ⟨other, ?_, hpart⟩
    rw [resolve_of_isPartOf h hresolve]
    exact hother

lemma text?_of_isPartOf (h : tree.IsPartOf more) {path text : String}
    (htext : tree.text? path = some text) : more.text? path = some text := by
  rw [text?, Option.bind_eq_some_iff] at htext
  obtain ⟨content, hbytes, hread⟩ := htext
  rw [bytes?] at hbytes
  split at hbytes
  · next content' hentry =>
    obtain ⟨other, hother, hpart⟩ := exists_entry? h hentry
    rw [IsPartOf] at hpart
    cases hbytes
    rw [text?, bytes?, hother, hpart]
    exact hread
  · cases hbytes

end

lemma sizeAll_append (entries others : List (String × FileTree)) :
    sizeAll (entries ++ others) = sizeAll entries + sizeAll others := by
  induction entries with
  | nil => rw [List.nil_append, sizeAll, Nat.zero_add]
  | cons head rest ih =>
    obtain ⟨name, entry⟩ := head
    rw [List.cons_append, sizeAll, sizeAll, ih, Nat.add_assoc]

mutual

lemma IsPartOf.size_le : (tree : FileTree) → {more : FileTree} → tree.IsPartOf more →
    tree.size ≤ more.size
  | .file _, _, h => by
    rw [IsPartOf] at h
    exact h ▸ Nat.le_refl _
  | .link _, _, h => by
    rw [IsPartOf] at h
    exact h ▸ Nat.le_refl _
  | .folder entries, _, h => by
    rw [IsPartOf] at h
    obtain ⟨others, rfl, hentries⟩ := h
    rw [size, size]
    exact Nat.succ_le_succ (ArePartOf.sizeAll_le entries hentries)

lemma ArePartOf.sizeAll_le : (entries : List (String × FileTree)) →
    {others : List (String × FileTree)} → ArePartOf entries others →
      sizeAll entries ≤ sizeAll others
  | [], _, _ => by
    rw [sizeAll]
    exact Nat.zero_le _
  | (_, entry) :: rest, _, h => by
    rw [ArePartOf] at h
    obtain ⟨before, other, after, rfl, -, hentry, hrest⟩ := h
    have hfirst := IsPartOf.size_le entry hentry
    have hmore := ArePartOf.sizeAll_le rest hrest
    rw [sizeAll_append] at hmore
    rw [sizeAll_append, sizeAll, sizeAll]
    omega

end

end FileTree

namespace Walk

open FileTree

variable (w : Walk) {enter enter' : Position → String → List String}

lemma inFolder_eq_flatMap (here : Position) (entries : List (String × FileTree)) :
    w.inFolder enter here entries =
      entries.flatMap fun entry => w.inEntry enter here entry.1 entry.2 := by
  induction entries with
  | nil => rw [inFolder, List.flatMap_nil]
  | cons head rest ih => rw [inFolder, List.flatMap_cons, ih]

lemma inEntry_subset_inFolder {here : Position} {name : String} {entry : FileTree}
    {entries : List (String × FileTree)} (hmem : (name, entry) ∈ entries) :
    w.inEntry enter here name entry ⊆ w.inFolder enter here entries := by
  rw [inFolder_eq_flatMap]
  exact fun path hpath => List.mem_flatMap.mpr ⟨(name, entry), hmem, hpath⟩

lemma inFolder_subset_inFolder {here : Position} {entries others : List (String × FileTree)}
    (h : entries ⊆ others) : w.inFolder enter here entries ⊆ w.inFolder enter here others := by
  rw [inFolder_eq_flatMap, inFolder_eq_flatMap]
  intro path hpath
  obtain ⟨entry, hentry, hbelow⟩ := List.mem_flatMap.mp hpath
  exact List.mem_flatMap.mpr ⟨entry, h hentry, hbelow⟩

mutual

lemma inFolder_subset (henter : ∀ here name, enter here name ⊆ enter' here name)
    (here : Position) : (entries : List (String × FileTree)) →
      {others : List (String × FileTree)} → ArePartOf entries others →
        w.inFolder enter here entries ⊆ w.inFolder enter' here others
  | [], _, _ => by
    rw [inFolder]
    exact List.nil_subset _
  | (name, entry) :: rest, _, h => by
    rw [ArePartOf] at h
    obtain ⟨before, other, after, rfl, -, hentry, hrest⟩ := h
    have hfirst := inEntry_subset henter here name entry hentry
    have hmore := inFolder_subset henter here rest hrest
    rw [inFolder]
    refine List.append_subset.mpr ⟨List.Subset.trans hfirst ?_, List.Subset.trans hmore ?_⟩
    · exact w.inEntry_subset_inFolder (by simp)
    · exact w.inFolder_subset_inFolder (by simp)

lemma inEntry_subset (henter : ∀ here name, enter here name ⊆ enter' here name)
    (here : Position) (name : String) : (entry : FileTree) → {other : FileTree} →
      entry.IsPartOf other →
        w.inEntry enter here name entry ⊆ w.inEntry enter' here name other
  | .file _, _, h => by
    rw [IsPartOf] at h
    rw [h, inEntry, inEntry]
    exact fun _ => id
  | .link _, _, h => by
    rw [IsPartOf] at h
    rw [h, inEntry, inEntry]
    exact henter here name
  | .folder entries, _, h => by
    rw [IsPartOf] at h
    obtain ⟨others, rfl, hentries⟩ := h
    rw [inEntry, inEntry]
    split
    · exact fun _ => id
    · exact inFolder_subset henter _ entries hentries

end

variable {tree more : FileTree}

/-- More links may be followed in a larger tree. -/
lemma throughLink_subset (h : tree.IsPartOf more) {links links' : Nat} (hlinks : links ≤ links')
    (here : Position) (name : String) :
    w.throughLink tree links here name ⊆ w.throughLink more links' here name := by
  induction links generalizing links' here name with
  | zero => exact List.nil_subset _
  | succ links ih =>
    obtain ⟨links', rfl⟩ : ∃ fewer, links' = fewer + 1 := ⟨links' - 1, by omega⟩
    rw [throughLink, throughLink]
    cases hresolve : tree.resolveWith linkLimit here.place name with
    | error e => exact List.nil_subset _
    | ok place =>
      rw [resolveWith_of_isPartOf h linkLimit _ _ _ hresolve]
      rcases hplace : tree.at? place with _ | (content | entries | target)
      · simp only [hplace]
        exact List.nil_subset _
      · simp only [hplace, file_at? h hplace]
        exact fun _ => id
      · obtain ⟨others, hothers, hentries⟩ := exists_folder_at? h hplace
        simp only [hplace, hothers]
        split
        · exact fun _ => id
        · exact w.inFolder_subset (fun here name => ih (by omega) here name) _ entries hentries
      · simp only [hplace]
        exact List.nil_subset _

/-- A walk finds in a larger tree at least what it finds in a part of it. -/
theorem collect_subset (h : tree.IsPartOf more) (root : String) :
    w.collect tree root ⊆ w.collect more root := by
  rw [collect, collect]
  cases hresolve : tree.resolve root with
  | error e => exact List.nil_subset _
  | ok place =>
    rw [resolve_of_isPartOf h hresolve]
    rcases hplace : tree.at? place with _ | (content | entries | target)
    · simp only [hplace]
      exact List.nil_subset _
    · simp only [hplace]
      exact List.nil_subset _
    · obtain ⟨others, hothers, hentries⟩ := exists_folder_at? h hplace
      simp only [hplace, hothers]
      intro path hpath
      rw [Path.sort, List.mem_mergeSort] at hpath ⊢
      exact w.inFolder_subset (w.throughLink_subset h (IsPartOf.size_le tree h)) _ entries hentries
        hpath
    · simp only [hplace]
      exact List.nil_subset _

end Walk

end GapAudit
