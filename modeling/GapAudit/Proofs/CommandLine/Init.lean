import Mathlib
import GapAudit.CommandLine.Init
import GapAudit.Proofs.FileTree.Change
import GapAudit.Proofs.FileTree.Lookup

/-!
# What a first configuration does to the files

A run that writes a configuration makes folders where the path goes on to nowhere, and then the file
(`Gains`). Everything else stands as before, and so it does after a run that complains
(`run_spares`). Without being asked to replace a file, a run still does so if its path goes through
a folder that is not there and back out of it: nothing is found under such a path before the folder
is made, and the file after (`run_replaces_unasked`).
-/

namespace GapAudit

open GapAudit.FileTree GapAudit.Path

/-- Whether a tree becomes another one when a file is written to a path and the folders on the way
are made: what stood elsewhere still stands there, and what is new there are folders to which names
of the path lead. -/
structure FileTree.Gains (tree next : FileTree) (path : String) (content : ByteArray) : Prop where
  leads : next.resolve path = .ok (destination [] path)
  holds : next.bytes? path = some content
  replaces : ∀ old, tree.standing? (destination [] path) = some old → ∃ content, old = .file content
  elsewhere : ∀ place, place ≠ destination [] path → next.standing? place ≠ tree.standing? place →
    tree.at? place = none ∧ next.standing? place = some .folder ∧
      ∃ above, above <+: (components path).dropLast ∧ place = above.foldl step []
  above : ".." ∉ components path →
    ∀ place, next.standing? place ≠ tree.standing? place → place <+: destination [] path

namespace Path

variable {path : String}

/-- The names of an absolute path without two points are those of a place. -/
lemma isSegment_of_noPoints (absolute : isAbsolute path = true) (hpoints : ".." ∉ components path) :
    ∀ name ∈ components path, isSegment name = true := by
  intro name hmem
  apply (isComponent_of_mem_components absolute hmem).isSegment
  rintro rfl
  exact hpoints hmem

lemma destination_of_noPoints (absolute : isAbsolute path = true)
    (hpoints : ".." ∉ components path) : destination [] path = components path := by
  rw [destination, ite_self, foldl_step_of_isSegment (isSegment_of_noPoints absolute hpoints)]
  rfl

end Path

namespace InitRequest

variable {tree next : FileTree} {path : String}

/-- Folders are made first, and then the file. -/
lemma write_cases (h : tree.HasNoLinks) (absolute : isAbsolute path = true) (text : String) :
    ∃ middle places, MakesFolders tree middle places ∧
      (∀ new ∈ places, ∃ above, above <+: (components path).dropLast ∧ new = above.foldl step []) ∧
      ((∃ e, write path text tree = (middle, .error e)) ∨
        ∃ next, middle.write path text.toUTF8 = .ok next ∧ write path text tree = (next, .ok ())) := by
  obtain ⟨places, hmakes, hplaces⟩ := makesFolders_makeFolders h (parent path)
  rw [components_parent absolute] at hplaces
  refine ⟨_, places, hmakes, hplaces, ?_⟩
  rw [write]
  rcases tree.makeFolders (parent path) with ⟨middle, e | _⟩
  · exact .inl ⟨_, rfl⟩
  · cases hwrite : middle.write path text.toUTF8 with
    | error e => exact .inl ⟨.file e, by simp only [hwrite]⟩
    | ok next => exact .inr ⟨next, rfl, by simp only [hwrite]⟩

/-- What a tree gains by folders on the way and then the file. -/
lemma gains_of_write {middle : FileTree} {places : List (List String)} (h : tree.HasNoLinks)
    (absolute : isAbsolute path = true) (hmakes : MakesFolders tree middle places)
    (hplaces : ∀ new ∈ places,
      ∃ above, above <+: (components path).dropLast ∧ new = above.foldl step [])
    {content : ByteArray} (hwrite : middle.write path content = .ok next) :
    tree.Gains next path content := by
  obtain ⟨hwritten, hresolve⟩ := isWritten_of_write (hmakes.hasNoLinks h) absolute hwrite
  have helsewhere : ∀ place, place ≠ destination [] path →
      next.standing? place ≠ tree.standing? place → place ∈ places := by
    intro place hplace hchanged
    by_contra hold
    apply hchanged
    rw [hwritten.standing, if_neg hplace, hmakes.standing, if_neg hold]
  constructor
  · exact hresolve
  · simp only [bytes?, entry?, hresolve, Except.toOption, Option.bind_some, hwritten.at?_eq]
  · intro old hold
    apply hwritten.replaces
    rw [hmakes.standing?_eq, hold]
    rw [← isSome_standing?, hold]
    rfl
  · intro place hplace hchanged
    have hnew := helsewhere place hplace hchanged
    refine ⟨hmakes.new place hnew, ?_, hplaces place hnew⟩
    rw [hwritten.standing, if_neg hplace, hmakes.standing, if_pos hnew]
  · intro hpoints place hchanged
    by_cases hplace : place = destination [] path
    · rw [hplace]
    · obtain ⟨above, habove, rfl⟩ := hplaces place (helsewhere place hplace hchanged)
      have hwithin : above <+: components path := habove.trans (List.dropLast_prefix _)
      have hnames := isSegment_of_noPoints absolute hpoints
      rw [destination_of_noPoints absolute hpoints,
        foldl_step_of_isSegment fun name hmem => hnames name (hwithin.subset hmem)]
      exact hwithin

/-- Whether the run of a request spares the files: what it may change, by how it ends and by what it
was asked for. Without being asked to replace a file, it changes what stands somewhere only at the
end of a path that leads nowhere as long as the folders on the way are not made. -/
structure Spares (request : InitRequest) (session : Session) : Prop where
  ends : (request.run session).ending = .status 0 ∨ (request.run session).ending = .status 2
  listed : request.list = true →
    (request.run session).ending = .status 0 ∧ (request.run session).tree = session.tree
  unknown : request.list = false → (∀ template ∈ Template.all, template.name ≠ request.template) →
    (request.run session).ending = .status 2 ∧ (request.run session).tree = session.tree
  present : request.list = false → request.force = false →
    session.tree.pathExists (session.path request.path) = true →
      (request.run session).ending = .status 2 ∧ (request.run session).tree = session.tree
  written : request.list = false → (request.run session).ending = .status 0 →
    ∃ template ∈ Template.all, template.name = request.template ∧
      session.tree.Gains (request.run session).tree (session.path request.path)
        template.text.toUTF8
  complained : (request.run session).ending = .status 2 → ∀ place, (session.tree.at? place).isSome →
    (request.run session).tree.standing? place = session.tree.standing? place
  unasked : request.force = false → ∀ place, (session.tree.at? place).isSome →
    (request.run session).tree.standing? place ≠ session.tree.standing? place →
      place = destination [] (session.path request.path) ∧
        ".." ∈ components (session.path request.path) ∧
        session.tree.pathExists (session.path request.path) = false

variable {session : Session}

lemma find?_eq_some {name : String} {template : Template}
    (h : Template.find? name = some template) : template ∈ Template.all ∧ template.name = name :=
  ⟨List.mem_of_find?_eq_some h,
    beq_iff_eq.mp (List.find?_some (p := fun t : Template => t.name == name) h)⟩

/-- The courses that a run can take: it lists the templates, it complains at once, it makes folders
and complains, or it writes the file. -/
inductive Course (request : InitRequest) (session : Session) : Prop where
  | lists (hlist : request.list = true) (hends : (request.run session).ending = .status 0)
      (htree : (request.run session).tree = session.tree)
  | refuses (hlist : request.list = false) (hends : (request.run session).ending = .status 2)
      (htree : (request.run session).tree = session.tree)
  | stops (template : Template) (hlist : request.list = false) (hmem : template ∈ Template.all)
      (hname : template.name = request.template)
      (hfree : (session.tree.pathExists (session.path request.path) && !request.force) = false)
      (hends : (request.run session).ending = .status 2) (places : List (List String))
      (hmakes : MakesFolders session.tree (request.run session).tree places)
  | writes (template : Template) (hlist : request.list = false) (hmem : template ∈ Template.all)
      (hname : template.name = request.template)
      (hfree : (session.tree.pathExists (session.path request.path) && !request.force) = false)
      (hends : (request.run session).ending = .status 0)
      (hgains : session.tree.Gains (request.run session).tree (session.path request.path)
        template.text.toUTF8)

lemma run_course (h : session.tree.HasNoLinks) (absolute : isAbsolute session.here = true)
    (request : InitRequest) : request.Course session := by
  have hpath : isAbsolute (session.path request.path) = true := isAbsolute_join absolute _
  cases hlist : request.list with
  | true => exact .lists hlist (by simp [run, hlist]) (by simp [run, hlist])
  | false =>
    cases htemplate : Template.find? request.template with
    | none =>
      have hrun : request.run session =
          session.refuse (InitError.unknownTemplate request.template).lines := by
        simp [run, hlist, htemplate]
      exact .refuses hlist (by rw [hrun]; rfl) (by rw [hrun]; rfl)
    | some template =>
      obtain ⟨hmem, hname⟩ := find?_eq_some htemplate
      cases hfree : session.tree.pathExists (session.path request.path) && !request.force with
      | true =>
        have hrun : request.run session =
            session.refuse (InitError.present request.path).lines := by
          simp [run, hlist, htemplate, hfree]
        exact .refuses hlist (by rw [hrun]; rfl) (by rw [hrun]; rfl)
      | false =>
        obtain ⟨middle, places, hmakes, hplaces, ⟨e, hwrite⟩ | ⟨next, hnext, hwrite⟩⟩ :=
          write_cases h hpath template.text
        · have hrun : request.run session = { session.refuse e.lines with tree := middle } := by
            simp [run, hlist, htemplate, hfree, hwrite]
          exact .stops template hlist hmem hname hfree (by rw [hrun]; rfl) places
            (by rw [hrun]; exact hmakes)
        · have hends : (request.run session).ending = .status 0 := by
            simp [run, hlist, htemplate, hfree, hwrite]
          have htree : (request.run session).tree = next := by
            simp [run, hlist, htemplate, hfree, hwrite]
          refine .writes template hlist hmem hname hfree hends ?_
          rw [htree]
          exact gains_of_write h hpath hmakes hplaces hnext

/-- Without two points, nothing stands where a path leads if nothing is found under it. -/
lemma at?_destination_eq_none (plain : tree.isPlain = true) (absolute : isAbsolute path = true)
    (hpoints : ".." ∉ components path) (hfolder : namesFolder path = false)
    (hnothing : tree.pathExists path = false) : tree.at? (destination [] path) = none := by
  rw [destination_of_noPoints absolute hpoints,
    ← entry?_of_isPlain plain absolute (isSegment_of_noPoints absolute hpoints) hfolder]
  rw [pathExists] at hnothing
  rwa [← Option.not_isSome_iff_eq_none, Bool.not_eq_true]

/-- A path under which a file is found does not ask for a folder. -/
lemma namesFolder_of_gains {content : ByteArray} (absolute : isAbsolute path = true)
    (h : tree.Gains next path content) : namesFolder path = false := by
  have hholds := h.holds
  simp only [bytes?, entry?, h.leads, Except.toOption, Option.bind_some] at hholds
  have hleads := h.leads
  rw [resolve, resolveWith_linkLimit, walkPath, absolute, if_pos rfl] at hleads
  cases hwalk : next.walkTo next.follow [] (components path) with
  | error e => rw [hwalk] at hleads; cases hleads
  | ok place =>
    simp only [hwalk] at hleads
    split_ifs at hleads with hfolder
    obtain rfl := Except.ok.inj hleads
    rw [Bool.and_eq_true, not_and, Bool.not_eq_true, Bool.not_eq_false'] at hfolder
    rw [← Bool.not_eq_true]
    intro hnames
    obtain ⟨entries, hentries⟩ := holdsFolder_iff.mp (hfolder hnames)
    rw [hentries] at hholds
    cases hholds

/-- What stood is replaced only where a path leads that has two points, if nothing was found under
the path. -/
lemma eq_destination_of_gains {content : ByteArray} (plain : tree.isPlain = true)
    (absolute : isAbsolute path = true) (h : tree.Gains next path content)
    (hnothing : tree.pathExists path = false) {place : List String}
    (hplace : (tree.at? place).isSome) (hchanged : next.standing? place ≠ tree.standing? place) :
    place = destination [] path ∧ ".." ∈ components path := by
  have hthere : place = destination [] path := by
    by_contra helsewhere
    obtain ⟨hnone, -⟩ := h.elsewhere place helsewhere hchanged
    rw [hnone] at hplace
    cases hplace
  refine ⟨hthere, ?_⟩
  by_contra hpoints
  have hnone := at?_destination_eq_none plain absolute hpoints
    (namesFolder_of_gains absolute h) hnothing
  rw [hthere, hnone] at hplace
  cases hplace

/-- A run makes its file and folders on the way and nothing else, or it complains and nothing that
stood is changed. -/
theorem run_spares (plain : session.tree.isPlain = true) (absolute : isAbsolute session.here = true)
    (request : InitRequest) : request.Spares session := by
  have hpath : isAbsolute (session.path request.path) = true := isAbsolute_join absolute _
  have hcourse := run_course (hasNoLinks_of_isPlain plain) absolute request
  constructor
  case ends =>
    cases hcourse with
    | lists _ hends _ | writes _ _ _ _ _ hends _ => exact .inl hends
    | refuses _ hends _ | stops _ _ _ _ _ hends _ _ => exact .inr hends
  case listed =>
    intro hlist
    cases hcourse with
    | lists _ hends htree => exact ⟨hends, htree⟩
    | refuses hnot | stops _ hnot | writes _ hnot =>
      rw [hlist] at hnot
      cases hnot
  case unknown =>
    intro hlist hunknown
    cases hcourse with
    | lists hlisted =>
      rw [hlist] at hlisted
      cases hlisted
    | refuses _ hends htree => exact ⟨hends, htree⟩
    | stops template _ hmem hname | writes template _ hmem hname =>
      exact absurd hname (hunknown template hmem)
  case present =>
    intro hlist hforce hpresent
    cases hcourse with
    | lists hlisted =>
      rw [hlist] at hlisted
      cases hlisted
    | refuses _ hends htree => exact ⟨hends, htree⟩
    | stops _ _ _ _ hfree | writes _ _ _ _ hfree =>
      rw [hforce, hpresent] at hfree
      cases hfree
  case written =>
    intro hlist hends
    cases hcourse with
    | lists hlisted =>
      rw [hlist] at hlisted
      cases hlisted
    | refuses _ hfailed | stops _ _ _ _ _ hfailed =>
      rw [hends] at hfailed
      cases hfailed
    | writes template _ hmem hname _ _ hgains => exact ⟨template, hmem, hname, hgains⟩
  case complained =>
    intro hends place hplace
    cases hcourse with
    | lists _ _ htree | refuses _ _ htree => rw [htree]
    | stops _ _ _ _ _ _ _ hmakes => exact hmakes.standing?_eq hplace
    | writes _ _ _ _ _ hdone =>
      rw [hends] at hdone
      cases hdone
  case unasked =>
    intro hforce place hplace hchanged
    cases hcourse with
    | lists _ _ htree | refuses _ _ htree => exact absurd (by rw [htree]) hchanged
    | stops _ _ _ _ _ _ _ hmakes => exact absurd (hmakes.standing?_eq hplace) hchanged
    | writes _ _ _ _ hfree _ hgains =>
      have hnothing : session.tree.pathExists (session.path request.path) = false := by
        simpa [hforce] using hfree
      obtain ⟨hthere, hpoints⟩ :=
        eq_destination_of_gains plain hpath hgains hnothing hplace hchanged
      exact ⟨hthere, hpoints, hnothing⟩

def configured : Session where
  tree := .folder [("shop", .folder [("gapcheck.yaml", .file "existing\n".toUTF8)])]
  here := "/shop"
  now := ⟨0, 0⟩

theorem run_spares_configured :
    configured.tree.isPlain = true ∧ isAbsolute configured.here = true ∧
      Spares { path := "config/gapcheck.yaml" } configured :=
  ⟨by decide, by decide, run_spares (by decide) (by decide) _⟩

/-- A configuration is replaced by a run that was not asked to, under a path that goes through a
folder that is not there. -/
theorem run_replaces_unasked :
    ¬∀ (session : Session) (request : InitRequest), session.tree.isPlain = true →
      isAbsolute session.here = true → request.force = false →
        ∀ place content, session.tree.at? place = some (.file content) →
          (request.run session).tree.at? place = some (.file content) := by
  intro hkeeps
  have hkept := hkeeps configured { path := "missing/../gapcheck.yaml", template := "minimal" }
    (by decide) (by decide) rfl ["shop", "gapcheck.yaml"] "existing\n".toUTF8 rfl
  have hreplaced : (InitRequest.run { path := "missing/../gapcheck.yaml", template := "minimal" }
      configured).tree.at? ["shop", "gapcheck.yaml"] =
        some (.file Template.minimal.text.toUTF8) := rfl
  rw [hreplaced] at hkept
  have hbytes : Template.minimal.text.toUTF8 = "existing\n".toUTF8 := by simpa using hkept
  have htext : Template.minimal.text = "existing\n" := String.toByteArray_inj.mp hbytes
  have hfirst : Template.minimal.text.toList.head? = some '#' := by
    rw [Template.text, Text.ofLines, String.toList_join]
    rfl
  rw [htext] at hfirst
  cases hfirst

end InitRequest

end GapAudit
