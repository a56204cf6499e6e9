import Mathlib
import GapAudit.Components.Inspection
import GapAudit.Proofs.FileTree.Change
import GapAudit.Proofs.FileTree.Lookup
import GapAudit.Proofs.Path.Lexical

/-!
# Paths without detours

The text of a normalized path has the names of the place that the path leads to from the root, and
no points. In a tree without links, in which every folder on the way of a path is there, the
normalized path leads where the path does (`FileTree.resolve_normalize`). Putting a relative path
behind an absolute one and normalizing gives the same in either order, and what an import of a
component points to lies below the folder of components (`normalize_exact`).
-/

namespace GapAudit

open GapAudit.Path

namespace Path

lemma isSegment_of_mem_normalize (path : String) :
    ∀ name ∈ normalize path, isSegment name = true := by
  rw [normalize_eq]
  exact isSegment_of_mem_destination (by simp) path

lemma components_absolutePath_normalize (path : String) :
    components (absolutePath (normalize path)) = normalize path :=
  components_absolutePath fun name hmem => .of_isSegment (isSegment_of_mem_normalize path name hmem)

lemma normalize_absolutePath {names : List String} (h : ∀ name ∈ names, isSegment name = true) :
    normalize (absolutePath names) = names := by
  rw [normalize_eq_foldl, components_absolutePath fun name hmem => .of_isSegment (h name hmem),
    foldl_step_of_isSegment h, List.nil_append]

/-- An absolute path in front of its last separator and behind it. -/
lemma exists_last_separator {path : String} (h : isAbsolute path = true) :
    ∃ front last, path.toList = front ++ '/' :: last ∧ '/' ∉ last := by
  have hmem : '/' ∈ path.toList.reverse := by
    rw [List.mem_reverse]
    exact List.mem_of_mem_head? (by simpa [isAbsolute] using h)
  obtain ⟨last, front, heq, hlast⟩ := List.eq_append_cons_of_mem hmem
  refine ⟨front.reverse, last.reverse, ?_, by simpa using hlast⟩
  rw [← List.reverse_reverse path.toList, heq]
  simp

end Path

namespace FileTree

variable {tree : FileTree} {place names : List String} {path : String}

/-- Whether everything that a path goes through is there: each beginning of the path that ends in a
separator leads to something. -/
def HasFoldersOf (tree : FileTree) (path : String) : Prop :=
  ∀ beginning, beginning <+: path.toList → beginning.getLast? = some '/' →
    tree.pathExists (String.ofList beginning) = true

instance (tree : FileTree) (path : String) : Decidable (tree.HasFoldersOf path) :=
  decidable_of_iff (∀ beginning ∈ path.toList.inits, beginning.getLast? = some '/' →
      tree.pathExists (String.ofList beginning) = true) <| by
    simp only [HasFoldersOf, List.mem_inits]

/-- The beginning of a path up to a separator. -/
def folderText (front : List Char) : String :=
  String.ofList (front ++ ['/'])

variable {follow : List String → String → Except AccessError (List String)}

/-- The path of a place where something stands leads there. -/
lemma resolve_absolutePath (h : tree.HasNoLinks) (hroot : tree.holdsFolder [] = true)
    (hplace : ∀ name ∈ place, isSegment name = true) (hsome : (tree.at? place).isSome) :
    tree.resolve (absolutePath place) = .ok place := by
  have hcomponents : components (absolutePath place) = place :=
    components_absolutePath fun name hmem => .of_isSegment (hplace name hmem)
  have hwalk : tree.walkTo tree.follow [] (components (absolutePath place)) = .ok place := by
    rw [hcomponents]
    exact walkTo_of_isSome h hplace hsome
  rw [resolve_of_walkTo (isAbsolute_absolutePath place) hwalk]
  rcases List.eq_nil_or_concat' place with rfl | ⟨above, name, rfl⟩
  · simp [hroot]
  · simp [namesFolder_absolutePath hplace]

/-- The path of a place where nothing stands leads nowhere. -/
lemma resolve_absolutePath_of_missing (h : tree.HasNoLinks) {name : String}
    (hfolder : tree.holdsFolder place = true)
    (hplace : ∀ other ∈ place ++ [name], isSegment other = true)
    (hnone : tree.at? (place ++ [name]) = none) :
    tree.resolve (absolutePath (place ++ [name])) = .error .missing := by
  apply resolve_of_walkTo_error (isAbsolute_absolutePath _)
  have habove : tree.walkTo tree.follow [] place = .ok place :=
    walkTo_of_isSome h (fun other hmem => hplace other (List.mem_append_left _ hmem))
      (isSome_of_holdsFolder hfolder)
  rw [components_absolutePath fun other hmem => .of_isSegment (hplace other hmem), walkTo_append,
    habove]
  change tree.walkTo tree.follow place [name] = .error .missing
  rw [walkTo_cons h, hfolder, step_of_isSegment (hplace name (by simp)), hnone]
  rfl

section

variable {front last : List Char}

lemma isAbsolute_folderText (absolute : isAbsolute path = true)
    (hpath : path.toList = front ++ '/' :: last) : isAbsolute (folderText front) = true := by
  rw [isAbsolute, hpath] at absolute
  rw [isAbsolute, folderText, String.toList_ofList]
  cases front with
  | nil => rfl
  | cons c front => exact absolute

lemma components_eq_append (absolute : isAbsolute path = true)
    (hpath : path.toList = front ++ '/' :: last) (hlast : '/' ∉ last) :
    components path =
      components (folderText front) ++ ([last].filter counts).map String.ofList := by
  have hempty : Text.splitAt '/' [] = [[]] := rfl
  rw [components_of_isAbsolute absolute,
    components_of_isAbsolute (isAbsolute_folderText absolute hpath),
    hpath, folderText, String.toList_ofList, Text.splitAt_append, Text.splitAt_append, hempty,
    Text.splitAt_of_not_mem hlast]
  simp [counts]

/-- A path names a folder if nothing that counts is behind its last separator. -/
lemma namesFolder_eq (hpath : path.toList = front ++ '/' :: last) (hlast : '/' ∉ last) :
    namesFolder path = !counts last := by
  have hlength := List.length_pos_of_ne_nil (Text.splitAt_ne_nil '/' front)
  rw [namesFolder, hpath, Text.splitAt_append, Text.splitAt_of_not_mem hlast]
  simp [counts, hlength]

/-- Up to its last separator, a path leads to a folder. -/
lemma holdsFolder_normalize_folderText (h : tree.HasNoLinks) (absolute : isAbsolute path = true)
    (hpath : path.toList = front ++ '/' :: last) (hfolders : tree.HasFoldersOf path) :
    tree.holdsFolder (normalize (folderText front)) = true ∧
      tree.walkTo tree.follow [] (components (folderText front)) =
        .ok (normalize (folderText front)) := by
  have hexists : tree.pathExists (folderText front) = true :=
    hfolders (front ++ ['/']) (by simp [hpath]) List.getLast?_concat
  have habsolute := isAbsolute_folderText absolute hpath
  have hnames : namesFolder (folderText front) = true := by
    have htext : (folderText front).toList = front ++ '/' :: [] := String.toList_ofList
    rw [namesFolder_eq htext List.not_mem_nil]
    rfl
  rw [pathExists, entry?] at hexists
  cases hwalk : tree.walkTo tree.follow [] (components (folderText front)) with
  | error e =>
    rw [resolve_of_walkTo_error habsolute hwalk] at hexists
    cases hexists
  | ok place =>
    obtain rfl : place = normalize (folderText front) := by
      rw [walkTo_eq_ok h hwalk, normalize_eq_foldl]
    refine ⟨?_, rfl⟩
    by_contra hfolder
    rw [resolve_of_walkTo habsolute hwalk, hnames, Bool.eq_false_iff.mpr hfolder] at hexists
    cases hexists

end

/-- Where all folders on the way of a path are there, the normalized path leads where the path does,
or fails like it. -/
theorem HasNoLinks.resolve_normalize (h : tree.HasNoLinks) (absolute : isAbsolute path = true)
    (hfolders : tree.HasFoldersOf path) :
    tree.resolve (absolutePath (normalize path)) = tree.resolve path := by
  obtain ⟨front, last, hpath, hlast⟩ := exists_last_separator absolute
  obtain ⟨hfolder, hwalk⟩ := holdsFolder_normalize_folderText h absolute hpath hfolders
  have hcomponents := components_eq_append absolute hpath hlast
  have hroot := holdsFolder_nil_of_holdsFolder hfolder
  have hsegments := isSegment_of_mem_normalize path
  have hnames := namesFolder_eq hpath hlast
  cases hcounts : counts last with
  | false =>
    -- Nothing is behind the last separator but perhaps a point, and a folder is asked for.
    have hsame : components path = components (folderText front) := by
      rw [hcomponents]
      simp [hcounts]
    have hnormal : normalize path = normalize (folderText front) := by
      rw [normalize_eq_foldl, normalize_eq_foldl, hsame]
    rw [← hsame, ← hnormal] at hwalk
    rw [← hnormal] at hfolder
    have hsome := isSome_of_holdsFolder hfolder
    rw [resolve_absolutePath h hroot hsegments hsome, resolve_of_walkTo absolute hwalk, hfolder,
      Bool.not_true, Bool.and_false, if_neg Bool.false_ne_true]
  | true =>
    have hconcat : components path = components (folderText front) ++ [String.ofList last] := by
      rw [hcomponents]
      simp [hcounts]
    have hnormal : normalize path =
        step (normalize (folderText front)) (String.ofList last) := by
      rw [normalize_eq_foldl, normalize_eq_foldl, hconcat, List.foldl_concat]
    have hend : tree.walkTo tree.follow [] (components path) =
        if (tree.at? (normalize path)).isSome then .ok (normalize path) else .error .missing := by
      rw [hconcat, walkTo_append, hwalk]
      change tree.walkTo tree.follow (normalize (folderText front)) [String.ofList last] = _
      rw [walkTo_cons h, hfolder, if_neg (by simp), ← hnormal, walkTo]
    by_cases hsome : (tree.at? (normalize path)).isSome
    · rw [if_pos hsome] at hend
      rw [resolve_absolutePath h hroot hsegments hsome, resolve_of_walkTo absolute hend, hnames,
        hcounts]
      rfl
    · rw [if_neg hsome] at hend
      rw [resolve_of_walkTo_error absolute hend]
      -- Points lead to folders, which are there, so that a name is missing.
      have hname : normalize path = normalize (folderText front) ++ [String.ofList last] := by
        rw [hnormal, step] at hsome ⊢
        have hthere := isSome_of_holdsFolder hfolder
        split_ifs at hsome ⊢
        · exact absurd hthere hsome
        · exact absurd (isSome_at?_dropLast hthere) hsome
        · rfl
      rw [hname] at hsegments hsome ⊢
      exact resolve_absolutePath_of_missing h hfolder hsegments
        (Option.not_isSome_iff_eq_none.mp hsome)

end FileTree

/-- What a path becomes when it is normalized: an absolute path without points that normalizing
leaves as it is. What is put behind the path may as well be put behind the normalized one, two
points there take back the last name and stay at the root, and where the folders on the way are
there, both lead to the same place. -/
structure IsNormalized (path normal : String) : Prop where
  absolute : isAbsolute normal = true
  noPoints : ∀ name ∈ components normal, name ≠ "." ∧ name ≠ ".."
  again : absolutePath (normalize normal) = normal
  behind : ∀ rest, isAbsolute rest = false →
    normalize (join path rest) = normalize (join normal rest)
  back : ∀ above name, components normal = above ++ [name] →
    normalize (join path "..") = above
  atRoot : components normal = [] → normalize (join path "..") = []
  samePlace : ∀ tree : FileTree, tree.HasNoLinks → tree.HasFoldersOf path →
    tree.resolve normal = tree.resolve path

lemma normalize_join_points {path : String} (h : isAbsolute path = true) :
    normalize (join path "..") = (normalize path).dropLast := by
  rw [normalize_join h]
  rfl

lemma isNormalized {path : String} (h : isAbsolute path = true) :
    IsNormalized path (absolutePath (normalize path)) := by
  have hsegments := isSegment_of_mem_normalize path
  have hcomponents := components_absolutePath_normalize path
  have habsolute := isAbsolute_absolutePath (normalize path)
  constructor
  case absolute => exact habsolute
  case noPoints =>
    intro name hmem
    rw [hcomponents] at hmem
    exact ne_points_of_isSegment (hsegments name hmem)
  case again => rw [normalize_absolutePath hsegments]
  case behind =>
    intro rest _
    rw [normalize_join h, normalize_join habsolute, normalize_absolutePath hsegments]
  case back =>
    intro above name heq
    rw [hcomponents] at heq
    rw [normalize_join_points h, heq, List.dropLast_concat]
  case atRoot =>
    intro heq
    rw [hcomponents] at heq
    rw [normalize_join_points h, heq]
    rfl
  case samePlace => exact fun tree hlinks hfolders => hlinks.resolve_normalize h hfolders

/-- Absolute paths become normalized, and what a specifier in a component points to lies below the
folder of components, both normalized. -/
theorem normalize_exact :
    (∀ path, isAbsolute path = true → IsNormalized path (absolutePath (normalize path))) ∧
      ∀ (project : Project) (importer specifier : String) (target : List String),
        Components.target? project importer specifier = some target →
          components (absolutePath
            (normalize (project.path project.config.layout.componentsDir))) <+:
              components (absolutePath target) ∧
            normalize (absolutePath target) = target := by
  refine ⟨fun path => isNormalized, fun project importer specifier target htarget => ?_⟩
  rw [Components.target?] at htarget
  obtain ⟨path, -, hunder⟩ := Option.bind_eq_some_iff.mp htarget
  dsimp only at hunder
  split at hunder
  · next hprefix =>
    obtain rfl := Option.some.inj hunder
    rw [components_absolutePath_normalize, components_absolutePath_normalize]
    exact ⟨List.isPrefixOf_iff_prefix.mp hprefix,
      normalize_absolutePath (isSegment_of_mem_normalize path)⟩
  · cases hunder

/-- A project with a component, and a folder next to it. -/
def buttonProject : Project where
  tree := .folder [("p", .folder [("src", .folder [("components", .folder [
    ("forms", .folder []), ("Button.tsx", .file .empty)])])])]
  root := "/p"
  config := {}

theorem normalize_exact_button :
    isAbsolute "/p/src/components/forms/.././Button.tsx" = true ∧
      buttonProject.tree.HasNoLinks ∧
      buttonProject.tree.HasFoldersOf "/p/src/components/forms/.././Button.tsx" ∧
      IsNormalized "/p/src/components/forms/.././Button.tsx" "/p/src/components/Button.tsx" ∧
      buttonProject.tree.resolve "/p/src/components/forms/.././Button.tsx" =
        .ok ["p", "src", "components", "Button.tsx"] ∧
      isAbsolute "../../.." = false ∧
      normalize (join "/p/src/components/forms/.././Button.tsx" "../../..") = ["p"] ∧
      Components.target? buttonProject "/p/src/App.tsx" "./lib/../components/Button" =
        some ["p", "src", "components", "Button"] ∧
      normalize "/p/src/components/Button" = ["p", "src", "components", "Button"] := by
  obtain ⟨hnormalized, htarget⟩ := normalize_exact
  have habsolute : isAbsolute "/p/src/components/forms/.././Button.tsx" = true := by decide +kernel
  have hlinks : buttonProject.tree.HasNoLinks :=
    FileTree.hasNoLinks_of_isPlain (by decide +kernel)
  have hfolders : buttonProject.tree.HasFoldersOf "/p/src/components/forms/.././Button.tsx" := by
    decide +kernel
  have hrest : isAbsolute "../../.." = false := by decide +kernel
  have hnormal : absolutePath (normalize "/p/src/components/forms/.././Button.tsx") =
      "/p/src/components/Button.tsx" := by decide +kernel
  have hbutton : Components.target? buttonProject "/p/src/App.tsx" "./lib/../components/Button" =
      some ["p", "src", "components", "Button"] := by decide +kernel
  have hexact := hnormalized _ habsolute
  rw [hnormal] at hexact
  refine ⟨habsolute, hlinks, hfolders, hexact, ?_, hrest, ?_, hbutton, ?_⟩
  · rw [← hexact.samePlace _ hlinks hfolders]
    decide +kernel
  · rw [hexact.behind _ hrest]
    decide +kernel
  · exact (htarget _ _ _ _ hbutton).2

end GapAudit
