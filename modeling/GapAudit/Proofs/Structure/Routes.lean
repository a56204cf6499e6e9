import Mathlib
import GapAudit.Proofs.Project.GapIds
import GapAudit.Proofs.Source.Ranges
import GapAudit.Proofs.Structure.FullScore
import GapAudit.Proofs.Structure.Wiring
import GapAudit.Proofs.Walk.Files

/-!
# Which pages have no route

A page has its route if the application root binds its name and shows it (`Project.RoutesPage`). The
gap of routes, its files, and the names in the result are those of the pages that have none, in the
order of their paths; a root without text has a route to no page (`routes_exact`).
-/

namespace GapAudit

open Arithmetic Text

namespace Routes

variable {facts : Facts} {source : List Char} {name : String}

lemma binds_iff : binds facts source name.toList = true ↔
    (∃ i ∈ facts.imports, name ∈ i.names) ∨
      ∃ (before : List Char) (d : LazyDeclaration) (rest : List Char), d.IsProper ∧
        d.name = name.toList ∧ before.getLast?.any isWordChar = false ∧
          source = before ++ d.text rest := by
  rw [binds, Bool.or_eq_true, List.any_eq_true, List.contains_iff_mem,
    LazyDeclaration.mem_scan_lazyBinding?_iff, String.ofList_toList]
  simp only [List.contains_iff_mem]

lemma shows_iff : shows facts source name.toList = true ↔
    (∃ e ∈ facts.elements, e.tag = name) ∨ Mentions source name.toList := by
  rw [shows, Bool.or_eq_true, List.any_eq_true, occursWhere_startsUse_iff, String.ofList_toList]
  simp only [beq_iff_eq]

end Routes

namespace Project

variable (project : Project)

def rootPath : String :=
  project.path project.config.layout.appRoot

/-- The text of the application root; one that cannot be read is as good as empty. -/
def rootText : List Char :=
  ((project.text? project.rootPath).getD "").toList

/-- The tree that the parser gives for the application root. -/
def rootTree? : Option Source.Tree :=
  project.tools.parse (.ofPath project.rootPath) project.rootText

/-- What the application root imports, and its elements. -/
def rootFacts : Facts :=
  project.facts project.rootPath project.rootText

/-- Whether the application root binds a name, by an import or by a declaration of something that is
loaded on demand. -/
def BindsPage (name : String) : Prop :=
  (∃ i ∈ project.rootFacts.imports, name ∈ i.names) ∨
    ∃ (before : List Char) (d : Routes.LazyDeclaration) (rest : List Char), d.IsProper ∧
      d.name = name.toList ∧ before.getLast?.any isWordChar = false ∧
        project.rootText = before ++ d.text rest

/-- Whether the application root shows a page, as an element or in what stands outside its
imports. -/
def ShowsPage (name : String) : Prop :=
  (∃ e ∈ project.rootFacts.elements, e.tag = name) ∨
    Routes.Mentions (Source.outside project.rootFacts.imports 0 project.rootText) name.toList

/-- Whether a page of a name has its route. -/
def RoutesPage (name : String) : Prop :=
  project.BindsPage name ∧ project.ShowsPage name

/-- The files of the pages that need a route. -/
def pageFiles : List String :=
  (project.walk project.config.layout.pagesDir Walk.components).filter fun path =>
    Path.baseName path ∉ project.config.skeleton.routeExclusions

open Classical in
/-- The files of the pages that need a route and have none. -/
noncomputable def unroutedFiles : List String :=
  project.pageFiles.filter fun path => ¬project.RoutesPage (Path.baseName path)

lemma binds_iff (name : String) :
    Routes.binds project.rootFacts project.rootText name.toList = true ↔ project.BindsPage name :=
  Routes.binds_iff

lemma pages_eq :
    (Routes.ofProject project).pages = project.pageFiles.map (Routes.pageOf project) := by
  rw [Routes.pages_ofProject, pageFiles]
  simp

lemma pairwise_pageFiles :
    project.pageFiles.Pairwise fun a b => Path.sortKey a ≤ Path.sortKey b :=
  (project.pairwise_le_walk _ _).filter _

lemma rootText_eq_nil (h : project.tree.isFile project.rootPath = false ∨
    project.text? project.rootPath = none ∨ project.text? project.rootPath = some "") :
    project.rootText = [] := by
  have htext : project.tree.isFile project.rootPath = false →
      project.text? project.rootPath = none := by
    intro hfile
    rw [FileTree.isFile] at hfile
    rw [text?, FileTree.text?, FileTree.bytes?]
    cases hentry : project.tree.entry? project.rootPath with
    | none => rfl
    | some entry =>
      cases entry with
      | file content => rw [hentry] at hfile; cases hfile
      | folder entries => rfl
      | link target => rfl
  rw [rootText]
  rcases h with hfile | hnone | hempty
  · rw [htext hfile]
    rfl
  · rw [hnone]
    rfl
  · rw [hempty]
    rfl

section

variable {project : Project}
  (hroot : ∀ tree ∈ project.rootTree?, tree.StandsIn project.rootText)

include hroot

lemma shows_iff (name : String) :
    Routes.shows project.rootFacts (Routes.withoutImports project.rootText project.rootFacts)
      name.toList = true ↔ project.ShowsPage name := by
  have hbody : Routes.withoutImports project.rootText project.rootFacts =
      Source.outside project.rootFacts.imports 0 project.rootText := by
    rw [rootFacts, facts, Facts.read]
    cases htree : project.tools.parse (.ofPath project.rootPath) project.rootText with
    | none => exact (Source.outside_eq_self (by simp)).symm
    | some tree => exact Source.withoutImports_eq_outside (hroot tree htree).placed
  rw [Routes.shows_iff, ShowsPage, hbody]

lemma isRouted_pageOf_iff (path : String) :
    (Routes.pageOf project path).isRouted = true ↔ project.RoutesPage (Path.baseName path) := by
  have himported : (Routes.pageOf project path).imported =
      Routes.binds project.rootFacts project.rootText (Path.baseName path).toList := by
    simp only [Routes.pageOf, rootFacts, rootText, rootPath]
  have hshown : (Routes.pageOf project path).shown =
      Routes.shows project.rootFacts (Routes.withoutImports project.rootText project.rootFacts)
        (Path.baseName path).toList := by
    simp only [Routes.pageOf, rootFacts, rootText, rootPath]
  rw [PageRoute.isRouted, himported, hshown, Bool.and_eq_true, binds_iff, shows_iff hroot, RoutesPage]

lemma unrouted_eq :
    (Routes.ofProject project).unrouted = project.unroutedFiles.map (Routes.pageOf project) := by
  rw [Routes.unrouted, pages_eq, List.filter_map, unroutedFiles]
  apply congrArg (List.map (Routes.pageOf project))
  apply List.filter_congr
  intro path _
  have hrouted := isRouted_pageOf_iff hroot path
  by_cases hroutes : project.RoutesPage (Path.baseName path)
  · simp [hrouted.mpr hroutes, hroutes]
  · simp [Bool.eq_false_iff.mpr (mt hrouted.mp hroutes), hroutes]

/-- In a text without characters nothing is bound. -/
lemma not_routesPage (h : project.rootText = []) (name : String) : ¬project.RoutesPage name := by
  have himports : project.rootFacts.imports = [] := by
    rw [rootFacts, facts, Facts.read]
    cases htree : project.tools.parse (.ofPath project.rootPath) project.rootText with
    | none => rfl
    | some tree =>
      have hbare := (hroot tree htree).bare h
      change Source.Tree.imports project.rootText tree = []
      rw [Source.Tree.imports, Source.Tree.importStatements, Source.Tree.namedChildren, hbare]
      rfl
  rintro ⟨⟨i, hi, -⟩ | ⟨before, d, rest, hd, -, -, htext⟩, -⟩
  · rw [himports] at hi
    cases hi
  · rw [h] at htext
    exact hd.text_ne_nil rest (List.append_eq_nil_iff.mp htext.symm).2

lemma unroutedFiles_eq_pageFiles (h : project.rootText = []) :
    project.unroutedFiles = project.pageFiles := by
  apply List.filter_eq_self.mpr
  intro path _
  simpa using not_routesPage hroot h (Path.baseName path)

end

end Project

namespace Structure

open Project

def routeGapId : String :=
  "structure-route-coverage"

lemma filter_gaps (project : Project) :
    (analyze project).gaps.filter (·.id == routeGapId) =
      ((Routes.ofProject project).gap? project.config.layout.appRoot).toList := by
  have hgaps : (analyze project).gaps = (StructureFindings.ofProject project).gaps project := rfl
  have hroutes : (StructureFindings.ofProject project).routes = Routes.ofProject project := rfl
  have hcolon : ':' ∉ routeGapId.toList := by decide
  have hfolders : ∀ folders : List String,
      (folders.map StructureFindings.folderGap).filter (·.id == routeGapId) = [] := by
    intro folders
    rw [List.filter_eq_nil_iff, List.forall_mem_map]
    intro folder _
    have hid :
        (StructureFindings.folderGap folder).id = tag folder "structure-missing-directory" := rfl
    rw [beq_iff_eq, hid]
    exact tag_ne hcolon
  have hfiles : ∀ files : List String,
      (files.map StructureFindings.fileGap).filter (·.id == routeGapId) = [] := by
    intro files
    rw [List.filter_eq_nil_iff, List.forall_mem_map]
    intro file _
    have hid : (StructureFindings.fileGap file).id = tag file "structure-missing-file" := rfl
    rw [beq_iff_eq, hid]
    exact tag_ne hcolon
  have hservices : ∀ services : List String,
      (StructureFindings.servicesGap? project services).toList.filter (·.id == routeGapId) = [] := by
    intro services
    cases services with
    | nil => rfl
    | cons first more => rfl
  have hroute : ((Routes.ofProject project).gap? project.config.layout.appRoot).toList.filter
      (·.id == routeGapId) =
        ((Routes.ofProject project).gap? project.config.layout.appRoot).toList := by
    rw [Routes.gap?]
    split
    · rfl
    · rfl
  rw [hgaps, StructureFindings.gaps, List.filter_append, List.filter_append, List.filter_append,
    hfolders, hfiles, hservices, hroutes, hroute, List.nil_append, List.nil_append, List.append_nil]

lemma infix_intercalate {pieces : List (List Char)} {piece : List Char} (h : piece ∈ pieces)
    (separator : List Char) : piece <:+: separator.intercalate pieces := by
  induction pieces with
  | nil => cases h
  | cons first rest ih =>
    rcases rest with _ | ⟨second, more⟩
    · obtain rfl := List.mem_singleton.mp h
      simp
    · rw [List.intercalate_cons_cons]
      rcases List.mem_cons.mp h with rfl | h
      · rw [List.append_assoc]
        exact (List.prefix_append _ _).isInfix
      · exact (ih h).trans (List.suffix_append _ _).isInfix

lemma affectedFiles_of_gap? {routes : Routes} {appRoot : String} {gap : Gap}
    (hgap : routes.gap? appRoot = some gap) : gap.affectedFiles = routes.unrouted.map (·.file) := by
  rw [Routes.gap?] at hgap
  split at hgap
  · cases hgap
  · rw [← Option.some.inj hgap]

/-- The gap asks for a route for each of the pages. -/
lemma snippet_infix_recommendation {routes : Routes} {appRoot : String} {gap : Gap}
    (hgap : routes.gap? appRoot = some gap) {page : PageRoute} (h : page ∈ routes.unrouted) :
    (Routes.snippet page.name).toList <:+: gap.recommendation.toList := by
  rw [Routes.gap?] at hgap
  split at hgap
  · cases hgap
  · obtain rfl := Option.some.inj hgap
    have hpieces : (Routes.snippet page.name).toList ∈
        (routes.unrouted.map fun page => Routes.snippet page.name).map String.toList :=
      List.mem_map_of_mem (List.mem_map_of_mem h)
    have hinfix := infix_intercalate hpieces " ".toList
    rw [← String.toList_intercalate] at hinfix
    refine hinfix.trans ?_
    simp only [String.toList_append]
    exact (List.suffix_append _ _).isInfix

section

variable {project : Project}
  (hroot : ∀ tree ∈ project.rootTree?, tree.StandsIn project.rootText)
  (h : project.unroutedFiles = project.pageFiles)

include hroot h

/-- Where no page has a route, the share of those that have one is none of them. -/
lemma coverage_of_rootless (α : Type) [Arithmetic α] :
    ((Routes.ofProject project).coverage : α) =
      if project.pageFiles = [] then 100
      else Arithmetic.round (Arithmetic.ofNat 0 / Arithmetic.ofNat project.pageFiles.length * 100) := by
  have hcount : (Routes.ofProject project).pages.countP (·.isRouted) = 0 := by
    have hlength := (Routes.ofProject project).length_unrouted
    rw [unrouted_eq hroot, h, ← pages_eq] at hlength
    omega
  rw [Routes.coverage, hcount, pages_eq, List.length_map, List.isEmpty_map]
  simp only [List.isEmpty_iff]

lemma exactCoverage_of_rootless :
    ((Routes.ofProject project).coverage : ℚ) = if project.pageFiles = [] then 100 else 0 := by
  have hround : (Arithmetic.round (Arithmetic.ofNat 0 /
      Arithmetic.ofNat project.pageFiles.length * 100) : ℚ) = 0 := by
    have hzero : roundRat (((0 : ℕ) : ℚ) / (project.pageFiles.length : ℚ) * 100) = 0 := by
      rw [Nat.cast_zero, zero_div, zero_mul]
      exact_mod_cast roundRat_natCast 0
    exact hzero
  rw [coverage_of_rootless hroot h ℚ, hround]

end

/-- The gap and what else is said of the pages of a project that have no route. -/
structure RoutesExact (project : Project) : Prop where
  inOrder : project.pageFiles.Pairwise fun a b => Path.sortKey a ≤ Path.sortKey b
  pages : (Routes.ofProject project).pages.map (fun page => (page.name, page.file)) =
    project.pageFiles.map fun path => (Path.baseName path, project.relative path)
  names : (analyze project).metadata.find? "unroutedPages" =
    some (.list (project.unroutedFiles.map Path.baseName))
  noGap : project.unroutedFiles = [] → ∀ gap ∈ (analyze project).gaps, gap.id ≠ routeGapId
  oneGap : project.unroutedFiles ≠ [] →
    ∃ gap, (analyze project).gaps.filter (·.id == routeGapId) = [gap] ∧
      gap.affectedFiles = project.unroutedFiles.map project.relative ∧
      ∀ path ∈ project.unroutedFiles,
        (Routes.snippet (Path.baseName path)).toList <:+: gap.recommendation.toList
  rootless : project.tree.isFile project.rootPath = false ∨
      project.text? project.rootPath = none ∨ project.text? project.rootPath = some "" →
    project.unroutedFiles = project.pageFiles ∧
      ((Routes.ofProject project).coverage : ℚ) = (if project.pageFiles = [] then 100 else 0) ∧
      ∀ (α : Type) [Arithmetic α], ((Routes.ofProject project).coverage : α) =
        if project.pageFiles = [] then 100
        else Arithmetic.round (Arithmetic.ofNat 0 / Arithmetic.ofNat project.pageFiles.length * 100)

/-- The pages without a route are just those that the application root does not bind or does not
show, if the tree that the parser gives for the root stands in its text. -/
theorem routes_exact (project : Project)
    (hroot : ∀ tree ∈ project.rootTree?, tree.StandsIn project.rootText) : RoutesExact project := by
  have hunrouted := unrouted_eq hroot
  constructor
  case inOrder => exact project.pairwise_pageFiles
  case pages =>
    rw [project.pages_eq, List.map_map]
    rfl
  case names =>
    have hnames : project.unroutedFiles.map Path.baseName =
        (Routes.ofProject project).unrouted.map (·.name) := by
      rw [hunrouted, List.map_map]
      rfl
    rw [hnames]
    change Keyed.find? ((Keyed.insert _ "unroutedPages" _).insert "untypedServices" _) _ = _
    rw [Keyed.find?_insert_of_ne _ _ (by decide), Keyed.find?_insert_self]
    rfl
  case noGap =>
    intro hnone gap hmem hid
    have hgap : gap ∈ (analyze project).gaps.filter (·.id == routeGapId) :=
      List.mem_filter.mpr ⟨hmem, beq_iff_eq.mpr hid⟩
    have hnoGap : (Routes.ofProject project).gap? project.config.layout.appRoot = none := by
      rw [Routes.gap?, hunrouted, hnone]
      rfl
    rw [filter_gaps, hnoGap] at hgap
    cases hgap
  case oneGap =>
    intro hsome
    cases hgap : (Routes.ofProject project).gap? project.config.layout.appRoot with
    | none =>
      rw [Routes.gap?, hunrouted] at hgap
      simp [hsome] at hgap
    | some gap =>
      refine ⟨gap, by rw [filter_gaps, hgap]; rfl, ?_, ?_⟩
      · rw [affectedFiles_of_gap? hgap, hunrouted, List.map_map]
        apply List.map_congr_left
        intro path _
        simp only [Function.comp_apply, Routes.pageOf]
      · intro path hpath
        have hpage : Routes.pageOf project path ∈ (Routes.ofProject project).unrouted := by
          rw [hunrouted]
          exact List.mem_map_of_mem hpath
        have hname : (Routes.pageOf project path).name = Path.baseName path := by
          simp only [Routes.pageOf]
        have hinfix := snippet_infix_recommendation hgap hpage
        rwa [hname] at hinfix
  case rootless =>
    intro hempty
    have hnone := unroutedFiles_eq_pageFiles hroot (project.rootText_eq_nil hempty)
    exact ⟨hnone, exactCoverage_of_rootless hroot hnone, coverage_of_rootless hroot hnone⟩

/-- A project in which the application root shows the only page under another name than that of its
file. -/
def bracketed : Project where
  tree := .folder [("p", .folder [("src", .folder [
    ("App.tsx", .file
      "import Id from './pages/[id]';\nexport default () => <Id />;\n".toUTF8),
    ("pages", .folder [("[id].tsx", .file .empty)])])])]
  root := "/p"
  config := {}

theorem routes_exact_bracketed :
    (∀ tree ∈ bracketed.rootTree?, tree.StandsIn bracketed.rootText) ∧
      bracketed.RoutesPage "Id" ∧ bracketed.unroutedFiles = ["/p/src/pages/[id].tsx"] ∧
      ∃ gap, (analyze bracketed).gaps.filter (·.id == routeGapId) = [gap] ∧
        gap.affectedFiles = ["src/pages/[id].tsx"] := by
  have hroot : ∀ tree ∈ bracketed.rootTree?, tree.StandsIn bracketed.rootText := by decide +kernel
  have hshown : bracketed.RoutesPage "Id" := by
    refine (isRouted_pageOf_iff hroot "/p/src/pages/Id.tsx").mp ?_
    decide +kernel
  have hname : Path.baseName "/p/src/pages/[id].tsx" = "[id]" := by decide +kernel
  have hhidden : ¬bracketed.RoutesPage "[id]" := by
    rw [← hname, ← isRouted_pageOf_iff hroot]
    decide +kernel
  have hunrouted : bracketed.unroutedFiles = ["/p/src/pages/[id].tsx"] := by
    have hpages : bracketed.pageFiles = ["/p/src/pages/[id].tsx"] := by decide +kernel
    simp [unroutedFiles, hpages, hname, hhidden]
  obtain ⟨gap, hgap, hfiles, -⟩ :=
    (routes_exact bracketed hroot).oneGap (by rw [hunrouted]; exact List.cons_ne_nil _ _)
  rw [hunrouted] at hfiles
  exact ⟨hroot, hshown, hunrouted, gap, hgap, hfiles.trans (by decide +kernel)⟩

end Structure

end GapAudit
