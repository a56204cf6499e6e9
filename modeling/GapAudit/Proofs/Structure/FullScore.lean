import GapAudit.Structure.Analysis
import GapAudit.Proofs.Score.Exact
import GapAudit.Proofs.Walk.Exact

/-!
# When structure has the full score

Every folder, file and service that counts against a project takes something off its score and is
named by a gap. Routes do not keep the two together: the gap counts the pages without a route, while
the score depends on the coverage in whole percent, and that is 100 already where at most one page
in 200 has no route (`Routes.coverage_eq_hundred_iff`). The main statement says for every project
just when its score is full, just when it has no gap, and just when the two disagree
(`Structure.fullScore_exact`).
-/

namespace GapAudit

open Arithmetic

namespace Routes

lemma length_unrouted (routes : Routes) :
    routes.pages.countP (·.isRouted) + routes.unrouted.length = routes.pages.length := by
  have hlength := List.length_eq_countP_add_countP (l := routes.pages) (·.isRouted)
  have hunrouted : routes.unrouted.length = routes.pages.countP fun page => ¬page.isRouted := by
    rw [unrouted, List.countP_eq_length_filter]
    simp
  omega

lemma unrouted_eq_nil_iff (routes : Routes) :
    routes.unrouted = [] ↔ ∀ page ∈ routes.pages, page.imported = true ∧ page.shown = true := by
  simp [unrouted, PageRoute.isRouted, List.filter_eq_nil_iff]

lemma coverage_of_nil {routes : Routes} (h : routes.pages = []) : (routes.coverage : ℚ) = 100 := by
  rw [coverage, h]
  rfl

lemma coverage_of_ne_nil {routes : Routes} (h : routes.pages ≠ []) :
    (routes.coverage : ℚ) =
      roundRat (routes.pages.countP (·.isRouted) / routes.pages.length * 100) := by
  rw [coverage, if_neg (by simpa using h)]
  rfl

lemma coverage_le (routes : Routes) : (routes.coverage : ℚ) ≤ 100 := by
  by_cases h : routes.pages = []
  · exact (coverage_of_nil h).le
  · have hlength : (0 : ℚ) < routes.pages.length := by
      exact_mod_cast List.length_pos_iff.mpr h
    have hshare : (routes.pages.countP (·.isRouted) : ℚ) / routes.pages.length ≤ 1 := by
      rw [div_le_one hlength]
      exact_mod_cast List.countP_le_length
    have hround : roundRat (100 : ℕ) = (100 : ℕ) := roundRat_natCast 100
    rw [coverage_of_ne_nil h]
    calc roundRat (routes.pages.countP (·.isRouted) / routes.pages.length * 100)
        ≤ roundRat (100 : ℕ) := by
          apply roundRat_mono
          push_cast
          linarith
      _ = 100 := by
          rw [hround]
          norm_num

/-- The coverage is full as soon as at most one page in 200 has no route. -/
theorem coverage_eq_hundred_iff (routes : Routes) :
    (routes.coverage : ℚ) = 100 ↔ 200 * routes.unrouted.length ≤ routes.pages.length := by
  have hsum := routes.length_unrouted
  by_cases h : routes.pages = []
  · have hnone : routes.unrouted.length = 0 := by
      rw [h, List.length_nil] at hsum
      omega
    simp [coverage_of_nil h, h, hnone]
  · have hlength : (0 : ℚ) < routes.pages.length := by
      exact_mod_cast List.length_pos_iff.mpr h
    have hsum' : (routes.pages.countP (·.isRouted) : ℚ) =
        routes.pages.length - routes.unrouted.length := by
      rw [eq_sub_iff_add_eq]
      exact_mod_cast hsum
    have hfull : (routes.coverage : ℚ) = 100 ↔ ((100 : ℕ) : ℚ) ≤ routes.coverage := by
      push_cast
      exact ⟨fun heq => heq.ge, fun hle => le_antisymm routes.coverage_le hle⟩
    rw [hfull, coverage_of_ne_nil h, le_roundRat_iff (by norm_num), hsum', div_mul_eq_mul_div,
      le_div_iff₀ hlength]
    push_cast
    constructor
    · intro hle
      have hcast : (200 : ℚ) * routes.unrouted.length ≤ routes.pages.length := by linarith
      exact_mod_cast hcast
    · intro hle
      have hcast : (200 : ℚ) * routes.unrouted.length ≤ routes.pages.length := by exact_mod_cast hle
      linarith

end Routes

namespace StructureFindings

/-- What is taken off the full score. -/
def deduction (f : StructureFindings) : ℚ :=
  15 * f.missingFolders.length + 15 * f.missingFiles.length + 5 * f.untypedServices.length +
    (100 - f.routes.coverage) / 100 * 20

lemma deduction_nonneg (f : StructureFindings) : 0 ≤ f.deduction := by
  have hcoverage := f.routes.coverage_le
  unfold deduction
  have hroutes : 0 ≤ (100 - (f.routes.coverage : ℚ)) / 100 * 20 := by linarith
  positivity

lemma score_eq (f : StructureFindings) : (f.score : ℚ) = Score.clamp (100 - f.deduction) := by
  have hscore : (f.score : ℚ) = greater (100 - (f.missingFolders.length : ℚ) * 15 -
      (f.missingFiles.length : ℚ) * 15 - (100 - f.routes.coverage) / 100 * 20 -
      (f.untypedServices.length : ℚ) * 5) 0 := rfl
  rw [hscore, greater_eq_max, Score.clamp_sub f.deduction_nonneg, max_comm]
  congr 1
  unfold deduction
  ring

lemma deduction_eq_zero_iff (f : StructureFindings) :
    f.deduction = 0 ↔ f.missingFolders = [] ∧ f.missingFiles = [] ∧ f.untypedServices = [] ∧
      (f.routes.coverage : ℚ) = 100 := by
  have hroutes : 0 ≤ (100 - (f.routes.coverage : ℚ)) / 100 * 20 := by
    have hcoverage := f.routes.coverage_le
    linarith
  have hroutes' : (100 - (f.routes.coverage : ℚ)) / 100 * 20 = 0 ↔
      (f.routes.coverage : ℚ) = 100 := by
    constructor <;> intro h <;> linarith
  unfold deduction
  rw [add_eq_zero_iff_of_nonneg (by positivity) hroutes,
    add_eq_zero_iff_of_nonneg (by positivity) (by positivity),
    add_eq_zero_iff_of_nonneg (by positivity) (by positivity), hroutes']
  simp [and_assoc]

lemma gaps_eq_nil_iff (f : StructureFindings) (project : Project) :
    f.gaps project = [] ↔ f.missingFolders = [] ∧ f.missingFiles = [] ∧ f.untypedServices = [] ∧
      f.routes.unrouted = [] := by
  have hroutes : f.routes.gap? project.config.layout.appRoot = none ↔ f.routes.unrouted = [] := by
    simp [Routes.gap?]
  have hservices : servicesGap? project f.untypedServices = none ↔ f.untypedServices = [] := by
    cases f.untypedServices <;> simp [servicesGap?]
  simp only [gaps, List.append_eq_nil_iff, List.map_eq_nil_iff, Option.toList_eq_nil_iff, hroutes,
    hservices]
  tauto

end StructureFindings

/-- Everything that a project requires is there, and all its services have types. -/
structure Project.IsFurnished (project : Project) : Prop where
  folders : ∀ folder ∈ project.config.skeleton.requiredDirectories,
    project.tree.isFolder (project.path folder) = true
  files : ∀ file ∈ project.config.skeleton.requiredFiles,
    project.tree.isFile (project.path file) = true
  services : Services.untyped project = []

lemma Project.isFurnished_iff (project : Project) :
    project.IsFurnished ↔ (StructureFindings.ofProject project).missingFolders = [] ∧
      (StructureFindings.ofProject project).missingFiles = [] ∧
      (StructureFindings.ofProject project).untypedServices = [] := by
  simp only [StructureFindings.ofProject, List.filter_eq_nil_iff, Bool.not_eq_true',
    Bool.not_eq_false]
  exact ⟨fun h => ⟨h.folders, h.files, h.services⟩, fun h => ⟨h.1, h.2.1, h.2.2⟩⟩

namespace Structure

lemma score_eq_hundred_iff (project : Project) :
    (Score.clamp (StructureFindings.ofProject project).score : ℚ) = 100 ↔
      project.IsFurnished ∧ 200 * (Routes.ofProject project).unrouted.length ≤
        (Routes.ofProject project).pages.length := by
  let f := StructureFindings.ofProject project
  have hroutes : f.routes = Routes.ofProject project := rfl
  rw [f.score_eq, Score.clamp_clamp, Score.clamp_sub_eq_hundred_iff f.deduction_nonneg,
    f.deduction_eq_zero_iff, f.routes.coverage_eq_hundred_iff, project.isFurnished_iff, and_assoc,
    and_assoc, hroutes]

lemma gaps_eq_nil_iff (project : Project) :
    (analyze project).gaps = [] ↔
      project.IsFurnished ∧ (Routes.ofProject project).unrouted = [] := by
  let f := StructureFindings.ofProject project
  have hgaps : (analyze project).gaps = f.gaps project := rfl
  have hroutes : f.routes = Routes.ofProject project := rfl
  rw [hgaps, f.gaps_eq_nil_iff, project.isFurnished_iff, and_assoc, and_assoc, hroutes]

/-- The exact score of a project is full just when nothing is missing but the routes of at most one
page in 200, and there is no gap just when these have their routes as well. So score and gaps
disagree just when routes are missing but so few. -/
theorem fullScore_exact (project : Project) :
    let routes := Routes.ofProject project
    let score : ℚ := Score.clamp (StructureFindings.ofProject project).score
    let gaps := (analyze project).gaps
    score ≤ 100 ∧
      (gaps = [] ↔ project.IsFurnished ∧
        ∀ page ∈ routes.pages, page.imported = true ∧ page.shown = true) ∧
      (score = 100 ↔ project.IsFurnished ∧
        200 * routes.unrouted.length ≤ routes.pages.length) ∧
      ((score = 100 ↔ gaps = []) ↔ ¬(project.IsFurnished ∧ routes.unrouted ≠ [] ∧
        200 * routes.unrouted.length ≤ routes.pages.length)) := by
  intro routes score gaps
  have hfull : score = 100 ↔ project.IsFurnished ∧
      200 * routes.unrouted.length ≤ routes.pages.length := score_eq_hundred_iff project
  have hgaps : gaps = [] ↔ project.IsFurnished ∧ routes.unrouted = [] := gaps_eq_nil_iff project
  refine ⟨Score.clamp_le _, ?_, hfull, ?_⟩
  · rw [hgaps, routes.unrouted_eq_nil_iff]
  · rw [hfull, hgaps]
    constructor
    · rintro hagree ⟨hfurnished, hne, hfew⟩
      exact hne (hagree.mp ⟨hfurnished, hfew⟩).2
    · intro hno
      constructor
      · rintro ⟨hfurnished, hfew⟩
        by_contra hgap
        exact hno ⟨hfurnished, fun hnone => hgap ⟨hfurnished, hnone⟩, hfew⟩
      · rintro ⟨hfurnished, hnone⟩
        exact ⟨hfurnished, by simp [hnone]⟩

end Structure

namespace Routes

def pageOf (project : Project) (path : String) : PageRoute :=
  let root := project.path project.config.layout.appRoot
  let source := ((project.text? root).getD "").toList
  let facts := project.facts root source
  { name := Path.baseName path
    file := project.relative path
    imported := binds facts source (Path.baseName path).toList
    shown := shows facts (withoutImports source facts) (Path.baseName path).toList }

lemma pages_ofProject (project : Project) :
    (ofProject project).pages =
      ((project.walk project.config.layout.pagesDir Walk.components).filter fun path =>
        !project.config.skeleton.routeExclusions.contains (Path.baseName path)).map
          (pageOf project) := by
  simp only [ofProject, pagesOf, List.filter_map, List.map_map]
  rfl

end Routes

lemma Routes.isRouted_pageOf_congr (project : Project) {path path' : String}
    (h : Path.fileName? path = Path.fileName? path') :
    (pageOf project path).isRouted = (pageOf project path').isRouted := by
  simp only [pageOf, PageRoute.isRouted, Path.baseName, Path.fileName, h]

lemma Walk.takesFile_congr (w : Walk) {path path' : String}
    (h : Path.fileName? path = Path.fileName? path') : w.takesFile path = w.takesFile path' := by
  simp only [takesFile, isTestFile, Path.extension?, Path.fileName, h]

lemma Walk.collect_perm (w : Walk) {tree : FileTree} (plain : tree.isPlain = true)
    {root : String} {place : List String} {entries : List (String × FileTree)}
    (hresolve : tree.resolve root = .ok place) (hplace : tree.at? place = some (.folder entries)) :
    (w.collect tree root).Perm
      (((w.reached entries).map fun names => names.foldl Path.join root).filter w.takesFile) := by
  rw [collect, hresolve]
  simp only [hplace]
  rw [inFolder_eq w _ _ entries (FileTree.isNamedBy_of_at? plain hplace).2]
  exact List.mergeSort_perm _ _

namespace Structure

/-- The names of the areas of a large project, and of those within each. -/
def areas : List String :=
  ["a", "b", "c", "d", "e", "f", "g", "h", "i", "j", "k", "l", "m", "n", "o"]

/-- Every area of every area has a home page, and one page stands outside. -/
def lostPages : List (String × FileTree) :=
  ("Lost.tsx", .file .empty) :: areas.map fun area => (area, .folder (areas.map fun inner =>
    (inner, .folder [("Home.tsx", .file .empty)])))

/-- A large project in which the application root shows the home pages only. -/
def lostPage : Project where
  tree := .folder [("p", .folder [("src", .folder [
    ("App.tsx", .file
      "import Home from './pages/a/a/Home';\nexport default () => <Home />;\n".toUTF8),
    ("pages", .folder lostPages)])])]
  root := "/p"
  config := { skeleton := { requiredDirectories := [], requiredFiles := [] } }

def homeFiles : List String :=
  (Walk.components.reached lostPages.tail).map fun names => names.foldl Path.join "/p/src/pages"

lemma fileName?_of_mem_homeFiles {path : String} (h : path ∈ homeFiles) :
    Path.fileName? path = Path.fileName? "/Home.tsx" := by
  have hnames : ∀ names ∈ Walk.components.reached lostPages.tail,
      names.getLast? = some "Home.tsx" ∧ ∀ name ∈ names, Path.isSegment name = true := by
    decide +kernel
  obtain ⟨names, hmem, rfl⟩ := List.mem_map.mp h
  obtain ⟨hlast, hsegments⟩ := hnames names hmem
  obtain ⟨above, rfl⟩ := List.getLast?_eq_some_iff.mp hlast
  have hcomponents : Path.components ((above ++ ["Home.tsx"]).foldl Path.join "/p/src/pages") =
      (Path.components "/p/src/pages" ++ above) ++ ["Home.tsx"] := by
    rw [Path.components_foldl_join (by decide +kernel) hsegments, List.append_assoc]
  rw [Path.fileName?_of_components hcomponents (by decide +kernel)]
  decide +kernel

lemma lostPage_walk_perm :
    (lostPage.walk lostPage.config.layout.pagesDir Walk.components).Perm
      ("/p/src/pages/Lost.tsx" :: homeFiles) := by
  have hplain : lostPage.tree.isPlain = true := by decide +kernel
  have hresolve : lostPage.tree.resolve (lostPage.path "src/pages") =
      .ok ["p", "src", "pages"] := by
    decide +kernel
  have hroot : lostPage.path "src/pages" = "/p/src/pages" := by decide +kernel
  have hwalk : lostPage.walk lostPage.config.layout.pagesDir Walk.components =
      Walk.components.collect lostPage.tree (lostPage.path "src/pages") :=
    List.filter_eq_self.mpr fun _ _ => rfl
  have hreached : (Walk.components.reached lostPages).map (fun names =>
      names.foldl Path.join "/p/src/pages") = "/p/src/pages/Lost.tsx" :: homeFiles := by
    have hlost : ["Lost.tsx"].foldl Path.join "/p/src/pages" = "/p/src/pages/Lost.tsx" := by
      decide +kernel
    rw [← hlost]
    rfl
  have htaken : ∀ path ∈ "/p/src/pages/Lost.tsx" :: homeFiles,
      Walk.components.takesFile path = true := by
    intro path hmem
    rcases List.mem_cons.mp hmem with rfl | hmem
    · decide +kernel
    · rw [Walk.components.takesFile_congr (fileName?_of_mem_homeFiles hmem)]
      decide +kernel
  have hat : lostPage.tree.at? ["p", "src", "pages"] = some (.folder lostPages) := rfl
  have hperm := Walk.components.collect_perm hplain hresolve hat
  rw [hroot, hreached, List.filter_eq_self.mpr htaken] at hperm
  rw [hwalk, hroot]
  exact hperm

lemma lostPage_pages_perm :
    (Routes.ofProject lostPage).pages.Perm
      (Routes.pageOf lostPage "/p/src/pages/Lost.tsx" ::
        homeFiles.map (Routes.pageOf lostPage)) := by
  have hkept : ∀ path ∈ "/p/src/pages/Lost.tsx" :: homeFiles,
      (!lostPage.config.skeleton.routeExclusions.contains (Path.baseName path)) = true := by
    intro path hmem
    rcases List.mem_cons.mp hmem with rfl | hmem
    · decide +kernel
    · rw [Path.baseName, Path.fileName, fileName?_of_mem_homeFiles hmem]
      decide +kernel
  have hperm := (lostPage_walk_perm.filter fun path =>
    !lostPage.config.skeleton.routeExclusions.contains (Path.baseName path)).map
      (Routes.pageOf lostPage)
  rw [List.filter_eq_self.mpr hkept] at hperm
  rw [Routes.pages_ofProject]
  exact hperm

lemma lostPage_unrouted_perm :
    (Routes.ofProject lostPage).unrouted.Perm [Routes.pageOf lostPage "/p/src/pages/Lost.tsx"] := by
  have hlost : (Routes.pageOf lostPage "/p/src/pages/Lost.tsx").isRouted = false := by
    decide +kernel
  have hhome : (Routes.pageOf lostPage "/Home.tsx").isRouted = true := by decide +kernel
  have hhomes : (homeFiles.map (Routes.pageOf lostPage)).filter
      (fun page => !page.isRouted) = [] := by
    rw [List.filter_eq_nil_iff]
    intro page hmem
    obtain ⟨path, hpath, rfl⟩ := List.mem_map.mp hmem
    rw [Routes.isRouted_pageOf_congr lostPage (fileName?_of_mem_homeFiles hpath), hhome]
    decide
  have hperm := lostPage_pages_perm.filter fun page => !page.isRouted
  rw [List.filter_cons, hhomes, hlost] at hperm
  exact hperm

/-- The configuration is valid and one page of 226 has no route, which a gap reports, and yet the
score is full. -/
theorem lostPage_scores_full :
    lostPage.config.validate.isOk ∧ (Routes.ofProject lostPage).pages.length = 226 ∧
      (Routes.ofProject lostPage).unrouted.map (·.name) = ["Lost"] ∧
      (analyze lostPage).gaps ≠ [] ∧
      (Score.clamp (StructureFindings.ofProject lostPage).score : ℚ) = 100 := by
  have hpages : (Routes.ofProject lostPage).pages.length = 226 := by
    have hlength : homeFiles.length = 225 := by
      rw [homeFiles, List.length_map]
      decide +kernel
    rw [lostPage_pages_perm.length_eq, List.length_cons, List.length_map, hlength]
  have hunrouted := List.perm_singleton.mp lostPage_unrouted_perm
  have hfurnished : lostPage.IsFurnished := by
    refine ⟨?_, ?_, by decide +kernel⟩
    · intro folder hfolder
      cases hfolder
    · intro file hfile
      cases hfile
  refine ⟨by decide +kernel, hpages, ?_, ?_, ?_⟩
  · rw [hunrouted]
    decide +kernel
  · rw [Ne, gaps_eq_nil_iff, hunrouted]
    simp
  · rw [score_eq_hundred_iff, hunrouted, hpages]
    exact ⟨hfurnished, by decide⟩

end Structure

end GapAudit
