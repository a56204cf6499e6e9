import Mathlib
import GapAudit.Proofs.Features.Completion
import GapAudit.Proofs.Path.Relative
import GapAudit.Proofs.Quality.Deductions
import GapAudit.Proofs.Walk.Places

/-!
# Components and their tests

The checks count the component files outside the folder of ready-made building blocks, and list
those of them that have no test of the same base name (`QualityChecks.countsTests_ofProject`). Tests
that are added to a project leave no more components untested and, unless the type checker complains
about them, make its score no worse (`Project.AddsOnlyTests.score_le`). In a tree without links,
building blocks that come or go change nothing of what is counted
(`Project.DiffersInKit.counts_eq`), because a walk finds files by where they stand. The main
statement puts these together (`Project.testCoverage_exact`); what it leaves out is left out for a
reason (`Project.testCoverage_exceptions`).
-/

namespace GapAudit

namespace Project

/-- Whether a path is, relative to the project, under the folder of ready-made building blocks. -/
def InKit (project : Project) (path : String) : Prop :=
  (Path.isAbsolute project.config.layout.uiKitDir = Path.isAbsolute (project.relative path) ∨
      project.config.layout.uiKitDir = "") ∧
    Path.components project.config.layout.uiKitDir <+: Path.components (project.relative path)

/-- Whether a path has the file name of a test, a specification or a story, or lies, relative to the
project, in a folder with tests. -/
def IsTest (project : Project) (path : String) : Prop :=
  (∃ mark ∈ [".test.", ".spec.", ".stories."], mark.toList <:+: (Path.fileName path).toList) ∨
    ∃ folder ∈ Path.components (project.relative path), folder ∈ testFolders

/-- Whether a file has a test: one of the same base name anywhere in the project. -/
def HasTest (project : Project) (path : String) : Prop :=
  ∃ test ∈ project.walk "" Walk.tests,
    project.IsTest test ∧ Path.baseName test = Path.baseName path

variable {project : Project}

instance : DecidablePred project.InKit := fun _ => inferInstanceAs (Decidable (_ ∧ _))

instance : DecidablePred project.IsTest := fun _ => inferInstanceAs (Decidable (_ ∨ _))

instance : DecidablePred project.HasTest := fun _ =>
  inferInstanceAs (Decidable (∃ test ∈ _, _))

lemma isUnder_uiKitDir_iff (path : String) :
    Path.isUnder project.config.layout.uiKitDir (project.relative path) = true ↔
      project.InKit path :=
  Path.isUnder_iff _ _

lemma isTest_iff (path : String) :
    (isTestFile path || inTestFolder (project.relative path)) = true ↔ project.IsTest path := by
  rw [Bool.or_eq_true, isTestFile, inTestFolder, List.any_eq_true, List.any_eq_true]
  simp only [Text.occursIn_iff, List.contains_iff_mem, IsTest]

/-- However an absolute path is written, it is in the kit or not. -/
lemma inKit_congr (hroot : Path.isAbsolute project.root = true) {p q : String}
    (hp : Path.isAbsolute p = true) (hq : Path.isAbsolute q = true)
    (h : Path.components p = Path.components q) : project.InKit p ↔ project.InKit q := by
  obtain ⟨hcomponents, habsolute⟩ := Path.components_relativeTo_congr hroot hp hq h
  rw [InKit, InKit, relative, relative, hcomponents, habsolute]

/-- However an absolute path is written, it is one of a test or not. -/
lemma isTest_congr (hroot : Path.isAbsolute project.root = true) {p q : String}
    (hp : Path.isAbsolute p = true) (hq : Path.isAbsolute q = true)
    (h : Path.components p = Path.components q) : project.IsTest p ↔ project.IsTest q := by
  obtain ⟨hcomponents, -⟩ := Path.components_relativeTo_congr hroot hp hq h
  have hname : Path.fileName p = Path.fileName q := by
    simp only [Path.fileName, Path.fileName?, h]
  rw [IsTest, IsTest, relative, relative, hcomponents, hname]

lemma ownedFiles_eq :
    QualityChecks.ownedFiles project =
      (QualityChecks.componentFiles project).filter fun path => ¬project.InKit path := by
  refine List.filter_congr fun path _ => ?_
  rw [Bool.eq_iff_iff, Bool.not_eq_true', ← Bool.not_eq_true, isUnder_uiKitDir_iff,
    decide_eq_true_iff]

lemma mem_map_baseName_testFiles_iff (path : String) :
    Path.baseName path ∈ (QualityChecks.testFiles project).map Path.baseName ↔
      project.HasTest path := by
  simp only [QualityChecks.testFiles, List.mem_map, List.mem_filter, isTest_iff, HasTest,
    and_assoc]

lemma untestedComponents_eq :
    (QualityChecks.ofProject project).untestedComponents =
      ((QualityChecks.ownedFiles project).filter fun path => ¬project.HasTest path).map
        project.relative := by
  have htested : ∀ path,
      (!((QualityChecks.testFiles project).map Path.baseName).contains (Path.baseName path)) =
        decide (¬project.HasTest path) := by
    intro path
    rw [Bool.eq_iff_iff, Bool.not_eq_true', ← Bool.not_eq_true, List.contains_iff_mem,
      mem_map_baseName_testFiles_iff, decide_eq_true_iff]
  simp only [QualityChecks.ofProject, htested]

end Project

namespace QualityChecks

/-- Checks that count the component files of a project outside the folder of ready-made building
blocks, list those of them without a test, and know the share of the others in percent. -/
structure CountsTests (checks : QualityChecks) (project : Project) : Prop where
  componentCount_eq : checks.componentCount =
    ((project.walk project.config.layout.componentsDir Walk.components).filter fun path =>
      ¬project.InKit path).length
  untestedComponents_eq : checks.untestedComponents =
    (((project.walk project.config.layout.componentsDir Walk.components).filter fun path =>
      ¬project.InKit path).filter fun path => ¬project.HasTest path).map project.relative
  counted : checks.untestedComponents.length ≤ checks.componentCount
  coverage_mem : (checks.testCoverage : ℚ) ∈ Set.Icc 0 100
  coverage_of_none : checks.componentCount = 0 → (checks.testCoverage : ℚ) = 100

theorem countsTests_ofProject (project : Project) : (ofProject project).CountsTests project where
  componentCount_eq := by
    simp only [ofProject, Project.ownedFiles_eq, componentFiles]
  untestedComponents_eq := by
    rw [Project.untestedComponents_eq, Project.ownedFiles_eq, componentFiles]
  counted := isCounted_ofProject project
  coverage_mem := testCoverage_mem_Icc (isCounted_ofProject project)
  coverage_of_none := by
    intro hnone
    rw [testCoverage_eq (isCounted_ofProject project), if_pos hnone]

end QualityChecks

lemma FileTree.text?_eq_of_isFile {tree more : FileTree} (h : tree.IsPartOf more) {path : String}
    (hpath : tree.isFile path = true) : more.text? path = tree.text? path := by
  rw [isFile] at hpath
  split at hpath
  · next content hentry =>
    obtain ⟨other, hother, hpart⟩ := exists_entry? h hentry
    rw [IsPartOf] at hpart
    rw [text?, text?, bytes?, bytes?, hother, hpart, hentry]
  · cases hpath

/-- What the type checker and the other checks find in a project. -/
def Findings.ofProject (project : Project) : Findings :=
  ⟨Quality.typecheck project, .ofProject project⟩

namespace Project

/-- What is added to a project is at most a test: it is no component, no page and no file of a
utility folder. -/
structure AddsOnlyTests (project : Project) (more : FileTree) : Prop where
  isPartOf : project.tree.IsPartOf more
  components : ∀ path ∈ QualityChecks.componentFiles { project with tree := more },
    path ∈ QualityChecks.componentFiles project
  pages : ∀ path ∈ QualityChecks.pageFiles { project with tree := more },
    path ∈ QualityChecks.pageFiles project
  utilities : ∀ folder ∈ project.config.layout.utilityDirs,
    ∀ path ∈ { project with tree := more }.walk folder Walk.sources,
      path ∈ project.walk folder Walk.sources

/-- A project whose files can be told apart: its root is an absolute path, and entries of folders
have names of their own. -/
structure IsReadable (project : Project) : Prop where
  absolute : Path.isAbsolute project.root = true
  named : project.tree.isNamed = true

variable {project : Project} {more : FileTree}

lemma walk_eq_of_forall_mem (h : project.IsReadable)
    (hmore : { project with tree := more }.IsReadable) (hpart : project.tree.IsPartOf more)
    {folder : String} {w : Walk}
    (hnew : ∀ path ∈ { project with tree := more }.walk folder w, path ∈ project.walk folder w) :
    { project with tree := more }.walk folder w = project.walk folder w :=
  Path.eq_of_mem_iff (pairwise_walk hmore.named hmore.absolute folder w)
    (pairwise_walk h.named h.absolute folder w) fun path =>
      ⟨hnew path, fun hpath => walk_subset hpart folder w hpath⟩

lemma failing_eq (h : project.IsReadable) (hpart : project.tree.IsPartOf more)
    (passes : String → Bool) (folder : String) (w : Walk) :
    QualityChecks.failing { project with tree := more } passes (project.walk folder w) =
      QualityChecks.failing project passes (project.walk folder w) := by
  refine congrArg (List.map project.relative) (List.filter_congr fun path hpath => ?_)
  have hfile : project.tree.isFile path = true := isFile_of_mem_walk h.named h.absolute hpath
  rw [text?, text?, FileTree.text?_eq_of_isFile hpart hfile]

namespace AddsOnlyTests

variable (h : project.AddsOnlyTests more)

include h

lemma hasTest {path : String} (hpath : project.HasTest path) :
    { project with tree := more }.HasTest path := by
  obtain ⟨test, htest, hname⟩ := hpath
  exact ⟨test, walk_subset h.isPartOf "" Walk.tests htest, hname⟩

variable (hproject : project.IsReadable) (hmore : { project with tree := more }.IsReadable)

include hproject hmore

lemma componentFiles_eq :
    QualityChecks.componentFiles { project with tree := more } =
      QualityChecks.componentFiles project :=
  walk_eq_of_forall_mem hproject hmore h.isPartOf h.components

lemma pageFiles_eq :
    QualityChecks.pageFiles { project with tree := more } = QualityChecks.pageFiles project :=
  walk_eq_of_forall_mem hproject hmore h.isPartOf h.pages

lemma ownedFiles_eq :
    QualityChecks.ownedFiles { project with tree := more } = QualityChecks.ownedFiles project :=
  congrArg (List.filter _) (h.componentFiles_eq hproject hmore)

lemma namingViolationsOf_eq :
    QualityChecks.namingViolationsOf { project with tree := more } =
      QualityChecks.namingViolationsOf project := by
  have hrelative : { project with tree := more }.relative = project.relative := rfl
  unfold QualityChecks.namingViolationsOf
  rw [h.ownedFiles_eq hproject hmore, h.pageFiles_eq hproject hmore, hrelative,
    List.append_cancel_left_eq]
  refine List.flatMap_congr fun folder hfolder => ?_
  rw [walk_eq_of_forall_mem hproject hmore h.isPartOf (h.utilities folder hfolder)]

/-- Tests that are added leave no more components without a test. -/
theorem untestedComponents_sublist :
    (QualityChecks.ofProject { project with tree := more }).untestedComponents.Sublist
      (QualityChecks.ofProject project).untestedComponents := by
  rw [untestedComponents_eq, untestedComponents_eq, h.ownedFiles_eq hproject hmore]
  refine (List.monotone_filter_right _ fun path huntested => ?_).map _
  rw [decide_eq_true_iff] at huntested ⊢
  exact mt h.hasTest huntested

lemma failing_pageFiles_eq (passes : String → Bool) :
    QualityChecks.failing { project with tree := more } passes
        (QualityChecks.pageFiles { project with tree := more }) =
      QualityChecks.failing project passes (QualityChecks.pageFiles project) := by
  rw [h.pageFiles_eq hproject hmore]
  exact failing_eq hproject h.isPartOf passes _ _

lemma failing_componentFiles_eq (passes : String → Bool) :
    QualityChecks.failing { project with tree := more } passes
        (QualityChecks.componentFiles { project with tree := more }) =
      QualityChecks.failing project passes (QualityChecks.componentFiles project) := by
  rw [h.componentFiles_eq hproject hmore]
  exact failing_eq hproject h.isPartOf passes _ _

lemma atMost
    (hproblems : (Quality.typecheck { project with tree := more }).problemCount ≤
      (Quality.typecheck project).problemCount) :
    (Findings.ofProject { project with tree := more }).AtMost (Findings.ofProject project) where
  problems := hproblems
  naming := by
    have hnaming := h.namingViolationsOf_eq hproject hmore
    simp only [Findings.ofProject, QualityChecks.ofProject, hnaming, le_refl]
  errorHandling := by
    have hpages := h.failing_pageFiles_eq hproject hmore
    simp only [Findings.ofProject, QualityChecks.ofProject, hpages, le_refl]
  loadingState := by
    have hpages := h.failing_pageFiles_eq hproject hmore
    simp only [Findings.ofProject, QualityChecks.ofProject, hpages, le_refl]
  accessibility := by
    have hcomponents := h.failing_componentFiles_eq hproject hmore
    simp only [Findings.ofProject, QualityChecks.ofProject, hcomponents, le_refl]
  untested := (h.untestedComponents_sublist hproject hmore).length_le
  count := by
    have howned := h.ownedFiles_eq hproject hmore
    simp only [Findings.ofProject, QualityChecks.ofProject, howned]

/-- Tests that are added make the score no worse, as long as the type checker finds no more
problems with them. -/
theorem score_le
    (hproblems : (Quality.typecheck { project with tree := more }).problemCount ≤
      (Quality.typecheck project).problemCount) :
    (Findings.ofProject project).score ≤
      (Findings.ofProject { project with tree := more }).score :=
  (h.atMost hproject hmore hproblems).score_le (QualityChecks.isCounted_ofProject _)
    (QualityChecks.isCounted_ofProject _)

end AddsOnlyTests

/-! ### Building blocks that come or go -/

/-- Two trees without links that differ in ready-made building blocks only: a file that stands at a
place of just one of them is in their folder and no test. -/
structure DiffersInKit (project : Project) (other : FileTree) : Prop where
  plain : project.tree.isPlain = true
  plain_other : other.isPlain = true
  files : ∀ place, ¬(project.tree.HoldsFile place ↔ other.HoldsFile place) →
    project.InKit (absolutePath place) ∧ ¬project.IsTest (absolutePath place)

/-- Whether no two points stand in the path of a project and in that of its components. -/
def IsStraight (project : Project) : Prop :=
  ∀ folder ∈ ["", project.config.layout.componentsDir],
    ".." ∉ Path.components (project.path folder)

instance : Decidable project.IsStraight :=
  inferInstanceAs (Decidable (∀ folder ∈ _, _))

namespace DiffersInKit

variable {other : FileTree} (h : project.DiffersInKit other)

include h

lemma mem_walk_iff (hproject : project.IsReadable) {folder : String} (w : Walk)
    (straight : ".." ∉ Path.components (project.path folder)) {path : String}
    (hpath : ¬project.InKit path ∨ project.IsTest path) :
    path ∈ { project with tree := other }.walk folder w ↔ path ∈ project.walk folder w := by
  have hcollect : path ∈ w.collect other (project.path folder) ↔
      path ∈ w.collect project.tree (project.path folder) := by
    refine (w.mem_collect_congr h.plain h.plain_other (Path.isAbsolute_join hproject.absolute folder)
      straight fun absolute => ?_).symm
    by_contra hdiffers
    obtain ⟨hkit, htest⟩ := h.files _ hdiffers
    have hplace : Path.components (absolutePath (Path.components path)) = Path.components path :=
      Path.components_absolutePath fun name => Path.isComponent_of_mem_components absolute
    have hroot := Path.isAbsolute_absolutePath (Path.components path)
    rw [inKit_congr hproject.absolute hroot absolute hplace] at hkit
    rw [isTest_congr hproject.absolute hroot absolute hplace] at htest
    exact hpath.elim (fun hnone => hnone hkit) htest
  rw [walk, walk, List.mem_filter, List.mem_filter]
  exact and_congr_left fun _ => hcollect

lemma ownedFiles_eq (hproject : project.IsReadable)
    (hother : { project with tree := other }.IsReadable) (straight : project.IsStraight) :
    QualityChecks.ownedFiles { project with tree := other } = QualityChecks.ownedFiles project := by
  rw [Project.ownedFiles_eq, Project.ownedFiles_eq]
  refine Path.eq_of_mem_iff ((pairwise_walk hother.named hother.absolute _ _).filter _)
    ((pairwise_walk hproject.named hproject.absolute _ _).filter _) fun path => ?_
  rw [List.mem_filter, List.mem_filter]
  by_cases hkit : project.InKit path
  · have hout : decide (¬project.InKit path) = false := decide_eq_false (not_not.mpr hkit)
    have hout' : decide (¬{ project with tree := other }.InKit path) = false := hout
    rw [hout, hout']
    exact iff_of_false (fun hmem => Bool.false_ne_true hmem.2) fun hmem =>
      Bool.false_ne_true hmem.2
  · have hsame := h.mem_walk_iff hproject Walk.components
      (straight project.config.layout.componentsDir (by simp)) (.inl hkit)
    exact and_congr_left fun _ => hsame

lemma hasTest_iff (hproject : project.IsReadable) (straight : project.IsStraight) (path : String) :
    { project with tree := other }.HasTest path ↔ project.HasTest path := by
  have hsame (test : String) (htest : project.IsTest test) :=
    h.mem_walk_iff hproject Walk.tests (straight "" (by simp)) (.inr htest)
  constructor
  · rintro ⟨test, hfound, htest, hname⟩
    exact ⟨test, (hsame test htest).mp hfound, htest, hname⟩
  · rintro ⟨test, hfound, htest, hname⟩
    exact ⟨test, (hsame test htest).mpr hfound, htest, hname⟩

/-- Building blocks that come or go change neither the count of components nor which of them have no
test. -/
theorem counts_eq (hproject : project.IsReadable)
    (hother : { project with tree := other }.IsReadable) (straight : project.IsStraight) :
    (QualityChecks.ofProject { project with tree := other }).componentCount =
        (QualityChecks.ofProject project).componentCount ∧
      (QualityChecks.ofProject { project with tree := other }).untestedComponents =
        (QualityChecks.ofProject project).untestedComponents := by
  have howned := h.ownedFiles_eq hproject hother straight
  constructor
  · simp only [QualityChecks.ofProject, howned]
  · rw [untestedComponents_eq, untestedComponents_eq, howned]
    refine congrArg (List.map project.relative) (List.filter_congr fun path _ => ?_)
    rw [decide_eq_decide, h.hasTest_iff hproject straight]

end DiffersInKit

/-- The checks of a project count its own components and list those without a test. Tests that are
added leave no more components without a test and make the score no worse, unless the type checker
finds more problems with them. Without links, and without two points on the way to the components,
ready-made building blocks that are no tests change neither the counts nor the coverage. -/
theorem testCoverage_exact (project : Project) :
    (QualityChecks.ofProject project).CountsTests project ∧
      (project.IsReadable → ∀ more, { project with tree := more }.IsReadable →
        (project.AddsOnlyTests more →
          (QualityChecks.ofProject { project with tree := more }).untestedComponents.Sublist
            (QualityChecks.ofProject project).untestedComponents ∧
          ((Quality.typecheck { project with tree := more }).problemCount ≤
              (Quality.typecheck project).problemCount →
            (Findings.ofProject project).score ≤
              (Findings.ofProject { project with tree := more }).score)) ∧
        (project.IsStraight → project.DiffersInKit more →
          (QualityChecks.ofProject { project with tree := more }).componentCount =
            (QualityChecks.ofProject project).componentCount ∧
          (QualityChecks.ofProject { project with tree := more }).untestedComponents =
            (QualityChecks.ofProject project).untestedComponents ∧
          ((QualityChecks.ofProject { project with tree := more }).testCoverage : ℚ) =
            (QualityChecks.ofProject project).testCoverage)) := by
  refine ⟨QualityChecks.countsTests_ofProject project, fun hproject more hmore => ⟨?_, ?_⟩⟩
  · intro hadds
    exact ⟨hadds.untestedComponents_sublist hproject hmore, hadds.score_le hproject hmore⟩
  · intro straight hdiffers
    obtain ⟨hcount, huntested⟩ := hdiffers.counts_eq hproject hmore straight
    refine ⟨hcount, huntested, ?_⟩
    simp only [QualityChecks.testCoverage, hcount, huntested]

/-- The components are counted as the walk comes upon them, in whatever order. -/
lemma componentCount_eq_countP (project : Project) (place : List String)
    {entries : List (String × FileTree)}
    (hresolve : project.tree.resolve (project.path project.config.layout.componentsDir) = .ok place)
    (hplace : project.tree.at? place = some (.folder entries)) :
    (QualityChecks.ofProject project).componentCount =
      (Walk.components.inFolder (Walk.components.throughLink project.tree project.tree.size)
        ⟨project.path project.config.layout.componentsDir, place, [place]⟩ entries).countP
          fun path => !Path.isUnder project.config.layout.uiKitDir (project.relative path) &&
            !project.config.isExcluded (project.relative path) := by
  have hcount : (QualityChecks.ofProject project).componentCount =
      (QualityChecks.ownedFiles project).length := by simp only [QualityChecks.ofProject]
  rw [hcount, QualityChecks.ownedFiles, QualityChecks.componentFiles, walk,
    Walk.components.collect_of_resolve hresolve hplace, List.filter_filter,
    ← List.countP_eq_length_filter, Path.sort, (List.mergeSort_perm _ _).countP_eq]

/-- A project with one component, which has no test, and room for ready-made building blocks. -/
def shop : Project where
  tree := .folder [("p", .folder [("src", .folder [("components", .folder [
    ("Cart.tsx", .file .empty), ("ui", .folder [])])])])]
  root := "/p"
  config := {}

theorem testCoverage_exact_shop :
    let tested := shop.tree.put (.file .empty) ["p", "tests", "Cart.tsx"]
    let other := shop.tree.put (.file .empty) ["p", "src", "components", "ui", "Button.tsx"]
    shop.IsReadable ∧
      (QualityChecks.ofProject shop).untestedComponents = ["src/components/Cart.tsx"] ∧
      { shop with tree := tested }.IsReadable ∧ shop.AddsOnlyTests tested ∧
      (Quality.typecheck { shop with tree := tested }).problemCount ≤
        (Quality.typecheck shop).problemCount ∧
      (QualityChecks.ofProject { shop with tree := tested }).untestedComponents.Sublist
        ["src/components/Cart.tsx"] ∧
      (Findings.ofProject shop).score ≤ (Findings.ofProject { shop with tree := tested }).score ∧
      { shop with tree := other }.IsReadable ∧ shop.IsStraight ∧ shop.DiffersInKit other ∧
      (QualityChecks.ofProject { shop with tree := other }).untestedComponents =
        ["src/components/Cart.tsx"] := by
  intro tested other
  have hshop : shop.IsReadable := ⟨by decide +kernel, by decide +kernel⟩
  have htested : { shop with tree := tested }.IsReadable := ⟨by decide +kernel, by decide +kernel⟩
  have hother : { shop with tree := other }.IsReadable := ⟨by decide +kernel, by decide +kernel⟩
  have huntested : (QualityChecks.ofProject shop).untestedComponents =
      ["src/components/Cart.tsx"] := by decide +kernel
  have hroom : shop.tree.HasRoomAt ["p", "tests", "Cart.tsx"] := by decide +kernel
  have hadds : shop.AddsOnlyTests tested :=
    ⟨FileTree.isPartOf_put _ hroom, by decide +kernel, by decide +kernel, by decide +kernel⟩
  have hproblems : (Quality.typecheck { shop with tree := tested }).problemCount ≤
      (Quality.typecheck shop).problemCount := by decide +kernel
  have straight : shop.IsStraight := by decide +kernel
  have hdiffers : shop.DiffersInKit other := by
    refine ⟨by decide +kernel, by decide +kernel, fun place hplace => ?_⟩
    have hway : shop.tree.HasWayTo (["p", "src", "components", "ui"] ++ ["Button.tsx"]) :=
      FileTree.hasWayTo_concat (by decide +kernel) fun _ _ => rfl
    obtain rfl : place = ["p", "src", "components", "ui", "Button.tsx"] := by
      by_contra hne
      exact hplace (FileTree.holdsFile_put_iff hway .empty hne).symm
    decide +kernel
  obtain ⟨-, htwo⟩ := testCoverage_exact shop
  obtain ⟨hfewer, hscore⟩ := (htwo hshop tested htested).1 hadds
  obtain ⟨-, hsame, -⟩ := (htwo hshop other hother).2 straight hdiffers
  rw [huntested] at hfewer hsame
  exact ⟨hshop, huntested, htested, hadds, hproblems, hfewer, hscore hproblems, hother, straight,
    hdiffers, hsame⟩

/-- A project without components whose type checker is a script that reads a test. -/
def scripted : Project where
  tree := .folder [("p", .folder [("tsconfig.json", .file .empty),
    ("types.sh", .file "/bin/cat tests/cart.ts\n".toUTF8)])]
  root := "/p"
  config := { typecheck := { command := ["/bin/sh", "types.sh"] } }

/-- A project with one component and a link to the folder of building blocks. -/
def linkedShop : Project where
  tree := .folder [("p", .folder [("src", .folder [("components", .folder [
    ("Cart.tsx", .file .empty), ("kit", .link "ui"), ("ui", .folder [])])])])]
  root := "/p"
  config := {}

/-- A project with one component in a folder that is written with two points. -/
def detouredShop : Project where
  tree := .folder [("p", .folder [("src", .folder [("lib", .folder []), ("components", .folder [
    ("Cart.tsx", .file .empty), ("ui", .folder [])])])])]
  root := "/p"
  config := { layout := { componentsDir := "src/lib/../components" } }

/-- A test that the type checker complains about makes the score worse. A building block counts as a
component of its own where a link leads to it, or if the folder of components is written with two
points, because then its path relative to the project is not under the folder of building blocks. -/
theorem testCoverage_exceptions :
    (let tested := scripted.tree.put
      (.file "tests/cart.ts(1,1): error TS2304: Cannot find name 'cart'.\n".toUTF8)
      ["p", "tests", "cart.ts"]
    scripted.IsReadable ∧ { scripted with tree := tested }.IsReadable ∧
      scripted.AddsOnlyTests tested ∧ scripted.IsTest "/p/tests/cart.ts" ∧
      (Findings.ofProject { scripted with tree := tested }).score <
        (Findings.ofProject scripted).score) ∧
    ∀ project ∈ [linkedShop, detouredShop],
      let other := project.tree.put (.file .empty) ["p", "src", "components", "ui", "Button.tsx"]
      project.IsReadable ∧ { project with tree := other }.IsReadable ∧
        project.InKit "/p/src/components/ui/Button.tsx" ∧
        ¬project.IsTest "/p/src/components/ui/Button.tsx" ∧
        (QualityChecks.ofProject project).componentCount = 1 ∧
        (QualityChecks.ofProject { project with tree := other }).componentCount = 2 := by
  constructor
  · intro tested
    have hroom : scripted.tree.HasRoomAt ["p", "tests", "cart.ts"] := by decide +kernel
    have hscripted : scripted.IsReadable := ⟨by decide +kernel, by decide +kernel⟩
    have htested : { scripted with tree := tested }.IsReadable :=
      ⟨by decide +kernel, by decide +kernel⟩
    have hadds : scripted.AddsOnlyTests tested :=
      ⟨FileTree.isPartOf_put _ hroom, by decide +kernel, by decide +kernel, by decide +kernel⟩
    exact ⟨hscripted, htested, hadds, by decide +kernel, by decide +kernel⟩
  · let place := ["p", "src", "components"]
    simp only [List.forall_mem_cons]
    refine ⟨⟨⟨by decide +kernel, by decide +kernel⟩, ⟨by decide +kernel, by decide +kernel⟩, ?_⟩,
      ⟨⟨by decide +kernel, by decide +kernel⟩, ⟨by decide +kernel, by decide +kernel⟩, ?_⟩, by simp⟩
    · refine ⟨by decide +kernel, by decide +kernel, ?_, ?_⟩
      · rw [componentCount_eq_countP linkedShop place (by decide +kernel) rfl]
        decide +kernel
      · rw [componentCount_eq_countP _ place (by decide +kernel) rfl]
        decide +kernel
    · refine ⟨by decide +kernel, by decide +kernel, ?_, ?_⟩
      · rw [componentCount_eq_countP detouredShop place (by decide +kernel) rfl]
        decide +kernel
      · rw [componentCount_eq_countP _ place (by decide +kernel) rfl]
        decide +kernel

end Project

end GapAudit
