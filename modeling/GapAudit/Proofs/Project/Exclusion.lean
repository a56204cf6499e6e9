import Mathlib.Data.List.Basic
import GapAudit.Analyzers
import GapAudit.Proofs.FileTree.Shape

/-!
# What excluded files cannot change

The analyzers learn about a project from the shape of its tree and from the texts of files that a
walk comes upon. A walk passes over excluded files, so that their texts change nothing. The main
statement is that two projects which differ in excluded files only have the same outcome for every
analyzer (`outcome_eq_of_agreesOutsideExcluded`). The configuration files of tools in the root of a
project are looked up by name instead of by a walk, and they count even where they are excluded
(`toolFile_counts_though_excluded`).
-/

namespace GapAudit

namespace Project

/-- The folders whose files are read, each with the walk over it. -/
def searches (project : Project) : List (String × Walk) :=
  let layout := project.config.layout
  [(layout.componentsDir, .components), (layout.pagesDir, .components),
    (layout.servicesDir, .sources), (layout.sourceRoot, .sources),
    (layout.sourceRoot, Dependencies.scanWalk)]

/-- The files that the walks come upon, whether they are excluded or not. -/
def found (project : Project) : List String :=
  project.searches.flatMap fun search => search.2.collect project.tree (project.path search.1)

/-- Two projects with the same configuration, the same tools and the same paths, in which no file
that counts has another text: none that a walk comes upon and that is not excluded, and neither the
manifest nor the application root. -/
structure AgreesOutsideExcluded (a b : Project) : Prop where
  root_eq : a.root = b.root
  config_eq : a.config = b.config
  tools_eq : a.tools = b.tools
  shape_eq : a.tree.shape = b.tree.shape
  text_eq : ∀ path ∈ a.found, a.config.isExcluded (a.relative path) = false →
    a.text? path = b.text? path
  manifest_eq : a.text? (a.path a.config.layout.manifest) =
    b.text? (a.path a.config.layout.manifest)
  appRoot_eq : a.text? (a.path a.config.layout.appRoot) =
    b.text? (a.path a.config.layout.appRoot)

section

variable {a b : Project} (h : a.AgreesOutsideExcluded b)

include h

namespace AgreesOutsideExcluded

lemma path_eq (relative : String) : a.path relative = b.path relative := by
  rw [path, path, h.root_eq]

lemma relative_eq : a.relative = b.relative := by
  funext path
  rw [relative, relative, h.root_eq]

lemma facts_eq : a.facts = b.facts := by
  funext path source
  rw [facts, facts, h.tools_eq]

lemma isFile_eq : a.tree.isFile = b.tree.isFile := by
  funext path
  rw [← FileTree.isFile_shape, h.shape_eq, FileTree.isFile_shape]

lemma isFolder_eq : a.tree.isFolder = b.tree.isFolder := by
  funext path
  rw [← FileTree.isFolder_shape, h.shape_eq, FileTree.isFolder_shape]

lemma walk_eq (folder : String) (w : Walk) : a.walk folder w = b.walk folder w := by
  have hcollect : w.collect a.tree (a.path folder) = w.collect b.tree (b.path folder) := by
    rw [← Walk.collect_shape, h.shape_eq, Walk.collect_shape, h.path_eq]
  rw [walk, walk, hcollect, h.relative_eq, h.config_eq]

/-- What a walk keeps is not excluded, so its text is the same. -/
lemma text?_eq (folder : String) (w : Walk) (hsearch : (folder, w) ∈ b.searches) {path : String}
    (hpath : path ∈ b.walk folder w) : a.text? path = b.text? path := by
  rw [← h.walk_eq] at hpath
  rw [searches, ← h.config_eq] at hsearch
  obtain ⟨hcollect, hkept⟩ := List.mem_filter.mp hpath
  apply h.text_eq path
  · exact List.mem_flatMap.mpr ⟨(folder, w), hsearch, hcollect⟩
  · simpa using hkept

lemma texts_eq (folder : String) (w : Walk) (hsearch : (folder, w) ∈ b.searches) :
    (b.walk folder w).filterMap a.text? = (b.walk folder w).filterMap b.text? := by
  apply List.filterMap_congr
  intro path hpath
  exact h.text?_eq folder w hsearch hpath

end AgreesOutsideExcluded

lemma components_analyze_eq : Components.analyze a = Components.analyze b := by
  have htarget : Components.target? a = Components.target? b := by
    funext importer specifier
    simp only [Components.target?, h.path_eq, h.config_eq]
  have hresolves : Components.resolves a.tree = Components.resolves b.tree := by
    funext components
    simp only [Components.resolves, h.isFile_eq]
  have hinspect : Components.inspect a = Components.inspect b := by
    funext path source
    simp only [Components.inspect, Components.componentImports, htarget, hresolves, h.relative_eq,
      h.facts_eq]
  have hreports : Components.inspectAll a = Components.inspectAll b := by
    rw [Components.inspectAll, Components.inspectAll, h.walk_eq, hinspect, h.config_eq]
    apply List.filterMap_congr
    intro path hpath
    rw [h.text?_eq _ _ (by simp [searches]) hpath]
  rw [Components.analyze, Components.analyze, hreports]

lemma structure_analyze_eq : Structure.analyze a = Structure.analyze b := by
  have hroutes : Routes.ofProject a = Routes.ofProject b := by
    have happ := h.appRoot_eq
    rw [h.path_eq, h.config_eq] at happ
    have hpages : Routes.pagesOf a = Routes.pagesOf b := by
      rw [Routes.pagesOf, Routes.pagesOf, h.walk_eq, h.config_eq]
    simp only [Routes.ofProject, h.path_eq, h.config_eq, happ, hpages, h.relative_eq, h.facts_eq]
  have huntyped : Services.untyped a = Services.untyped b := by
    simp only [Services.untyped, h.walk_eq, h.config_eq]
    apply List.filter_congr
    intro path hpath
    have hdeclares : Services.declaresTypes a path = Services.declaresTypes b path := by
      rw [Services.declaresTypes, Services.declaresTypes,
        h.text?_eq _ _ (by simp [searches]) hpath, h.facts_eq]
    rw [hdeclares]
  have hfindings : StructureFindings.ofProject a = StructureFindings.ofProject b := by
    simp only [StructureFindings.ofProject, h.config_eq, h.path_eq, h.isFile_eq, h.isFolder_eq,
      hroutes, huntyped]
  have hservices : StructureFindings.servicesGap? a = StructureFindings.servicesGap? b := by
    funext services
    cases services <;> simp only [StructureFindings.servicesGap?, h.config_eq, h.relative_eq]
  have hgaps (f : StructureFindings) : f.gaps a = f.gaps b := by
    rw [StructureFindings.gaps, StructureFindings.gaps, h.config_eq, hservices]
  simp only [Structure.analyze, hfindings, hgaps]

lemma features_analyze_eq : Features.analyze a = Features.analyze b := by
  have hindex : ArtifactIndex.ofProject a = ArtifactIndex.ofProject b := by
    have htexts := h.texts_eq b.config.layout.sourceRoot Walk.sources (by simp [searches])
    simp only [ArtifactIndex.ofProject, h.walk_eq, h.config_eq, htexts]
  have horphans : Features.orphans a = Features.orphans b := by
    simp only [Features.orphans, h.walk_eq, h.config_eq]
  rw [Features.analyze, Features.analyze, hindex, horphans, h.config_eq]

lemma qualityChecks_eq : QualityChecks.ofProject a = QualityChecks.ofProject b := by
  have hcomponents : QualityChecks.componentFiles a = QualityChecks.componentFiles b := by
    rw [QualityChecks.componentFiles, QualityChecks.componentFiles, h.walk_eq, h.config_eq]
  have hpages : QualityChecks.pageFiles a = QualityChecks.pageFiles b := by
    rw [QualityChecks.pageFiles, QualityChecks.pageFiles, h.walk_eq, h.config_eq]
  have howned : QualityChecks.ownedFiles a = QualityChecks.ownedFiles b := by
    rw [QualityChecks.ownedFiles, QualityChecks.ownedFiles, hcomponents, h.config_eq,
      h.relative_eq]
  have htests : QualityChecks.testFiles a = QualityChecks.testFiles b := by
    rw [QualityChecks.testFiles, QualityChecks.testFiles, h.walk_eq, h.relative_eq]
  have hnaming : QualityChecks.namingViolationsOf a = QualityChecks.namingViolationsOf b := by
    simp only [QualityChecks.namingViolationsOf, howned, hpages, h.walk_eq, h.config_eq,
      h.relative_eq]
  have hfailing (passes : String → Bool) (paths : List String)
      (htext : ∀ path ∈ paths, a.text? path = b.text? path) :
      QualityChecks.failing a passes paths = QualityChecks.failing b passes paths := by
    have hfilter : paths.filter (fun path => (a.text? path).any fun source => !passes source) =
        paths.filter fun path => (b.text? path).any fun source => !passes source := by
      apply List.filter_congr
      intro path hpath
      rw [htext path hpath]
    rw [QualityChecks.failing, QualityChecks.failing, h.relative_eq, hfilter]
  have hpageText : ∀ path ∈ QualityChecks.pageFiles b, a.text? path = b.text? path := by
    intro path hpath
    exact h.text?_eq b.config.layout.pagesDir Walk.components (by simp [searches]) hpath
  have hcomponentText : ∀ path ∈ QualityChecks.componentFiles b, a.text? path = b.text? path := by
    intro path hpath
    exact h.text?_eq b.config.layout.componentsDir Walk.components (by simp [searches]) hpath
  simp only [QualityChecks.ofProject, hcomponents, hpages, howned, htests, hnaming,
    hfailing _ _ hpageText, hfailing _ _ hcomponentText, h.relative_eq, h.tools_eq]

lemma dependencies_analyze_eq
    (htools : ∀ path ∈ Dependencies.toolFiles a, a.text? path = b.text? path) :
    Dependencies.analyze a = Dependencies.analyze b := by
  have htoolFiles : Dependencies.toolFiles a = Dependencies.toolFiles b := by
    have hentry : (a.tree.entry? a.root).map FileTree.shape =
        (b.tree.entry? b.root).map FileTree.shape := by
      rw [← FileTree.entry?_shape, h.shape_eq, FileTree.entry?_shape, h.root_eq]
    unfold Dependencies.toolFiles
    have hpath : a.path = b.path := funext h.path_eq
    rw [hpath, h.isFile_eq]
    -- Folders with the same shape have entries of the same names.
    rcases hleft : a.tree.entry? a.root with _ | (_ | entries | _) <;>
      rcases hright : b.tree.entry? b.root with _ | (_ | entries' | _) <;>
      rw [hleft, hright] at hentry <;> simp [FileTree.shape] at hentry ⊢
    rw [← FileTree.map_fst_shapeAll entries, hentry, FileTree.map_fst_shapeAll]
  have htexts := h.texts_eq b.config.layout.sourceRoot Dependencies.scanWalk (by simp [searches])
  have htoolTexts : (Dependencies.toolFiles a).filterMap a.text? =
      (Dependencies.toolFiles b).filterMap b.text? := by
    rw [← htoolFiles]
    exact List.filterMap_congr htools
  have himported : Dependencies.imported a = Dependencies.imported b := by
    rw [Dependencies.imported, Dependencies.imported, Dependencies.scannedFiles,
      Dependencies.scannedFiles, List.filterMap_append, List.filterMap_append, htoolTexts,
      h.walk_eq, h.config_eq, htexts]
  have hmanifest : Manifest.load a.tools a.tree (a.path a.config.layout.manifest) =
      Manifest.load b.tools b.tree (b.path b.config.layout.manifest) := by
    have htext := h.manifest_eq
    rw [h.path_eq, h.config_eq] at htext
    change a.tree.text? _ = b.tree.text? _ at htext
    rw [Manifest.load, Manifest.load, h.tools_eq, h.isFile_eq, h.path_eq, h.config_eq, htext]
  rw [Dependencies.analyze, Dependencies.analyze, hmanifest, himported, h.config_eq]

end

/-- Two projects that differ in excluded files only have the same outcome for every analyzer, as
long as types are not checked by a program of the project's own and, for the analyzer of
dependencies, no configuration file of a tool differs. -/
theorem outcome_eq_of_agreesOutsideExcluded {a b : Project} (h : a.AgreesOutsideExcluded b)
    (htypecheck : a.config.typecheck.enabled = false) (name : String)
    (htools : name = "dependencies" →
      ∀ path ∈ Dependencies.toolFiles a, a.text? path = b.text? path) :
    a.outcome? name = b.outcome? name := by
  unfold outcome?
  split
  · rw [components_analyze_eq h]
  · rw [structure_analyze_eq h]
  · rw [features_analyze_eq h]
  · have hskipped : Quality.typecheck a = Quality.typecheck b := by
      have htypecheck' : b.config.typecheck.enabled = false := by rwa [← h.config_eq]
      simp [Quality.typecheck, htypecheck, htypecheck']
    rw [Quality.analyze, Quality.analyze, hskipped, qualityChecks_eq h]
  · rw [dependencies_analyze_eq h (htools rfl)]
  · rfl

/-- A project in which generated components and the settings of a tool are excluded. -/
def withExcluded (generated settings : String) : Project where
  tree := .folder [("p", .folder [
    ("package.json", .file "\x7b\x7d".toUTF8),
    ("vite.config.ts", .file settings.toUTF8),
    ("src", .folder [("components", .folder [
      ("generated", .folder [("Icon.tsx", .file generated.toUTF8)])])])])]
  root := "/p"
  config :=
    { typecheck := { enabled := false }
      excludedPaths := ["**/generated/**", "vite.config.*"] }

lemma withExcluded_agrees_generated :
    (withExcluded "import pad from 'left-pad';" "").AgreesOutsideExcluded
      (withExcluded "" "") where
  root_eq := rfl
  config_eq := rfl
  tools_eq := rfl
  shape_eq := rfl
  text_eq := by decide +kernel
  manifest_eq := by decide +kernel
  appRoot_eq := by decide +kernel

/-- An import in a generated component that is excluded changes nothing about the dependencies. -/
theorem outcome_eq_of_agreesOutsideExcluded_generated :
    (withExcluded "import pad from 'left-pad';" "").AgreesOutsideExcluded (withExcluded "" "") ∧
      (withExcluded "import pad from 'left-pad';" "").outcome? "dependencies" =
        (withExcluded "" "").outcome? "dependencies" :=
  have h := withExcluded_agrees_generated
  ⟨h, outcome_eq_of_agreesOutsideExcluded h rfl "dependencies" fun _ => by decide +kernel⟩

lemma withExcluded_agrees_settings :
    (withExcluded "" "import pad from 'left-pad';").AgreesOutsideExcluded
      (withExcluded "" "") where
  root_eq := rfl
  config_eq := rfl
  tools_eq := rfl
  shape_eq := rfl
  text_eq := by decide +kernel
  manifest_eq := by decide +kernel
  appRoot_eq := by decide +kernel

def gapIds : Option (Outcome Float) → List String
  | some (.done result) => result.gaps.map (·.id)
  | _ => []

/-- The same import in the excluded settings of a tool is reported as a missing package. -/
theorem toolFile_counts_though_excluded :
    let a := withExcluded "" "import pad from 'left-pad';"
    let b := withExcluded "" ""
    a.config.validate.isOk ∧ a.config.typecheck.enabled = false ∧ a.AgreesOutsideExcluded b ∧
      a.config.isExcluded (a.relative "/p/vite.config.ts") ∧
      (∀ path ∈ Dependencies.scannedFiles a ++ ["/p/package.json"],
        path ≠ "/p/vite.config.ts" → a.text? path = b.text? path) ∧
      a.outcome? "dependencies" ≠ b.outcome? "dependencies" := by
  refine ⟨by decide +kernel, rfl, withExcluded_agrees_settings, by decide +kernel,
    by decide +kernel, ?_⟩
  intro h
  have hids : gapIds ((withExcluded "" "import pad from 'left-pad';").outcome? "dependencies") ≠
      gapIds ((withExcluded "" "").outcome? "dependencies") := by
    decide +kernel
  exact hids (congrArg gapIds h)

end Project

end GapAudit
