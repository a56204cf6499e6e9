import Mathlib.Data.List.Basic
import GapAudit.Components.Inspection
import GapAudit.Quality.Checks

/-!
# Accessibility in two analyses

The inspection of components reads every file in the dialect that its extension tells, while the
checks of quality read all of them as markup. Both look at files that a walk over components takes,
and these are markup by their extensions (`Source.dialect_of_takesFile`), so that both find the same
about each file (`Components.accessibility_inspect`). The main statement is that they agree on the
files with issues (`filesWithIssues_eq`).
-/

namespace GapAudit

namespace Walk

variable {w : Walk} {enter : Position → String → List String}

mutual

lemma takesFile_of_mem_inFolder
    (henter : ∀ here name, ∀ path ∈ enter here name, w.takesFile path = true) (here : Position) :
    (entries : List (String × FileTree)) →
      ∀ path ∈ w.inFolder enter here entries, w.takesFile path = true
  | [], path, hmem => by cases hmem
  | (name, entry) :: rest, path, hmem => by
    rw [inFolder] at hmem
    rcases List.mem_append.mp hmem with hmem | hmem
    · exact takesFile_of_mem_inEntry henter here name entry path hmem
    · exact takesFile_of_mem_inFolder henter here rest path hmem

lemma takesFile_of_mem_inEntry
    (henter : ∀ here name, ∀ path ∈ enter here name, w.takesFile path = true) (here : Position)
    (name : String) :
    (entry : FileTree) → ∀ path ∈ w.inEntry enter here name entry, w.takesFile path = true
  | .file content, path, hmem => by
    rw [inEntry] at hmem
    split at hmem
    · next htakes => exact List.mem_singleton.mp hmem ▸ htakes
    · cases hmem
  | .link target, path, hmem => by
    rw [inEntry] at hmem
    exact henter here name path hmem
  | .folder entries, path, hmem => by
    rw [inEntry] at hmem
    split at hmem
    · cases hmem
    · exact takesFile_of_mem_inFolder henter _ entries path hmem

end

lemma takesFile_of_mem_throughLink (w : Walk) (tree : FileTree) (links : Nat) :
    ∀ here name, ∀ path ∈ w.throughLink tree links here name, w.takesFile path = true := by
  induction links with
  | zero => exact fun here name path hmem => by cases hmem
  | succ links ih =>
    intro here name path hmem
    rw [throughLink] at hmem
    split at hmem
    · cases hmem
    · split at hmem
      · split at hmem
        · next htakes => exact List.mem_singleton.mp hmem ▸ htakes
        · cases hmem
      · split at hmem
        · cases hmem
        · exact takesFile_of_mem_inFolder ih _ _ path hmem
      · cases hmem

/-- Every file that a walk finds is one that it takes, also behind links. -/
theorem takesFile_of_mem_collect {tree : FileTree} {root path : String}
    (hmem : path ∈ w.collect tree root) : w.takesFile path = true := by
  rw [collect] at hmem
  split at hmem
  · cases hmem
  · split at hmem
    · rw [Path.sort, List.mem_mergeSort] at hmem
      exact takesFile_of_mem_inFolder (takesFile_of_mem_throughLink w tree tree.size) _ _ path hmem
    · cases hmem

end Walk

lemma Project.takesFile_of_mem_walk {project : Project} {folder path : String} {w : Walk}
    (hmem : path ∈ project.walk folder w) : w.takesFile path = true :=
  Walk.takesFile_of_mem_collect (List.mem_filter.mp hmem).1

/-- A file that a walk over components takes is markup by its extension. -/
lemma Source.dialect_of_takesFile {path : String} (h : Walk.components.takesFile path = true) :
    Dialect.ofPath path = .markup := by
  rw [Walk.takesFile, Bool.and_eq_true, List.contains_iff_mem] at h
  have hextension : (Path.extension? path).getD "" ∈ ["tsx", "jsx"] := h.1
  rw [Dialect.ofPath]
  rcases hpath : Path.extension? path with _ | extension
  · rfl
  · rw [hpath, Option.getD_some] at hextension
    rcases List.mem_pair.mp hextension with rfl | rfl <;> rfl

lemma Components.accessibility_inspect (project : Project) {path : String} (source : String)
    (h : Walk.components.takesFile path = true) :
    (Components.inspect project path source).accessibility =
      Accessibility.scan source project.tools := by
  rw [Components.inspect, Accessibility.scan, Project.facts, Source.dialect_of_takesFile h]

/-- The checks of quality name exactly the files, in the same order, in which the inspection of
components finds issues of accessibility. -/
theorem QualityChecks.filesWithIssues_eq (project : Project) :
    (QualityChecks.ofProject project).componentsWithAccessibilityIssues =
      ((Components.inspectAll project).filter fun report =>
        0 < report.accessibility.issueCount).map (·.file) := by
  rw [QualityChecks.ofProject]
  dsimp only
  rw [QualityChecks.failing, QualityChecks.componentFiles, Components.inspectAll,
    List.filter_filterMap, List.map_filterMap, ← List.filterMap_eq_map, List.filterMap_filter]
  apply List.filterMap_congr
  intro path hmem
  have htakes := Project.takesFile_of_mem_walk hmem
  cases project.text? path with
  | none => rfl
  | some source =>
    have hsame := Components.accessibility_inspect project source htakes
    have hfile : (Components.inspect project path source).file = project.relative path := rfl
    by_cases hissues : (Accessibility.scan source project.tools).issueCount = 0
    · simp [Option.filter, hsame, hissues]
    · simp [Option.filter, hsame, hfile, hissues, Nat.pos_iff_ne_zero]

end GapAudit
