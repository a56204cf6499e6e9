import Mathlib
import GapAudit.Components.Inspection
import GapAudit.Proofs.FileTree.Lookup
import GapAudit.Proofs.Path.Lexical
import GapAudit.Proofs.Project.GapIds
import GapAudit.Proofs.Text.Word
import GapAudit.Proofs.Walk.Exact

/-!
# Imports of components that do not exist

A specifier names a place, seen from the file it stands in (`Components.Names`). It is missing if
the place belongs to the folder of components and none of the files that the specifier may mean is
there (`Components.IsMissing`). In a tree without links the report on a file lists exactly the
missing ones among its specifiers, and a critical gap says so (`Components.missingImports_exact`).
-/

namespace GapAudit

open GapAudit.Path

namespace Project

/-- The place of something that is given relative to a project. -/
def place (project : Project) (relative : String) : List String :=
  destination (destination [] project.root) relative

lemma isAbsolute_path {project : Project} (h : isAbsolute project.root = true) (relative : String) :
    isAbsolute (project.path relative) = true :=
  isAbsolute_join h relative

lemma normalize_path {project : Project} (h : isAbsolute project.root = true) (relative : String) :
    normalize (project.path relative) = project.place relative := by
  rw [path, normalize_join h, normalize_eq, place]

end Project

namespace Components

variable {project : Project} {importer specifier : String}

/-- Whether a specifier names the framework or something below it. -/
def NamesFramework (specifier : String) : Prop :=
  specifier = "react" ∨ specifier = "react-dom" ∨ "react/".toList <+: specifier.toList ∨
    "react-dom/".toList <+: specifier.toList

/-- The place that a specifier names: one that starts with a point is read from the folder of the
file it stands in, one that starts with the alias from the folder of the alias. -/
inductive Names (project : Project) (importer specifier : String) : List String → Prop where
  | relative (h : ".".toList <+: specifier.toList) :
    Names project importer specifier (destination (folderOf importer) specifier)
  | aliased {rest : List Char} (hpoint : ¬".".toList <+: specifier.toList)
    (h : specifier.toList = project.config.layout.aliasPrefix.toList ++ rest) :
    Names project importer specifier
      (destination (project.place project.config.layout.aliasRoot) (String.ofList rest))

/-- A place whose last name has an extension added. -/
def withExtension (place : List String) (extension : String) : List String :=
  place.dropLast ++ [place.getLast?.getD "" ++ "." ++ extension]

/-- The places of the files that may be meant by a place: itself, itself with an extension, and the
index of a folder. -/
def meant (place : List String) : List (List String) :=
  place :: (impliedExtensions.map (withExtension place) ++
    impliedExtensions.map fun extension => place ++ ["index." ++ extension])

/-- Whether a specifier points into the folder of components but to no file, and names neither the
framework nor an external building block. -/
structure IsMissing (project : Project) (importer specifier : String) : Prop where
  notFramework : ¬NamesFramework specifier
  notExternal : ∀ start ∈ externalBeginnings, ¬start.toList <+: specifier.toList
  nowhere : ∃ target, Names project importer specifier target ∧
    project.place project.config.layout.componentsDir <+: target ∧
    ∀ place ∈ meant target, ¬project.tree.HoldsFile place

lemma beginsWith_iff (start s : String) : beginsWith start s = true ↔ start.toList <+: s.toList :=
  Text.startsWith_iff

lemma isFramework_iff (specifier : String) :
    isFramework specifier = true ↔ NamesFramework specifier := by
  simp [isFramework, NamesFramework, beginsWith_iff, or_assoc]

lemma isExternal_eq_false_iff (specifier : String) :
    isExternal specifier = false ↔
      ∀ start ∈ externalBeginnings, ¬start.toList <+: specifier.toList := by
  simp only [isExternal, List.any_eq_false, beginsWith_iff]

/-- The path that a specifier names, before it is normalized. -/
lemma exists_named_iff (hroot : isAbsolute project.root = true)
    (himporter : isAbsolute importer = true) (place : List String) :
    Names project importer specifier place ↔
      ∃ path, (if beginsWith "." specifier then some (join (parentPath importer) specifier)
        else (Text.after? project.config.layout.aliasPrefix.toList specifier.toList).map fun rest =>
          join (project.path project.config.layout.aliasRoot) (String.ofList rest)) = some path ∧
      normalize path = place := by
  have hrelative : normalize (join (parentPath importer) specifier) =
      destination (folderOf importer) specifier := by
    rw [normalize_join (isAbsolute_parentPath himporter), normalize_parentPath himporter]
  have haliased (rest : String) :
      normalize (join (project.path project.config.layout.aliasRoot) rest) =
        destination (project.place project.config.layout.aliasRoot) rest := by
    rw [normalize_join (project.isAbsolute_path hroot _), project.normalize_path hroot]
  constructor
  · rintro (hpoint | ⟨hpoint, hrest⟩)
    · rw [if_pos ((beginsWith_iff _ _).mpr hpoint)]
      exact ⟨_, rfl, hrelative⟩
    · rw [if_neg (mt (beginsWith_iff _ _).mp hpoint), hrest, Text.after?_append]
      exact ⟨_, rfl, haliased _⟩
  · rintro ⟨path, hpath, rfl⟩
    split at hpath
    · next hpoint =>
      obtain rfl := Option.some.inj hpath
      rw [hrelative]
      exact .relative ((beginsWith_iff _ _).mp hpoint)
    · next hpoint =>
      obtain ⟨rest, hrest, rfl⟩ := Option.map_eq_some_iff.mp hpath
      rw [haliased]
      exact .aliased (mt (beginsWith_iff _ _).mpr hpoint) (Text.after?_eq_some hrest)

theorem target?_eq_some_iff (hroot : isAbsolute project.root = true)
    (himporter : isAbsolute importer = true) (target : List String) :
    target? project importer specifier = some target ↔
      ¬NamesFramework specifier ∧ Names project importer specifier target ∧
        project.place project.config.layout.componentsDir <+: target := by
  rw [exists_named_iff hroot himporter, ← isFramework_iff, target?]
  by_cases hframework : isFramework specifier = true
  · simp [hframework]
  · simp only [hframework, Bool.false_eq_true, if_false, not_false_eq_true, true_and,
      Option.bind_eq_some_iff, project.normalize_path hroot, List.isPrefixOf_iff_prefix]
    constructor
    · rintro ⟨path, hpath, htarget⟩
      split at htarget
      · next hunder =>
        obtain rfl := Option.some.inj htarget
        exact ⟨⟨path, hpath, rfl⟩, hunder⟩
      · cases htarget
    · rintro ⟨⟨path, hpath, rfl⟩, hunder⟩
      exact ⟨path, hpath, if_pos hunder⟩

section

variable {tree : FileTree} {place : List String}

lemma absolutePath_withExtension (place : List String) (extension : String) :
    s!"{absolutePath place}.{extension}" = absolutePath (withExtension place extension) := by
  have htext : s!"{absolutePath place}.{extension}" = absolutePath place ++ "." ++ extension := by
    simp [toString]
  rw [htext, withExtension]
  rcases List.eq_nil_or_concat' place with rfl | ⟨above, last, rfl⟩
  · apply String.toList_inj.mp
    simp [absolutePath]
  · rw [List.dropLast_concat, List.getLast?_concat, Option.getD_some]
    by_cases habove : above = []
    · subst habove
      simp [absolutePath, String.append_assoc]
    · rw [absolutePath_concat habove, absolutePath_concat habove]
      simp only [String.append_assoc]

lemma isSegment_dotted (name : String) (hname : '/' ∉ name.toList) {extension : String}
    (hextension : extension ∈ impliedExtensions) :
    isSegment (name ++ "." ++ extension) = true := by
  have hlast : '/' ∉ extension.toList ∧ extension.toList.getLast?.any (· != '.') = true ∧
      extension.toList ≠ [] := by
    revert extension
    decide
  obtain ⟨hslash, hpoint, hne⟩ := hlast
  have hgetLast : (name ++ "." ++ extension).toList.getLast? = extension.toList.getLast? := by
    rw [String.toList_append, List.getLast?_append_of_ne_nil _ hne]
  have hend : ∀ other : String, other.toList.getLast?.any (· != '.') = false →
      name ++ "." ++ extension ≠ other := by
    rintro other hother heq
    rw [← heq, hgetLast, hpoint] at hother
    cases hother
  have hall : ((name ++ "." ++ extension).toList.all fun c => c != '/') = true := by
    rw [List.all_eq_true]
    intro c hmem
    rw [bne_iff_ne]
    rintro rfl
    simp [hname, hslash] at hmem
  rw [isSegment, hall, bne_iff_ne.mpr (hend "" rfl), bne_iff_ne.mpr (hend "." rfl),
    bne_iff_ne.mpr (hend ".." rfl)]
  rfl

lemma isSegment_withExtension (hplace : ∀ name ∈ place, isSegment name = true) {extension : String}
    (hextension : extension ∈ impliedExtensions) :
    ∀ name ∈ withExtension place extension, isSegment name = true := by
  intro name hmem
  rcases List.mem_append.mp hmem with habove | hlast
  · exact hplace name (List.dropLast_subset _ habove)
  · rw [List.mem_singleton.mp hlast]
    apply isSegment_dotted _ _ hextension
    cases hplaceLast : place.getLast? with
    | none => simp
    | some last => exact not_mem_of_isSegment (hplace last (List.mem_of_getLast? hplaceLast))

lemma isSegment_index {extension : String} (hextension : extension ∈ impliedExtensions) :
    isSegment ("index." ++ extension) = true := by
  revert extension
  decide

theorem resolves_iff (plain : tree.isPlain = true) (hroot : ¬tree.HoldsFile [])
    (hplace : ∀ name ∈ place, isSegment name = true) :
    resolves tree place = true ↔ ∃ candidate ∈ meant place, tree.HoldsFile candidate := by
  have hitself := FileTree.isFile_absolutePath_iff plain hroot hplace
  have hextended : ∀ extension ∈ impliedExtensions,
      (tree.isFile s!"{absolutePath place}.{extension}" = true ↔
        tree.HoldsFile (withExtension place extension)) := by
    intro extension hmem
    rw [absolutePath_withExtension]
    exact FileTree.isFile_absolutePath_iff plain hroot (isSegment_withExtension hplace hmem)
  have hindex : ∀ extension ∈ impliedExtensions,
      (tree.isFile (join (absolutePath place) s!"index.{extension}") = true ↔
        tree.HoldsFile (place ++ ["index." ++ extension])) := by
    intro extension hmem
    have htext : s!"index.{extension}" = "index." ++ extension := by simp [toString]
    rw [htext, join_absolutePath hplace (isSegment_index hmem)]
    apply FileTree.isFile_absolutePath_iff plain hroot
    intro name hname
    rcases List.mem_append.mp hname with hname | hname
    · exact hplace name hname
    · rw [List.mem_singleton.mp hname]
      exact isSegment_index hmem
  rw [resolves, Bool.or_eq_true, Bool.or_eq_true, List.any_eq_true, List.any_eq_true, hitself, meant]
  simp only [List.mem_cons, List.mem_append, List.mem_map, or_and_right, exists_or,
    exists_exists_and_eq_and, exists_eq_left, or_assoc]
  refine or_congr_right (or_congr ?_ ?_)
  · exact exists_congr fun extension => and_congr_right fun hmem => hextended extension hmem
  · exact exists_congr fun extension => and_congr_right fun hmem => hindex extension hmem

end

lemma isMissing_iff (plain : project.tree.isPlain = true) (hfolder : ¬project.tree.HoldsFile [])
    (hroot : isAbsolute project.root = true) (himporter : isAbsolute importer = true) :
    IsMissing project importer specifier ↔ ∃ target,
      target? project importer specifier = some target ∧
        isExternal specifier = false ∧ resolves project.tree target = false := by
  have hresolves : ∀ target, Names project importer specifier target →
      (resolves project.tree target = true ↔
        ∃ place ∈ meant target, project.tree.HoldsFile place) := by
    intro target htarget
    apply resolves_iff plain hfolder
    obtain ⟨path, -, rfl⟩ := (exists_named_iff hroot himporter target).mp htarget
    rw [normalize_eq]
    exact isSegment_of_mem_destination (by simp) path
  simp only [isExternal_eq_false_iff, target?_eq_some_iff hroot himporter]
  constructor
  · rintro ⟨hframework, hexternal, target, htarget, hunder, hnone⟩
    refine ⟨target, ⟨hframework, htarget, hunder⟩, hexternal, Bool.eq_false_iff.mpr fun hfound => ?_⟩
    obtain ⟨place, hmem, hfile⟩ := (hresolves target htarget).mp hfound
    exact hnone place hmem hfile
  · rintro ⟨target, ⟨hframework, htarget, hunder⟩, hexternal, hnone⟩
    refine ⟨hframework, hexternal, target, htarget, hunder, fun place hmem hfile => ?_⟩
    rw [(hresolves target htarget).mpr ⟨place, hmem, hfile⟩] at hnone
    cases hnone

lemma missingImports_inspect (plain : project.tree.isPlain = true)
    (hfolder : ¬project.tree.HoldsFile []) (hroot : isAbsolute project.root = true)
    (himporter : isAbsolute importer = true) (source : String)
    [DecidablePred (IsMissing project importer)] :
    (inspect project importer source).missingImports =
      ((project.facts importer source.toList).imports.map (·.source)).filter
        (IsMissing project importer) := by
  rw [inspect, componentImports, List.filter_filterMap, List.map_filterMap, List.filter_map,
    ← List.filterMap_eq_filter, List.map_filterMap]
  apply List.filterMap_congr
  intro i _
  by_cases hmissing : IsMissing project importer i.source
  · obtain ⟨target, htarget, hexternal, hnone⟩ :=
      (isMissing_iff plain hfolder hroot himporter).mp hmissing
    simp [htarget, hexternal, hnone, hmissing, Option.guard]
  · cases htarget : target? project importer i.source with
    | none => simp [hmissing, Option.guard]
    | some target =>
      have hnone : isExternal i.source = false → ¬resolves project.tree target = false :=
        fun hexternal hnone => hmissing
          ((isMissing_iff plain hfolder hroot himporter).mpr ⟨target, htarget, hexternal, hnone⟩)
      simpa [hmissing, Option.guard] using hnone

end Components

namespace ComponentReport

/-- Only missing imports make a critical gap of a component file. -/
lemma mem_gaps_iff_of_critical (r : ComponentReport) {gap : Gap} (h : gap.severity = .critical) :
    gap ∈ r.gaps ↔ r.missingImports ≠ [] ∧ gap = r.missingGap := by
  have hprops : gap ≠ r.propsGap := by rintro rfl; cases h
  have hisolation : gap ≠ r.isolationGap := by rintro rfl; cases h
  have haccessibility : gap ≠ r.accessibilityGap Float := by rintro rfl; cases h
  have hunused : gap ≠ r.unusedGap := by rintro rfl; cases h
  rw [gaps, gapsIn]
  simp [hprops, hisolation, haccessibility, hunused]

lemma exists_critical_iff (r : ComponentReport) :
    (∃ gap ∈ r.gaps, gap.severity = .critical) ↔ r.missingImports ≠ [] := by
  constructor
  · rintro ⟨gap, hgap, hcritical⟩
    exact ((r.mem_gaps_iff_of_critical hcritical).mp hgap).1
  · intro hmissing
    have hcritical : r.missingGap.severity = .critical := rfl
    exact ⟨_, (r.mem_gaps_iff_of_critical hcritical).mpr ⟨hmissing, rfl⟩, hcritical⟩

end ComponentReport

namespace Components

variable {project : Project} {path : String}

/-- A path that a walk takes from a plain tree is absolute, and the tree is not itself a file. -/
lemma isAbsolute_of_mem_walk (plain : project.tree.isPlain = true)
    (absolute : isAbsolute project.root = true) {folder : String} {w : Walk}
    (h : path ∈ project.walk folder w) :
    isAbsolute path = true ∧ ¬project.tree.HoldsFile [] := by
  have hpath := project.isAbsolute_path absolute folder
  have hmem : path ∈ w.collect project.tree (project.path folder) := List.mem_of_mem_filter h
  obtain ⟨place, folders, name, content, -, hfile, rfl, -⟩ :=
    ((Walk.collect_findsExactly plain hpath w).mem_iff path).mp hmem
  refine ⟨isAbsolute_foldl_join hpath _, ?_⟩
  rintro ⟨content', hroot⟩
  obtain hroot : project.tree = .file content' := Option.some.inj hroot
  rw [hroot, ← List.append_assoc] at hfile
  cases h : place ++ folders <;> rw [h] at hfile <;> cases hfile

/-- Of the imports of a component file exactly those are listed as missing that point into the
folder of components but to no file, and if there are any, a critical gap says so. -/
theorem missingImports_exact (plain : project.tree.isPlain = true)
    (absolute : isAbsolute project.root = true) {source : String}
    (hpath : path ∈ project.walk project.config.layout.componentsDir Walk.components)
    (htext : project.text? path = some source) [DecidablePred (IsMissing project path)] :
    let report := inspect project path source
    report.missingImports =
        ((project.facts path source.toList).imports.map (·.source)).filter
          (IsMissing project path) ∧
      ((∃ gap ∈ report.gaps, gap.severity = .critical) ↔ report.missingImports ≠ []) ∧
      ∀ gap ∈ report.gaps, gap ∈ (analyze project).gaps ∧
        (gap.severity = .critical → gap.id = "component-missing-import:" ++ project.relative path ∧
          gap.affectedFiles = [project.relative path]) := by
  intro report
  obtain ⟨hpathAbsolute, hfolder⟩ := isAbsolute_of_mem_walk plain absolute hpath
  have hreport : report ∈ inspectAll project :=
    List.mem_filterMap.mpr ⟨path, hpath, by rw [htext]; rfl⟩
  have hanalysis : (analyze project).gaps = (inspectAll project).flatMap (·.gaps) := by
    rw [analyze, summarize, gaps_withGaps]
  refine ⟨missingImports_inspect plain hfolder absolute hpathAbsolute source,
    report.exists_critical_iff, fun gap hgap => ⟨?_, fun hcritical => ?_⟩⟩
  · rw [hanalysis]
    exact List.mem_flatMap.mpr ⟨report, hreport, hgap⟩
  · obtain ⟨-, rfl⟩ := (report.mem_gaps_iff_of_critical hcritical).mp hgap
    exact ⟨by simp [ComponentReport.missingGap, ComponentReport.gap, report, inspect, toString], rfl⟩

/-- A component that imports a folder by a detour, and in two ways a file that is not there. -/
def cardSource : String :=
  "import Row from '../components/layout/';\n" ++
  "import Badge from '@/components/Badge';\n" ++
  "import '.././components/Badge'"

def cardProject : Project where
  tree := .folder [("p", .folder [("src", .folder [("components", .folder [
    ("Card.tsx", .file cardSource.toUTF8), ("layout", .folder [("index.js", .file .empty)])])])])]
  root := "/p"
  config := {}

theorem missingImports_exact_card :
    IsMissing cardProject "/p/src/components/Card.tsx" "@/components/Badge" ∧
      IsMissing cardProject "/p/src/components/Card.tsx" ".././components/Badge" ∧
      ¬IsMissing cardProject "/p/src/components/Card.tsx" "../components/layout/" ∧
      ∃ gap ∈ (analyze cardProject).gaps, gap.severity = .critical ∧
        gap.id = "component-missing-import:src/components/Card.tsx" := by
  classical
  have hpath : "/p/src/components/Card.tsx" ∈
      cardProject.walk cardProject.config.layout.componentsDir Walk.components := by
    decide +kernel
  have htext : cardProject.text? "/p/src/components/Card.tsx" = some cardSource := by
    decide +kernel
  have himports : (cardProject.facts "/p/src/components/Card.tsx" cardSource.toList).imports =
      [⟨"../components/layout/", ["Row"], 0, 40⟩, ⟨"@/components/Badge", ["Badge"], 41, 80⟩,
        ⟨".././components/Badge", [], 81, 111⟩] := by
    decide +kernel
  have hmissing : (inspect cardProject "/p/src/components/Card.tsx" cardSource).missingImports =
      ["@/components/Badge", ".././components/Badge"] := by
    rw [inspect, componentImports, himports]
    decide +kernel
  obtain ⟨hexact, hcritical, hgaps⟩ :=
    missingImports_exact (by decide +kernel) (by decide +kernel) hpath htext
  rw [hmissing, himports] at hexact
  simp only [List.map_cons, List.map_nil] at hexact
  have hlisted (specifier : String) :
      specifier ∈ ["@/components/Badge", ".././components/Badge"] ↔
        specifier ∈ ["../components/layout/", "@/components/Badge", ".././components/Badge"] ∧
          IsMissing cardProject "/p/src/components/Card.tsx" specifier := by
    nth_rewrite 1 [hexact]
    rw [List.mem_filter, decide_eq_true_iff]
  obtain ⟨gap, hgap, hseverity⟩ := hcritical.mpr (by rw [hmissing]; exact List.cons_ne_nil _ _)
  obtain ⟨hanalysis, hid⟩ := hgaps gap hgap
  have hrelative : cardProject.relative "/p/src/components/Card.tsx" =
      "src/components/Card.tsx" := by decide +kernel
  refine ⟨((hlisted _).mp (by decide)).2, ((hlisted _).mp (by decide)).2, fun hmiss => ?_, gap,
    hanalysis, hseverity, ?_⟩
  · exact absurd ((hlisted _).mpr ⟨List.mem_cons_self, hmiss⟩) (by decide)
  · rw [(hid hseverity).1, hrelative]
    rfl

end Components

end GapAudit
