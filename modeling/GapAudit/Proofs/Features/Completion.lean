import Mathlib
import GapAudit.Features.Status
import GapAudit.Proofs.FileTree.Growth

/-!
# The completion of features

The status of a feature counts every name that the feature needs once, as found or as missing
(`FeatureStatus.accounts_ofFeature`). Over rational numbers the completion is a percentage that is
full just when nothing is missing, and the gaps of a feature follow from the completion and from
what is missing (`FeatureStatus.follow_gapsIn`). What is found in a project is found in it after
files were added (`ArtifactIndex.ofProject_isWithin`), so that no completion becomes lower. The main
statement puts these together (`FeatureStatus.ofFeature_exact`).
-/

namespace GapAudit

open Arithmetic

namespace ArtifactIndex

/-- Whether another index holds at least what an index holds. -/
structure IsWithin (index more : ArtifactIndex) : Prop where
  componentNames : index.componentNames ⊆ more.componentNames
  sourceStems : index.sourceStems ⊆ more.sourceStems
  typeNames : index.typeNames ⊆ more.typeNames

lemma IsWithin.contains {index more : ArtifactIndex} (h : index.IsWithin more)
    {kind : ArtifactKind} {name : String} (hname : index.contains kind name = true) :
    more.contains kind name = true := by
  cases kind with
  | component | page =>
    exact List.contains_iff_mem.mpr (h.componentNames (List.contains_iff_mem.mp hname))
  | service => exact List.contains_iff_mem.mpr (h.sourceStems (List.contains_iff_mem.mp hname))
  | type => exact List.contains_iff_mem.mpr (h.typeNames (List.contains_iff_mem.mp hname))

end ArtifactIndex

lemma Project.walk_subset {project : Project} {more : FileTree} (h : project.tree.IsPartOf more)
    (folder : String) (w : Walk) :
    project.walk folder w ⊆ { project with tree := more }.walk folder w := by
  intro path hpath
  obtain ⟨hmem, hkept⟩ := List.mem_filter.mp hpath
  exact List.mem_filter.mpr ⟨w.collect_subset h _ hmem, hkept⟩

/-- The index of a project holds no less after files were added. -/
theorem ArtifactIndex.ofProject_isWithin {project : Project} {more : FileTree}
    (h : project.tree.IsPartOf more) :
    (ofProject project).IsWithin (ofProject { project with tree := more }) := by
  have hwalk := Project.walk_subset h project.config.layout.sourceRoot
  constructor
  case componentNames =>
    simp only [ofProject]
    exact List.map_subset _ (hwalk Walk.components)
  case sourceStems =>
    simp only [ofProject]
    exact List.map_subset _ (hwalk Walk.sources)
  case typeNames =>
    intro name hname
    simp only [ofProject, List.mem_flatMap, List.mem_filterMap] at hname ⊢
    obtain ⟨source, ⟨path, hpath, htext⟩, hdeclared⟩ := hname
    exact ⟨source, ⟨path, hwalk Walk.sources hpath, FileTree.text?_of_isPartOf h htext⟩, hdeclared⟩

namespace FeatureStatus

lemma mem_all (kind : ArtifactKind) : kind ∈ ArtifactKind.all := by
  cases kind <;> decide

lemma length_present_add_absent (feature : Feature) (index : ArtifactIndex) (kind : ArtifactKind) :
    (present feature index kind).length + (absent feature index kind).length =
      (feature.required kind).length :=
  (List.length_eq_length_filter_add (index.contains kind)).symm

lemma requiredCount_eq (feature : Feature) :
    feature.requiredCount =
      (ArtifactKind.all.map fun kind => (feature.required kind).length).sum := by
  simp [Feature.requiredCount, ArtifactKind.all, Feature.required, Nat.add_assoc]

lemma found_eq (feature : Feature) (index : ArtifactIndex) :
    (ofFeature feature index).found =
      (ArtifactKind.all.map fun kind => (present feature index kind).length).sum :=
  List.length_flatMap

/-- Kinds of which nothing is missing count for nothing. -/
lemma sum_filter_nonempty (missing : List (ArtifactKind × List String)) :
    ((missing.filter fun (_, names) => !names.isEmpty).map fun (_, names) => names.length).sum =
      (missing.map fun (_, names) => names.length).sum := by
  induction missing with
  | nil => rfl
  | cons entry rest ih =>
    obtain ⟨kind, names⟩ := entry
    cases names with
    | nil => simpa using ih
    | cons name names => simpa using ih

lemma missingCount_eq (feature : Feature) (index : ArtifactIndex) :
    ((ofFeature feature index).missing.map fun (_, names) => names.length).sum =
      (ArtifactKind.all.map fun kind => (absent feature index kind).length).sum := by
  rw [ofFeature, sum_filter_nonempty, List.map_map]
  rfl

lemma found_add_missingCount (feature : Feature) (index : ArtifactIndex) :
    (ofFeature feature index).found +
        ((ofFeature feature index).missing.map fun (_, names) => names.length).sum =
      (ofFeature feature index).required := by
  have hrequired : (ofFeature feature index).required = feature.requiredCount := rfl
  rw [found_eq, missingCount_eq, ← List.sum_map_add, hrequired, requiredCount_eq]
  simp only [length_present_add_absent]

lemma mem_missing_iff (feature : Feature) (index : ArtifactIndex) (kind : ArtifactKind)
    (names : List String) :
    (kind, names) ∈ (ofFeature feature index).missing ↔
      names ≠ [] ∧ names = absent feature index kind := by
  have hmem : (kind, names) ∈ ArtifactKind.all.map (fun kind => (kind, absent feature index kind)) ↔
      names = absent feature index kind := by
    simp [mem_all, eq_comm]
  rw [ofFeature, List.mem_filter, hmem, and_comm]
  simp

lemma completion_eq (status : FeatureStatus) :
    (status.completion : ℚ) =
      if status.required = 0 then 100 else (status.found : ℚ) / status.required * 100 := rfl

lemma completion_mem_Icc {status : FeatureStatus} (h : status.found ≤ status.required) :
    (status.completion : ℚ) ∈ Set.Icc 0 100 := by
  have hfound : (0 : ℚ) ≤ status.found := Nat.cast_nonneg _
  have hle : (status.found : ℚ) ≤ status.required := by exact_mod_cast h
  rw [completion_eq]
  by_cases hnone : status.required = 0
  · rw [if_pos hnone]
    norm_num
  · rw [if_neg hnone]
    have hlow : 0 ≤ (status.found : ℚ) / status.required := div_nonneg hfound (by linarith)
    have hhigh : (status.found : ℚ) / status.required ≤ 1 := div_le_one_of_le₀ hle (by linarith)
    exact ⟨by linarith, by linarith⟩

lemma completion_eq_hundred_iff {status : FeatureStatus} (h : status.found ≤ status.required) :
    (status.completion : ℚ) = 100 ↔ status.found = status.required := by
  rw [completion_eq]
  by_cases hnone : status.required = 0
  · rw [if_pos hnone]
    exact iff_of_true rfl (by omega)
  · have hne : (status.required : ℚ) ≠ 0 := by exact_mod_cast hnone
    rw [if_neg hnone]
    constructor
    · intro hfull
      have hone : (status.found : ℚ) / status.required = 1 := by linarith
      exact_mod_cast (div_eq_one_iff_eq hne).mp hone
    · intro hall
      rw [hall, div_self hne, one_mul]

lemma completion_mono {status more : FeatureStatus} (hrequired : more.required = status.required)
    (hfound : status.found ≤ more.found) : (status.completion : ℚ) ≤ more.completion := by
  rw [completion_eq, completion_eq, hrequired]
  by_cases hnone : status.required = 0
  · rw [if_pos hnone, if_pos hnone]
  · rw [if_neg hnone, if_neg hnone]
    gcongr

/-- A status that accounts for every name that a feature needs: each is found or missing, and
missing are, kind by kind and in their order, the names that are not in the index. -/
structure Accounts (feature : Feature) (index : ArtifactIndex) (status : FeatureStatus) : Prop where
  required_eq : status.required =
    (ArtifactKind.all.map fun kind => (feature.required kind).length).sum
  found_add_missing : status.found + (status.missing.map fun (_, names) => names.length).sum =
    status.required
  kinds : (status.missing.map (·.1)).Sublist ArtifactKind.all
  mem_missing_iff : ∀ kind names, (kind, names) ∈ status.missing ↔
    names ≠ [] ∧ names = (feature.required kind).filter fun name => !index.contains kind name
  completion_mem : (status.completion : ℚ) ∈ Set.Icc 0 100
  full_iff : (status.completion : ℚ) = 100 ↔ status.missing = []

theorem accounts_ofFeature (feature : Feature) (index : ArtifactIndex) :
    Accounts feature index (ofFeature feature index) := by
  have hsum := found_add_missingCount feature index
  have hle : (ofFeature feature index).found ≤ (ofFeature feature index).required := by omega
  constructor
  case required_eq => exact requiredCount_eq feature
  case found_add_missing => exact hsum
  case kinds =>
    have hkinds : (ArtifactKind.all.map fun kind => (kind, absent feature index kind)).map (·.1) =
        ArtifactKind.all := by
      rw [List.map_map]
      exact List.map_id _
    rw [← hkinds]
    exact List.filter_sublist.map _
  case mem_missing_iff => exact mem_missing_iff feature index
  case completion_mem => exact completion_mem_Icc hle
  case full_iff =>
    rw [completion_eq_hundred_iff hle]
    constructor
    · intro hall
      have hnone :
          ((ofFeature feature index).missing.map fun (_, names) => names.length).sum = 0 := by
        omega
      rw [List.eq_nil_iff_forall_not_mem]
      rintro ⟨kind, names⟩ hmem
      have hempty : names.length = 0 := List.sum_eq_zero_iff.mp hnone _
        (List.mem_map.mpr ⟨(kind, names), hmem, rfl⟩)
      exact ((mem_missing_iff feature index kind names).mp hmem).1 (List.length_eq_zero_iff.mp hempty)
    · intro hnone
      rw [hnone] at hsum
      exact hsum

/-- A feature is not less complete if the index holds more. -/
theorem completion_ofFeature_mono (feature : Feature) {index more : ArtifactIndex}
    (h : index.IsWithin more) :
    ((ofFeature feature index).completion : ℚ) ≤ (ofFeature feature more).completion := by
  have hrequired : (ofFeature feature more).required = (ofFeature feature index).required := rfl
  have hfound : (ofFeature feature index).found ≤ (ofFeature feature more).found := by
    rw [found_eq, found_eq]
    refine List.sum_le_sum fun kind _ => ?_
    rw [present, present, ← List.countP_eq_length_filter, ← List.countP_eq_length_filter]
    exact List.countP_mono_left fun name _ => h.contains
  exact completion_mono hrequired hfound

/-- The gaps of a feature as they follow from its completion and from what is missing: one if it is
not complete, then one for each kind of which anything is missing, all of the same severity. -/
structure Follow (status : FeatureStatus) (layout : Layout) (gaps : List Gap) : Prop where
  ids_files : gaps.map (fun gap => (gap.id, gap.affectedFiles)) =
    (if (status.completion : ℚ) < 70 then [("feature-incomplete:" ++ loose status.name, [])]
      else []) ++
      status.missing.map fun (kind, names) =>
        ("feature-missing-" ++ kind.plural ++ ":" ++ loose status.name,
          names.map (kind.usualPath layout))
  severity_eq : ∀ gap ∈ gaps, gap.severity =
    if 70 ≤ (status.completion : ℚ) then .low
    else if 50 ≤ (status.completion : ℚ) then .medium
    else .high

lemma isComplete_iff (completion : ℚ) : isComplete completion = true ↔ 70 ≤ completion :=
  decide_eq_true_iff

lemma severity_eq_ite (completion : ℚ) :
    severity completion =
      if 70 ≤ completion then .low else if 50 ≤ completion then .medium else .high := by
  have hurgent : lt completion urgentBelow = true ↔ ¬50 ≤ completion := by
    rw [not_le]
    exact decide_eq_true_iff
  simp only [severity, isComplete_iff, hurgent, ite_not]

theorem follow_gapsIn (status : FeatureStatus) (layout : Layout) :
    Follow status layout (status.gapsIn ℚ layout) := by
  constructor
  case ids_files =>
    have hmissing : (status.missing.map fun (kind, names) =>
          status.missingGap ℚ layout kind names).map (fun gap => (gap.id, gap.affectedFiles)) =
        status.missing.map fun (kind, names) =>
          ("feature-missing-" ++ kind.plural ++ ":" ++ loose status.name,
            names.map (kind.usualPath layout)) := by
      rw [List.map_map]
      rfl
    rw [gapsIn, List.map_append, hmissing]
    congr 1
    by_cases hcomplete : 70 ≤ (status.completion : ℚ)
    · rw [if_pos ((isComplete_iff _).mpr hcomplete), if_neg (not_lt.mpr hcomplete)]
      rfl
    · rw [if_neg (mt (isComplete_iff _).mp hcomplete), if_pos (not_le.mp hcomplete)]
      rfl
  case severity_eq =>
    rw [← severity_eq_ite]
    intro gap hgap
    rcases List.mem_append.mp hgap with hincomplete | hmissing
    · split at hincomplete
      · cases hincomplete
      · rw [List.mem_singleton.mp hincomplete]
        rfl
    · obtain ⟨entry, -, rfl⟩ := List.mem_map.mp hmissing
      rfl

/-- Statuses account for all that features need, gaps follow from them, and files that are added
never lower the completion of a feature. -/
theorem ofFeature_exact :
    (∀ feature index, Accounts feature index (ofFeature feature index)) ∧
      (∀ (status : FeatureStatus) layout, Follow status layout (status.gapsIn ℚ layout)) ∧
      ∀ (project : Project) more, project.tree.IsPartOf more → ∀ feature,
        ((ofFeature feature (.ofProject project)).completion : ℚ) ≤
          (ofFeature feature (.ofProject { project with tree := more })).completion := by
  refine ⟨accounts_ofFeature, follow_gapsIn, fun project more hmore feature => ?_⟩
  exact completion_ofFeature_mono feature (ArtifactIndex.ofProject_isWithin hmore)

/-- A project with one file, which declares a type in small letters. -/
def invoicing : Project where
  tree := .folder [("p", .folder [("src", .folder [
    ("billing.tsx", .file "export interface invoice \x7b\x7d".toUTF8)])])]
  root := "/p"
  config := {}

/-- A feature that needs two things that the project lacks, one of them twice. -/
def billingFeature : Feature where
  name := "Billing"
  components := ["billing", "InvoiceForm", "InvoiceForm"]
  services := ["billing"]
  types := ["Invoice"]
  pages := ["Overview"]

theorem ofFeature_exact_invoicing :
    let status := ofFeature billingFeature (.ofProject invoicing)
    let more := invoicing.tree.put (.file .empty) ["p", "src", "pages", "Overview.tsx"]
    invoicing.tree.IsPartOf more ∧ status.found = 3 ∧
      status.missing = [(.component, ["InvoiceForm", "InvoiceForm"]), (.page, ["Overview"])] ∧
      (status.completion : ℚ) = 50 ∧
      (status.gapsIn ℚ {}).map (·.severity) = [.medium, .medium, .medium] ∧
      50 ≤ ((ofFeature billingFeature
        (.ofProject { invoicing with tree := more })).completion : ℚ) := by
  intro status more
  have hroom : invoicing.tree.HasRoomAt ["p", "src", "pages", "Overview.tsx"] := by
    refine ⟨by decide +kernel, fun above habove => ?_⟩
    rw [← List.mem_inits] at habove
    revert above
    decide +kernel
  have hmore : invoicing.tree.IsPartOf more := FileTree.isPartOf_put _ hroom
  have hcompletion : (status.completion : ℚ) = 50 := by decide +kernel
  refine ⟨hmore, by decide +kernel, by decide +kernel, hcompletion, by decide +kernel, ?_⟩
  rw [← hcompletion]
  exact ofFeature_exact.2.2 invoicing more hmore billingFeature

end FeatureStatus

end GapAudit
