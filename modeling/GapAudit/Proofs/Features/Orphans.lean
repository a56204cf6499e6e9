import Mathlib
import GapAudit.Features.Analysis
import GapAudit.Proofs.Keyed

/-!
# Components that belong to no feature

Names count as one if they have the same loose form. The orphans of a project are the names of its
component files whose loose form is not that of a name in the configuration, each of them once and
in order (`mem_orphans_iff`, `pairwise_orphans`). A configuration enters only through the loose
forms of its names (`orphans_sublist`), so no change of spelling matters (`orphans_of_respelled`)
and more names leave fewer orphans (`orphans_of_extended`). Of the result of the analyzer the names
that may stand alone change nothing but what it says of orphans (`orphans_exact`).
-/

namespace GapAudit.Features

open FeatureStatus (loose)

/-- A name that a configuration speaks of: a component or page of a feature, or a component that may
stand alone. -/
def IsKnown (config : Config) (name : String) : Prop :=
  (∃ feature ∈ config.features, name ∈ feature.components ∨ name ∈ feature.pages) ∨
    name ∈ config.orphanAllowlist

/-- The loose forms of the names that a configuration speaks of. -/
def knownForms (config : Config) : List String :=
  ((config.features.flatMap fun f => f.components ++ f.pages) ++ config.orphanAllowlist).map loose

lemma mem_knownForms_iff {config : Config} {form : String} :
    form ∈ knownForms config ↔ ∃ name, IsKnown config name ∧ loose name = form := by
  unfold knownForms IsKnown
  simp only [List.mem_map, List.mem_append, List.mem_flatMap]

variable (project : Project)

lemma orphans_eq :
    orphans project =
      (distinctSorted (((project.walk project.config.layout.componentsDir Walk.components).map
        Path.baseName).filter (· != "index"))).filter fun name =>
          !(knownForms project.config).contains (loose name) := rfl

/-- The names of orphans are increasing, so none is listed twice. -/
theorem pairwise_orphans : (orphans project).Pairwise (· < ·) :=
  (pairwise_distinctSorted _).sublist List.filter_sublist

/-- The orphans are the names of component files that are not loosely equal to a known name. -/
theorem mem_orphans_iff {name : String} :
    name ∈ orphans project ↔
      (∃ path ∈ project.walk project.config.layout.componentsDir Walk.components,
        Path.baseName path = name) ∧
      name ≠ "index" ∧ ∀ known, IsKnown project.config known → loose known ≠ loose name := by
  have hunknown : (!(knownForms project.config).contains (loose name)) = true ↔
      ∀ known, IsKnown project.config known → loose known ≠ loose name := by
    rw [Bool.not_eq_true', ← Bool.not_eq_true, List.contains_iff_mem, mem_knownForms_iff]
    push Not
    rfl
  rw [orphans_eq, List.mem_filter, hunknown, mem_distinctSorted, List.mem_filter, List.mem_map,
    bne_iff_ne, and_assoc]

variable {project} {config other : Config}

lemma walk_of_config (hexcluded : other.excludedPaths = project.config.excludedPaths)
    (folder : String) (w : Walk) :
    { project with config := other }.walk folder w = project.walk folder w := by
  simp only [Project.walk, Project.path, Project.relative, Config.isExcluded, hexcluded]

lemma orphans_of_config (hlayout : other.layout = project.config.layout)
    (hexcluded : other.excludedPaths = project.config.excludedPaths) :
    orphans { project with config := other } =
      (distinctSorted (((project.walk project.config.layout.componentsDir Walk.components).map
        Path.baseName).filter (· != "index"))).filter fun name =>
          !(knownForms other).contains (loose name) := by
  rw [orphans_eq, walk_of_config hexcluded, hlayout]

lemma index_of_config (hlayout : other.layout = project.config.layout)
    (hexcluded : other.excludedPaths = project.config.excludedPaths) :
    ArtifactIndex.ofProject { project with config := other } = .ofProject project := by
  unfold ArtifactIndex.ofProject
  simp only [walk_of_config hexcluded, hlayout]
  rfl

/-- A configuration that knows at least the same loose forms leaves no new orphans. -/
theorem orphans_sublist (hlayout : other.layout = project.config.layout)
    (hexcluded : other.excludedPaths = project.config.excludedPaths)
    (hforms : knownForms project.config ⊆ knownForms other) :
    (orphans { project with config := other }).Sublist (orphans project) := by
  rw [orphans_of_config hlayout hexcluded, orphans_eq]
  refine List.monotone_filter_right _ fun name hunknown => ?_
  rw [Bool.not_eq_true', ← Bool.not_eq_true, List.contains_iff_mem] at hunknown ⊢
  exact mt (@hforms _) hunknown

/-- A change of one of the lists of names by which a configuration knows components. -/
inductive Edits (change : List String → List String → Prop) : Config → Config → Prop
  | allowlist {config : Config} {names : List String} (h : change config.orphanAllowlist names) :
      Edits change config { config with orphanAllowlist := names }
  | components {config : Config} {before after : List Feature} {feature : Feature}
      {names : List String} (hfeatures : config.features = before ++ feature :: after)
      (h : change feature.components names) :
      Edits change config
        { config with features := before ++ { feature with components := names } :: after }
  | pages {config : Config} {before after : List Feature} {feature : Feature}
      {names : List String} (hfeatures : config.features = before ++ feature :: after)
      (h : change feature.pages names) :
      Edits change config
        { config with features := before ++ { feature with pages := names } :: after }

/-- A change that leaves a list of names the same up to spelling, order and repetition. -/
inductive Respells : List String → List String → Prop
  | replace {before after : List String} {name other : String} (alike : loose name = loose other) :
      Respells (before ++ name :: after) (before ++ other :: after)
  | reorder {names others : List String} (h : names.Perm others) : Respells names others
  | repeated {names : List String} {name : String} (h : name ∈ names) :
      Respells names (name :: names)

variable {change : List String → List String → Prop}

lemma Edits.symm (h : Edits change config other) : Edits (flip change) other config := by
  cases h with
  | @allowlist names h => exact @Edits.allowlist _ { config with orphanAllowlist := names } _ h
  | @components before after feature names hfeatures h =>
    have hback : config = { config with features := before ++ feature :: after } := by
      rw [← hfeatures]
    rw [hback]
    exact @Edits.components _ _ before after { feature with components := names } _ rfl h
  | @pages before after feature names hfeatures h =>
    have hback : config = { config with features := before ++ feature :: after } := by
      rw [← hfeatures]
    rw [hback]
    exact @Edits.pages _ _ before after { feature with pages := names } _ rfl h

lemma Edits.knownForms_subset (h : Edits change config other)
    (hchange : ∀ names more, change names more → names.map loose ⊆ more.map loose) :
    knownForms config ⊆ knownForms other := by
  intro form
  cases h with
  | allowlist h =>
    have hmore : _ → form ∈ _ := fun hform => hchange _ _ h hform
    simp only [knownForms, List.map_append, List.mem_append]
    tauto
  | components hfeatures h | pages hfeatures h =>
    have hmore : _ → form ∈ _ := fun hform => hchange _ _ h hform
    simp only [knownForms, hfeatures, List.flatMap_append, List.flatMap_cons, List.map_append,
      List.mem_append]
    tauto

lemma Respells.mem_map_loose_iff {names others : List String} (h : Respells names others)
    (form : String) : form ∈ names.map loose ↔ form ∈ others.map loose := by
  cases h with
  | replace alike => rw [List.map_append, List.map_append, List.map_cons, List.map_cons, alike]
  | reorder h => exact (h.map loose).mem_iff
  | @repeated _ name h =>
    have hform : loose name ∈ names.map loose := List.mem_map_of_mem h
    rw [List.map_cons, List.mem_cons]
    exact ⟨.inr, fun hmem => hmem.elim (fun heq => heq ▸ hform) id⟩

lemma Edits.layout_eq (h : Edits change config other) : other.layout = config.layout := by
  cases h <;> rfl

lemma Edits.excludedPaths_eq (h : Edits change config other) :
    other.excludedPaths = config.excludedPaths := by
  cases h <;> rfl

/-- Adding names leaves no new orphans. -/
lemma Edits.orphans_sublist (h : Edits List.Sublist project.config other) :
    (orphans { project with config := other }).Sublist (orphans project) := by
  refine Features.orphans_sublist h.layout_eq h.excludedPaths_eq (h.knownForms_subset ?_)
  intro names more hmore
  exact (hmore.map loose).subset

/-- Other spellings leave the same orphans. -/
lemma Edits.orphans_eq (h : Edits Respells project.config other) :
    orphans { project with config := other } = orphans project := by
  have hforms : knownForms project.config ⊆ knownForms other :=
    h.knownForms_subset fun _ _ hrespells form => (hrespells.mem_map_loose_iff form).mp
  have hback : knownForms other ⊆ knownForms project.config :=
    h.symm.knownForms_subset fun _ _ hrespells form => (hrespells.mem_map_loose_iff form).mpr
  refine (Features.orphans_sublist h.layout_eq h.excludedPaths_eq hforms).antisymm ?_
  exact @Features.orphans_sublist { project with config := other } project.config h.layout_eq.symm
    h.excludedPaths_eq.symm hback

/-- Any number of additions leaves no new orphans. -/
theorem orphans_of_extended (h : Relation.ReflTransGen (Edits List.Sublist) project.config other) :
    (orphans { project with config := other }).Sublist (orphans project) := by
  induction h with
  | refl => exact List.Sublist.refl _
  | @tail before after _ hstep ih =>
    exact (@Edits.orphans_sublist { project with config := before } after hstep).trans ih

/-- Any number of changes of spelling leaves the same orphans. -/
theorem orphans_of_respelled (h : Relation.ReflTransGen (Edits Respells) project.config other) :
    orphans { project with config := other } = orphans project := by
  induction h with
  | refl => rfl
  | @tail before after _ hstep ih =>
    exact (@Edits.orphans_eq { project with config := before } after hstep).trans ih

def orphanGapId : String := "feature-orphan-components"

lemma score_summarize (layout : Layout) (statuses : List FeatureStatus) (names : List String) :
    (summarize layout statuses names).score = Score.clamp (score statuses) := rfl

lemma metadata_summarize (layout : Layout) (statuses : List FeatureStatus) :
    ∃ others : Keyed MetadataValue, ∀ names, (summarize layout statuses names).metadata =
      others.insert "orphanComponents" (.list names) :=
  ⟨_, fun _ => rfl⟩

lemma filter_gaps_summarize (layout : Layout) (statuses : List FeatureStatus)
    (names : List String) :
    (summarize layout statuses names).gaps.filter (·.id != orphanGapId) =
      (statuses.flatMap (·.gaps layout)).filter (·.id != orphanGapId) := by
  have hgap : (orphanGap? layout names).toList.filter (·.id != orphanGapId) = [] := by
    unfold orphanGap?
    by_cases hempty : names.isEmpty
    · rw [if_pos hempty]
      rfl
    · rw [if_neg hempty, Option.toList_some, List.filter_cons_of_neg (by simp [orphanGapId])]
      rfl
  have hgaps : (summarize layout statuses names).gaps =
      statuses.flatMap (·.gaps layout) ++ (orphanGap? layout names).toList := rfl
  rw [hgaps, List.filter_append, hgap, List.append_nil]

/-- The orphans are the names of component files that are loosely equal to no known name, in
increasing order; they depend on no spelling and become no more by further names; and the names that
may stand alone decide about nothing else in the result of the analyzer. -/
theorem orphans_exact (project : Project) :
    (orphans project).Pairwise (· < ·) ∧
    (∀ name, name ∈ orphans project ↔
      (∃ path ∈ project.walk project.config.layout.componentsDir Walk.components,
        Path.baseName path = name) ∧
      name ≠ "index" ∧ ∀ known, IsKnown project.config known → loose known ≠ loose name) ∧
    (∀ config, Relation.ReflTransGen (Edits Respells) project.config config →
      orphans { project with config } = orphans project) ∧
    (∀ config, Relation.ReflTransGen (Edits List.Sublist) project.config config →
      (orphans { project with config }).Sublist (orphans project)) ∧
    ∀ names,
      let other := { project with config := { project.config with orphanAllowlist := names } }
      (analyze other).score = (analyze project).score ∧
      (∀ key, key ≠ "orphanComponents" →
        (analyze other).metadata.find? key = (analyze project).metadata.find? key) ∧
      (analyze other).gaps.filter (·.id != orphanGapId) =
        (analyze project).gaps.filter (·.id != orphanGapId) := by
  refine ⟨pairwise_orphans project, fun name => mem_orphans_iff project,
    fun config => orphans_of_respelled, fun config => orphans_of_extended, ?_⟩
  intro names other
  have hindex : ArtifactIndex.ofProject other = .ofProject project := index_of_config rfl rfl
  obtain ⟨statuses, hproject⟩ : ∃ statuses, analyze project =
      summarize project.config.layout statuses (orphans project) ∧
      analyze other = summarize project.config.layout statuses (orphans other) := by
    refine ⟨_, rfl, ?_⟩
    rw [analyze, hindex]
  rw [hproject.1, hproject.2]
  refine ⟨?_, fun key hkey => ?_, ?_⟩
  · rw [score_summarize, score_summarize]
  · obtain ⟨others, hmetadata⟩ := metadata_summarize project.config.layout statuses
    rw [hmetadata, hmetadata, Keyed.find?_insert_of_ne _ _ hkey, Keyed.find?_insert_of_ne _ _ hkey]
  · rw [filter_gaps_summarize, filter_gaps_summarize]

/-- A project with one component, which belongs to none of its features. -/
def dialogs : Project where
  tree := .folder [("p", .folder [("src", .folder [("components", .folder [
    ("Stray.tsx", .file .empty)])])])]
  root := "/p"
  config := {
    features := [{ name := "Alerts", components := ["AlertDialog"] }]
    orphanAllowlist := ["Toast"] }

theorem orphans_exact_dialogs :
    let respelled : Config := { dialogs.config with
      features := [{ name := "Alerts", components := ["alert_dialog"] }] }
    let extended : Config := { dialogs.config with orphanAllowlist := ["Toast", "STRAY"] }
    orphans dialogs = ["Stray"] ∧
      Edits Respells dialogs.config respelled ∧
      orphans { dialogs with config := respelled } = ["Stray"] ∧
      Edits List.Sublist dialogs.config extended ∧
      (orphans { dialogs with config := extended }).Sublist ["Stray"] ∧
      (analyze { dialogs with config := extended }).score = (analyze dialogs).score := by
  intro respelled extended
  have horphans : orphans dialogs = ["Stray"] := by decide +kernel
  have hrespells : Edits Respells dialogs.config respelled :=
    @Edits.components _ dialogs.config [] [] _ _ rfl
      (@Respells.replace [] [] "AlertDialog" "alert_dialog" (by decide +kernel))
  have hextends : Edits List.Sublist dialogs.config extended :=
    .allowlist (List.sublist_append_left ["Toast"] ["STRAY"])
  obtain ⟨-, -, hsame, hfewer, hallowed⟩ := orphans_exact dialogs
  have hrespelled := hsame respelled (.single hrespells)
  have hextended := hfewer extended (.single hextends)
  rw [horphans] at hrespelled hextended
  exact ⟨horphans, hrespells, hrespelled, hextends, hextended, (hallowed ["Toast", "STRAY"]).1⟩

end GapAudit.Features
