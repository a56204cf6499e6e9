import Mathlib
import GapAudit.Analyzers
import GapAudit.Proofs.Keyed
import GapAudit.Proofs.Walk.Distinct

/-!
# Which gaps share an identifier

An identifier names a topic and, behind a colon, the subject that a gap is about. Files, packages
and the topics of the checks of quality come up once, so that the gaps of components, quality and
dependencies always have identifiers of their own. What the configuration lists may come up twice:
the main statement says for every project just when two gaps of an analyzer share an identifier
(`nodup_gapIds_iff`). In particular the names of features are told apart by their lower-case forms
when a configuration is checked, but in identifiers without hyphens and underscores as well
(`twins_share_ids`).
-/

namespace GapAudit

/-- The identifier for a topic and a subject. -/
def tag (subject topic : String) : String :=
  topic ++ ":" ++ subject

lemma toList_tag (subject topic : String) :
    (tag subject topic).toList = topic.toList ++ ':' :: subject.toList := by
  simp [tag]

lemma tag_inj {subject subject' topic topic' : String} (h : ':' ∉ topic.toList)
    (h' : ':' ∉ topic'.toList) (heq : tag subject topic = tag subject' topic') :
    topic = topic' ∧ subject = subject' := by
  have hlist := congrArg String.toList heq
  rw [toList_tag, toList_tag] at hlist
  have htopic := congrArg (List.takeWhile (· != ':')) hlist
  have hsubject := congrArg (List.dropWhile (· != ':')) hlist
  have hall : ∀ c ∈ topic.toList, (c != ':') = true := by
    intro c hmem
    rw [bne_iff_ne]
    rintro rfl
    exact h hmem
  have hall' : ∀ c ∈ topic'.toList, (c != ':') = true := by
    intro c hmem
    rw [bne_iff_ne]
    rintro rfl
    exact h' hmem
  rw [List.takeWhile_append_of_pos hall, List.takeWhile_append_of_pos hall'] at htopic
  rw [List.dropWhile_append_of_pos hall, List.dropWhile_append_of_pos hall'] at hsubject
  simp only [List.takeWhile_cons, List.dropWhile_cons, bne_self_eq_false, Bool.false_eq_true,
    if_false, List.append_nil, List.cons.injEq, true_and] at htopic hsubject
  exact ⟨String.toList_inj.mp htopic, String.toList_inj.mp hsubject⟩

lemma tag_ne {subject topic id : String} (h : ':' ∉ id.toList) : tag subject topic ≠ id := by
  intro heq
  apply h
  rw [← heq, toList_tag]
  simp

lemma nodup_map_tag {topic : String} (h : ':' ∉ topic.toList) {subjects : List String} :
    (subjects.map (tag · topic)).Nodup ↔ subjects.Nodup :=
  List.nodup_map_iff fun _ _ heq => (tag_inj h h heq).2

/-- Identifiers under the topics of several things differ just when no two things with the same
subject have a topic in common. -/
lemma nodup_flatMap_tag_iff {α : Type} {things : List α} {topics : α → List String}
    (subject : α → String) (hcolon : ∀ x ∈ things, ∀ topic ∈ topics x, ':' ∉ topic.toList)
    (hnodup : ∀ x ∈ things, (topics x).Nodup) :
    (things.flatMap fun x => (topics x).map (tag (subject x))).Nodup ↔
      things.Pairwise fun x y => subject x = subject y → (topics x).Disjoint (topics y) := by
  have hinner : ∀ x ∈ things, ((topics x).map (tag (subject x))).Nodup := by
    intro x hx
    refine (hnodup x hx).map_on fun t ht t' ht' heq => ?_
    exact (tag_inj (hcolon x hx t ht) (hcolon x hx t' ht') heq).1
  rw [List.nodup_flatMap]
  refine ⟨fun h => h.2.imp_of_mem ?_, fun h => ⟨hinner, h.imp_of_mem ?_⟩⟩
  · intro x y _ _ hdisjoint hsubject topic htopic htopic'
    refine hdisjoint (List.mem_map_of_mem htopic) ?_
    rw [hsubject]
    exact List.mem_map_of_mem htopic'
  · intro x y hx hy hdisjoint id hid hid'
    obtain ⟨topic, htopic, rfl⟩ := List.mem_map.mp hid
    obtain ⟨topic', htopic', heq⟩ := List.mem_map.mp hid'
    obtain ⟨htopics, hsubjects⟩ := tag_inj (hcolon y hy topic' htopic') (hcolon x hx topic htopic) heq
    exact hdisjoint hsubjects.symm htopic (htopics ▸ htopic')

section

variable {α : Type} (c : Prop) [Decidable c] (x : α)

lemma sublist_unless : (if c then [] else [x]).Sublist [x] := by
  split <;> simp

lemma sublist_if : (if c then [x] else []).Sublist [x] := by
  split <;> simp

end

lemma map_filter_cons {α β : Type} (p : α → Prop) [DecidablePred p] (f : α → β) (x : α)
    (xs : List α) :
    ((x :: xs).filter p).map f = (if p x then [f x] else []) ++ (xs.filter p).map f := by
  by_cases h : p x
  · simp [h]
  · simp [h]

lemma gaps_withGaps {α : Type} (r : AnalyzerResult α) (gaps : List Gap) :
    (r.withGaps gaps).gaps = gaps :=
  rfl

namespace ComponentReport

def topics : List String :=
  ["props", "error-boundary", "accessibility", "missing-import", "unused-import"].map
    ("component-" ++ ·)

/-- The topics of the gaps that a component file has. -/
lemma exists_ids_eq (r : ComponentReport) :
    ∃ own : List String, own.Sublist topics ∧ r.gaps.map (·.id) = own.map (tag r.file) := by
  have hgaps : r.gaps.Sublist
      [r.propsGap, r.isolationGap, r.accessibilityGap Float, r.missingGap, r.unusedGap] :=
    ((((sublist_unless _ _).append (sublist_unless _ _)).append (sublist_if _ _)).append
      (sublist_unless _ _)).append (sublist_unless _ _)
  have hids : (r.gaps.map (·.id)).Sublist (topics.map (tag r.file)) := hgaps.map (·.id)
  obtain ⟨own, hown, heq⟩ := List.sublist_map_iff.mp hids
  exact ⟨own, hown, heq⟩

end ComponentReport

namespace Project

variable {project : Project}

/-- The files that a walk takes have paths of their own relative to the project. -/
lemma nodup_relative_walk (htree : project.tree.isWellNamed = true)
    (hroot : Path.isAbsolute project.root = true) (folder : String) (w : Walk) :
    ((project.walk folder w).map project.relative).Nodup := by
  obtain ⟨hclean, hnodup⟩ :=
    w.collect_nodup htree (Path.isAbsolute_join hroot folder)
  have hdistinct : (w.collect project.tree (project.path folder)).Nodup := hnodup.of_map _
  refine (hdistinct.filter _).map_on fun p hp q hq heq => ?_
  have hp' := List.mem_of_mem_filter hp
  have hq' := List.mem_of_mem_filter hq
  exact List.inj_on_of_nodup_map hnodup hp' hq'
    (Path.components_eq_of_relativeTo_eq hroot (hclean p hp') (hclean q hq') heq)

lemma nodup_files_inspectAll (htree : project.tree.isWellNamed = true)
    (hroot : Path.isAbsolute project.root = true) :
    ((Components.inspectAll project).map (·.file)).Nodup := by
  have hsublist : ((Components.inspectAll project).map (·.file)).Sublist
      ((project.walk project.config.layout.componentsDir Walk.components).map project.relative) := by
    rw [Components.inspectAll, List.map_filterMap]
    induction project.walk project.config.layout.componentsDir Walk.components with
    | nil => exact List.Sublist.slnil
    | cons path paths ih =>
      rw [List.filterMap_cons, List.map_cons]
      cases project.text? path with
      | none => exact ih.cons _
      | some text => exact ih.cons_cons _
  exact hsublist.nodup (nodup_relative_walk htree hroot _ _)

lemma components_nodup (htree : project.tree.isWellNamed = true)
    (hroot : Path.isAbsolute project.root = true) :
    ((Components.analyze project).gaps.map (·.id)).Nodup := by
  choose own hown hids using ComponentReport.exists_ids_eq
  have hfiles := nodup_files_inspectAll htree hroot
  have hgaps : (Components.analyze project).gaps.map (·.id) =
      (Components.inspectAll project).flatMap fun r => (own r).map (tag r.file) := by
    rw [Components.analyze, Components.summarize, gaps_withGaps, List.map_flatMap]
    exact List.flatMap_congr fun r _ => hids r
  have hcolon : ∀ topic ∈ ComponentReport.topics, ':' ∉ topic.toList := by decide
  have hnodup : ComponentReport.topics.Nodup := by decide
  rw [hgaps, nodup_flatMap_tag_iff (fun r : ComponentReport => r.file)
    (fun r _ topic htopic => hcolon topic ((hown r).subset htopic))
    (fun r _ => (hown r).nodup hnodup)]
  -- Different reports are about different files.
  exact (List.pairwise_map.mp hfiles).imp fun hne heq => absurd heq hne

end Project

namespace Quality

def topics : List String :=
  ["type-errors", "naming", "error-handling", "loading-state", "accessibility", "test-coverage"].map
    ("quality-" ++ ·)

lemma ids_filesGap? (kind : String) (severity : Severity) (effort : Effort) (files : List String)
    (trouble recommendation : String) :
    (filesGap? kind severity effort files trouble recommendation).toList.map (·.id) =
      if files.length = 0 then [] else ["quality-" ++ kind] := by
  rw [filesGap?]
  cases files <;> rfl

lemma ids_typeErrorsGap? (outcome : TypecheckOutcome) :
    (typeErrorsGap? outcome).toList.map (·.id) =
      if outcome.problemCount = 0 then [] else ["quality-" ++ "type-errors"] := by
  rw [typeErrorsGap?]
  split <;> rfl

lemma ids_coverageGap? {α : Type} [Arithmetic α] (checks : QualityChecks)
    (deductions : Deductions α) :
    (coverageGap? checks deductions).toList.map (·.id) =
      if Arithmetic.lt 0 deductions.testCoverage then ["quality-" ++ "test-coverage"] else [] := by
  rw [coverageGap?]
  split <;> rfl

lemma ids_nodup (outcome : TypecheckOutcome) (checks : QualityChecks)
    (deductions : Deductions Float) : ((gaps outcome checks deductions).map (·.id)).Nodup := by
  have hids : ((gaps outcome checks deductions).map (·.id)).Sublist topics := by
    rw [gaps]
    simp only [List.map_append, ids_typeErrorsGap?, ids_filesGap?, ids_coverageGap?]
    exact (((((sublist_unless _ _).append (sublist_unless _ _)).append (sublist_unless _ _)).append
      (sublist_unless _ _)).append (sublist_unless _ _)).append (sublist_if _ _)
  have htopics : topics.Nodup := by decide
  exact hids.nodup htopics

end Quality

lemma Project.quality_nodup (project : Project) :
    ((Quality.analyze project).gaps.map (·.id)).Nodup := by
  rw [Quality.analyze, Quality.summarize]
  -- The reason why types were not checked is told in the metadata.
  split
  · exact Quality.ids_nodup _ _ _
  · exact Quality.ids_nodup _ _ _

lemma nodup_distinctSorted (texts : List String) : (distinctSorted texts).Nodup :=
  Keyed.nodup_keys _

namespace DependencyReport

lemma missing_nodup {r : DependencyReport} (h : r.imported.Nodup) :
    (r.criticalMissing ++ r.otherMissing).Nodup := by
  have hmissing : r.missing.Nodup := h.filter _
  refine (hmissing.filter _).append (hmissing.filter _) ?_
  intro package hcritical hother
  have hnot := (List.mem_filter.mp hother).2
  rw [Bool.not_eq_true', List.contains_eq_mem, decide_eq_false_iff_not] at hnot
  exact hnot hcritical

lemma ids_removableGap? (manifest : String) (removable : List String) :
    ((removableGap? manifest removable).toList.map (·.id)).Sublist ["dependency-removable"] := by
  rw [removableGap?]
  split
  · simp
  · exact List.Sublist.refl _

lemma ids_unusedGap? (manifest : String) (count : Nat) :
    ((unusedGap? manifest count).toList.map (·.id)).Sublist ["dependency-unused"] := by
  rw [unusedGap?]
  split
  · simp
  · exact List.Sublist.refl _

lemma ids_nodup {r : DependencyReport} (h : r.imported.Nodup) (manifest : String) :
    ((r.gaps manifest).map (·.id)).Nodup := by
  have hids : ((r.gaps manifest).map (·.id)).Sublist
      ((r.criticalMissing ++ r.otherMissing).map (tag · "dependency-missing") ++
        ["dependency-removable", "dependency-unused"]) := by
    have hcritical : (r.criticalMissing.map (criticalGap manifest)).map (·.id) =
        r.criticalMissing.map (tag · "dependency-missing") := by
      rw [List.map_map]
      rfl
    have hother : (r.otherMissing.map (missingGap manifest)).map (·.id) =
        r.otherMissing.map (tag · "dependency-missing") := by
      rw [List.map_map]
      rfl
    rw [gaps]
    simp only [List.map_append, hcritical, hother]
    rw [List.append_assoc _ _ (List.map _ (unusedGap? _ _).toList)]
    exact (List.Sublist.refl _).append ((ids_removableGap? _ _).append (ids_unusedGap? _ _))
  refine hids.nodup (((nodup_map_tag (by decide)).mpr (missing_nodup h)).append (by decide) ?_)
  intro id hid hfixed
  obtain ⟨package, -, rfl⟩ := List.mem_map.mp hid
  simp only [List.mem_cons, List.not_mem_nil, or_false] at hfixed
  exact hfixed.elim (tag_ne (by decide)) (tag_ne (by decide))

end DependencyReport

lemma Project.dependencies_nodup {project : Project} {result : AnalyzerResult Float}
    (h : Dependencies.analyze project = .ok result) : (result.gaps.map (·.id)).Nodup := by
  rw [Dependencies.analyze] at h
  rcases hmanifest : Manifest.load project.tools project.tree
    (project.path project.config.layout.manifest) with e | manifest
  · rw [hmanifest] at h
    cases h
  · rw [hmanifest] at h
    cases h
    exact DependencyReport.ids_nodup (nodup_distinctSorted _) _

lemma StructureFindings.ids_nodup_iff (f : StructureFindings) (project : Project) :
    ((f.gaps project).map (·.id)).Nodup ↔ f.missingFolders.Nodup ∧ f.missingFiles.Nodup := by
  have hroutes : ((f.routes.gap? project.config.layout.appRoot).toList.map (·.id)).Sublist
      ["structure-route-coverage"] := by
    rw [Routes.gap?]
    split
    · simp
    · exact List.Sublist.refl _
  have hservices : ((servicesGap? project f.untypedServices).toList.map (·.id)).Sublist
      ["structure-untyped-services"] := by
    cases f.untypedServices with
    | nil => simp [servicesGap?]
    | cons first more => exact List.Sublist.refl _
  have hfolders : (f.missingFolders.map folderGap).map (·.id) =
      f.missingFolders.map (tag · "structure-missing-directory") := by
    rw [List.map_map]
    rfl
  have hfiles : (f.missingFiles.map fileGap).map (·.id) =
      f.missingFiles.map (tag · "structure-missing-file") := by
    rw [List.map_map]
    rfl
  have hfixed := hroutes.append hservices
  rw [gaps]
  simp only [List.map_append, hfolders, hfiles]
  rw [List.append_assoc _ _ (List.map _ (servicesGap? _ _).toList)]
  constructor
  · intro h
    have hlists := h.of_append_left
    exact ⟨(nodup_map_tag (by decide)).mp hlists.of_append_left,
      (nodup_map_tag (by decide)).mp hlists.of_append_right⟩
  · rintro ⟨hfoldersNodup, hfilesNodup⟩
    refine (((nodup_map_tag (by decide)).mpr hfoldersNodup).append
      ((nodup_map_tag (by decide)).mpr hfilesNodup) ?_).append (hfixed.nodup (by decide)) ?_
    · intro id hfolder hfile
      obtain ⟨folder, -, rfl⟩ := List.mem_map.mp hfolder
      obtain ⟨file, -, heq⟩ := List.mem_map.mp hfile
      exact absurd (tag_inj (by decide) (by decide) heq).1 (by decide)
    · intro id hlisted hid
      have hid' : id = "structure-route-coverage" ∨ id = "structure-untyped-services" := by
        simpa using hfixed.subset hid
      rcases List.mem_append.mp hlisted with hmem | hmem <;>
        obtain ⟨subject, -, rfl⟩ := List.mem_map.mp hmem <;>
        exact hid'.elim (tag_ne (by decide)) (tag_ne (by decide))

namespace FeatureStatus

/-- The kinds of which a feature misses anything. -/
def missingKinds (status : FeatureStatus) : List ArtifactKind :=
  status.missing.map (·.1)

/-- Whether two features have gaps with the same identifier: their names are the same in lower case
without hyphens and underscores, and both are incomplete or miss things of the same kind. -/
def Clash (s t : FeatureStatus) : Prop :=
  loose s.name = loose t.name ∧
    ((isComplete (s.completion : Float) = false ∧ isComplete (t.completion : Float) = false) ∨
      ∃ kind ∈ s.missingKinds, kind ∈ t.missingKinds)

/-- The topic of the gap of a kind. -/
def missingTopic (kind : ArtifactKind) : String :=
  "feature-missing-" ++ kind.plural

def topics (status : FeatureStatus) : List String :=
  (if isComplete (status.completion : Float) then [] else ["feature-incomplete"]) ++
    status.missingKinds.map missingTopic

lemma missingTopic_inj {kind kind' : ArtifactKind} (h : missingTopic kind = missingTopic kind') :
    kind = kind' := by
  revert h
  cases kind <;> cases kind' <;> decide

lemma missingTopic_ne (kind : ArtifactKind) : missingTopic kind ≠ "feature-incomplete" := by
  cases kind <;> decide

lemma mem_topics {status : FeatureStatus} {topic : String} :
    topic ∈ status.topics ↔
      (isComplete (status.completion : Float) = false ∧ topic = "feature-incomplete") ∨
        ∃ kind ∈ status.missingKinds, missingTopic kind = topic := by
  rw [topics, List.mem_append, List.mem_map]
  cases isComplete (status.completion : Float) <;> simp

lemma ids_gaps (status : FeatureStatus) (layout : Layout) :
    (status.gaps layout).map (·.id) = status.topics.map (tag (loose status.name)) := by
  have hincomplete :
      (status.incompleteGap Float).id = tag (loose status.name) "feature-incomplete" := by
    have hcolon : "feature-incomplete:" = "feature-incomplete" ++ ":" := by decide
    rw [tag, ← hcolon]
    rfl
  rw [gaps, gapsIn, topics, List.map_append, List.map_append, missingKinds, List.map_map,
    List.map_map, List.map_map]
  cases isComplete (status.completion : Float)
  · simp only [Bool.false_eq_true, if_false, List.map_cons, List.map_nil, hincomplete]
    rfl
  · rfl

lemma colon_not_mem_topics {status : FeatureStatus} {topic : String} (h : topic ∈ status.topics) :
    ':' ∉ topic.toList := by
  rcases mem_topics.mp h with ⟨-, rfl⟩ | ⟨kind, -, rfl⟩
  · decide
  · cases kind <;> decide

lemma topics_nodup {status : FeatureStatus} (h : status.missingKinds.Nodup) :
    status.topics.Nodup := by
  have hmissing : (status.missingKinds.map missingTopic).Nodup :=
    h.map fun _ _ => missingTopic_inj
  refine ((sublist_unless _ _).nodup (List.nodup_singleton _)).append hmissing ?_
  intro topic hfirst hkind
  obtain ⟨kind, -, rfl⟩ := List.mem_map.mp hkind
  exact missingTopic_ne kind (List.mem_singleton.mp ((sublist_unless _ _).subset hfirst))

/-- Features with names alike have topics of their own just when they do not clash. -/
lemma disjoint_topics_iff {s t : FeatureStatus} :
    (loose s.name = loose t.name → s.topics.Disjoint t.topics) ↔ ¬s.Clash t := by
  constructor
  · rintro hdisjoint ⟨hname, ⟨hs, ht⟩ | ⟨kind, hs, ht⟩⟩
    · exact hdisjoint hname (mem_topics.mpr (.inl ⟨hs, rfl⟩)) (mem_topics.mpr (.inl ⟨ht, rfl⟩))
    · exact hdisjoint hname (mem_topics.mpr (.inr ⟨kind, hs, rfl⟩))
        (mem_topics.mpr (.inr ⟨kind, ht, rfl⟩))
  · intro hclash hname topic hs ht
    apply hclash
    refine ⟨hname, ?_⟩
    rcases mem_topics.mp hs with ⟨hsIncomplete, rfl⟩ | ⟨kind, hsKind, rfl⟩
    · rcases mem_topics.mp ht with ⟨htIncomplete, -⟩ | ⟨kind, -, heq⟩
      · exact .inl ⟨hsIncomplete, htIncomplete⟩
      · exact absurd heq (missingTopic_ne kind)
    · rcases mem_topics.mp ht with ⟨-, heq⟩ | ⟨kind', htKind, heq⟩
      · exact absurd heq (missingTopic_ne kind)
      · exact .inr ⟨kind, hsKind, missingTopic_inj heq ▸ htKind⟩

lemma missingKinds_nodup (feature : Feature) (index : ArtifactIndex) :
    (ofFeature feature index).missingKinds.Nodup := by
  have hsublist : (ofFeature feature index).missingKinds.Sublist
      ((ArtifactKind.all.map fun kind => (kind, absent feature index kind)).map (·.1)) :=
    List.filter_sublist.map _
  rw [List.map_map] at hsublist
  exact hsublist.nodup (by decide : ArtifactKind.all.Nodup)

end FeatureStatus

/-- The statuses of the features of a project. -/
def Project.featureStatuses (project : Project) : List FeatureStatus :=
  project.config.features.map (FeatureStatus.ofFeature · (ArtifactIndex.ofProject project))

lemma Project.features_nodup_iff (project : Project) :
    ((Features.analyze project).gaps.map (·.id)).Nodup ↔
      project.featureStatuses.Pairwise fun s t => ¬s.Clash t := by
  have hkinds : ∀ s ∈ project.featureStatuses, s.missingKinds.Nodup := by
    intro s hs
    obtain ⟨feature, -, rfl⟩ := List.mem_map.mp hs
    exact FeatureStatus.missingKinds_nodup _ _
  have hstatuses := nodup_flatMap_tag_iff (fun s : FeatureStatus => FeatureStatus.loose s.name)
    (fun s (_ : s ∈ project.featureStatuses) _ => FeatureStatus.colon_not_mem_topics)
    (fun s hs => FeatureStatus.topics_nodup (hkinds s hs))
  have horphans : ((Features.orphanGap? project.config.layout
      (Features.orphans project)).toList.map (·.id)).Sublist ["feature-orphan-components"] := by
    rw [Features.orphanGap?]
    split
    · simp
    · exact List.Sublist.refl _
  have hgaps : (Features.analyze project).gaps.map (·.id) =
      (project.featureStatuses.flatMap fun s =>
        s.topics.map (tag (FeatureStatus.loose s.name))) ++
      (Features.orphanGap? project.config.layout (Features.orphans project)).toList.map (·.id) := by
    rw [Features.analyze, Features.summarize, gaps_withGaps, List.map_append, List.map_flatMap]
    congr 1
    exact List.flatMap_congr fun s _ => s.ids_gaps _
  rw [hgaps, List.nodup_append', hstatuses]
  simp only [FeatureStatus.disjoint_topics_iff]
  refine ⟨fun h => h.1, fun h => ⟨h, horphans.nodup (List.nodup_singleton _), ?_⟩⟩
  intro id hid horphan
  obtain ⟨s, -, hid⟩ := List.mem_flatMap.mp hid
  obtain ⟨topic, -, rfl⟩ := List.mem_map.mp hid
  exact tag_ne (by decide) (List.mem_singleton.mp (horphans.subset horphan))

/-! ### All analyzers -/

namespace Project

/-- The gaps of a result have identifiers of their own, unless the analyzer of structure misses a
folder or a file that is required twice, or two features clash. -/
theorem nodup_gapIds_iff {project : Project} (htree : project.tree.isWellNamed = true)
    (hroot : Path.isAbsolute project.root = true) {name : String} {result : AnalyzerResult Float}
    (h : project.outcome? name = some (.done result)) :
    (result.gaps.map (·.id)).Nodup ↔
      (name = "structure" → (StructureFindings.ofProject project).missingFolders.Nodup ∧
        (StructureFindings.ofProject project).missingFiles.Nodup) ∧
      (name = "features" → project.featureStatuses.Pairwise fun s t => ¬s.Clash t) := by
  unfold outcome? at h
  split at h
  · cases h
    simp [components_nodup htree hroot]
  · cases h
    have hids : ((Structure.analyze project).gaps.map (·.id)).Nodup ↔ _ :=
      StructureFindings.ids_nodup_iff (.ofProject project) project
    simpa using hids
  · cases h
    simpa using features_nodup_iff project
  · cases h
    simp [quality_nodup]
  · split at h
    · next hresult =>
      cases h
      simp [dependencies_nodup hresult]
    · cases h
  · cases h

/-- A project with two features whose names differ in a hyphen only. -/
def twins : Project where
  tree := .folder [("p", .folder [("src", .folder [("components", .folder [
    ("Menu.tsx", .file "export default function Menu() { return <nav/> }".toUTF8)])])])]
  root := "/p"
  config :=
    { features := [
        { name := "ui-kit", components := ["Menu", "Dialog", "Card"] },
        { name := "uikit", components := ["Menu", "Drawer", "Tabs"] }] }

/-- The gaps of its component file have identifiers of their own. -/
theorem nodup_gapIds_iff_twins :
    twins.tree.isWellNamed = true ∧ Path.isAbsolute twins.root = true ∧
      twins.outcome? "components" = some (.done (Components.analyze twins)) ∧
      ((Components.analyze twins).gaps.map (·.id)).Nodup ∧ (Components.analyze twins).gaps ≠ [] := by
  have htree : twins.tree.isWellNamed = true := by decide +kernel
  have hroot : Path.isAbsolute twins.root = true := by decide +kernel
  have houtcome : twins.outcome? "components" = some (.done (Components.analyze twins)) := rfl
  refine ⟨htree, hroot, houtcome, ?_, ?_⟩
  · rw [nodup_gapIds_iff htree hroot houtcome]
    exact ⟨fun h => absurd h (by decide), fun h => absurd h (by decide)⟩
  · have hlength : (Components.analyze twins).gaps.length ≠ 0 := by decide +kernel
    exact fun hnil => hlength (congrArg List.length hnil)

/-- The configuration is valid, and yet the gaps of the two features share their identifiers. -/
theorem twins_share_ids :
    twins.tree.isWellNamed = true ∧ twins.config.validate.isOk ∧
      twins.outcome? "features" = some (.done (Features.analyze twins)) ∧
      ¬((Features.analyze twins).gaps.map (·.id)).Nodup := by
  refine ⟨by decide +kernel, by decide +kernel, rfl, by decide +kernel⟩

end Project

end GapAudit
