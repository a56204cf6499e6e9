import Mathlib
import GapAudit.Engine
import GapAudit.Proofs.Keyed

/-!
# Aggregation of outcomes into a report

The register never holds two analyzers of one name, so that the results of a run stand under
distinct names and none overwrites another. The main statement is that the report of a run has one
entry for each registered analyzer, made of the outcome of that analyzer alone, and that all totals
of the report are taken over exactly these entries (`analyze_aggregates`).
-/

namespace GapAudit

variable {α : Type} [Arithmetic α]

namespace Engine

omit [Arithmetic α] in
/-- An engine that registrations lead to from one without analyzers. A refused registration leaves
the engine as it was. -/
inductive Reachable : Engine α → Prop
  | empty (projectPath : String) (weights : WorkWeights α) (threshold : α) :
      Reachable { projectPath, weights, threshold }
  | register {engine next : Engine α} (analyzer : Analyzer α) :
      Reachable engine → engine.register analyzer = .ok next → Reachable next

omit [Arithmetic α] in
/-- What a successful registration does. -/
lemma register_eq_ok {engine next : Engine α} {analyzer : Analyzer α}
    (h : engine.register analyzer = .ok next) :
    analyzer.name ∉ engine.names ∧
      next = { engine with analyzers := engine.analyzers ++ [analyzer] } := by
  unfold register at h
  by_cases hblank : Text.allBlank analyzer.name.toList
  · rw [if_pos hblank] at h
    cases h
  · rw [if_neg hblank] at h
    by_cases hknown : engine.names.contains analyzer.name
    · rw [if_pos hknown] at h
      cases h
    · rw [if_neg hknown] at h
      exact ⟨by simpa using hknown, (Except.ok.inj h).symm⟩

omit [Arithmetic α] in
/-- The names in a register are distinct. -/
theorem Reachable.nodup_names {engine : Engine α} (h : engine.Reachable) :
    engine.names.Nodup := by
  induction h with
  | empty => exact List.nodup_nil
  | register analyzer _ hregister ih =>
    obtain ⟨hnew, rfl⟩ := register_eq_ok hregister
    have hnames : ∀ engine : Engine α,
        names { engine with analyzers := engine.analyzers ++ [analyzer] } =
          engine.names ++ [analyzer.name] := by
      intro engine
      simp [names]
    rw [hnames, List.nodup_append]
    refine ⟨ih, List.nodup_singleton _, ?_⟩
    intro a ha b hb
    rw [List.mem_singleton.mp hb]
    exact fun heq => hnew (heq ▸ ha)

omit [Arithmetic α] in
lemma Reachable.registerAll {engine next : Engine α} (h : engine.Reachable)
    (analyzers : List (Analyzer α)) (hregister : engine.registerAll analyzers = .ok next) :
    next.Reachable := by
  induction analyzers generalizing engine with
  | nil =>
    cases hregister
    exact h
  | cons analyzer rest ih =>
    rw [Engine.registerAll] at hregister
    cases hfirst : engine.register analyzer with
    | error e =>
      rw [hfirst] at hregister
      cases hregister
    | ok more =>
      rw [hfirst] at hregister
      exact ih (.register analyzer h hfirst) hregister

end Engine

namespace Report

variable (timestamp : Timestamp) (projectPath : String) (weights : WorkWeights α) (threshold : α)
  {results : List (AnalyzerResult α)}

/-- No result is lost and none is there twice: the entries are the results under their names. -/
lemma entries_ofResults_perm (h : (results.map (·.analyzerName)).Nodup) :
    (ofResults timestamp projectPath weights threshold results).analyzerResults.entries.Perm
      (results.map fun r => (r.analyzerName, r)) := by
  apply Keyed.entries_ofEntries_perm
  simpa [Function.comp_def] using h

lemma find?_ofResults (h : (results.map (·.analyzerName)).Nodup) {result : AnalyzerResult α}
    (hmem : result ∈ results) :
    (ofResults timestamp projectPath weights threshold results).analyzerResults.find?
      result.analyzerName = some result := by
  apply Keyed.find?_ofEntries
  · simpa [Function.comp_def] using h
  · exact List.mem_map.mpr ⟨result, hmem, rfl⟩

/-- The findings of a report are the gaps of all results. -/
lemma findings_ofResults_perm (h : (results.map (·.analyzerName)).Nodup) :
    ((ofResults timestamp projectPath weights threshold results).findings.map (·.2)).Perm
      (results.flatMap (·.gaps)) := by
  have hentries := entries_ofResults_perm timestamp projectPath weights threshold h
  have hflat := hentries.flatMap_right fun entry => entry.2.gaps.map fun gap => (entry.1, gap)
  refine (hflat.map (·.2)).trans ?_
  simp [List.map_flatMap, List.flatMap_map, Function.comp_def]

end Report

@[simp] lemma Finished.analyzerName_result (finished : Finished α) (name : String) :
    (finished.result name).analyzerName = name := by
  unfold Finished.result
  cases finished.outcome <;> rfl

/-- The result that counts for an analyzer after a run that took it the given time. -/
def Analyzer.entry (analyzer : Analyzer α) (elapsed : Nat) : AnalyzerResult α :=
  Finished.result ⟨analyzer.outcome, elapsed⟩ analyzer.name

@[simp] lemma Analyzer.analyzerName_entry (analyzer : Analyzer α) (elapsed : Nat) :
    (analyzer.entry elapsed).analyzerName = analyzer.name :=
  Finished.analyzerName_result _ _

namespace Engine

/-- The results of a run that takes the analyzers the given times, in the order of registration. -/
def results (engine : Engine α) (elapsed : String → Nat) : List (AnalyzerResult α) :=
  engine.analyzers.map fun analyzer => analyzer.entry (elapsed analyzer.name)

lemma names_results (engine : Engine α) (elapsed : String → Nat) :
    (engine.results elapsed).map (·.analyzerName) = engine.names := by
  simp [results, names]

lemma analyze_eq_ofResults {engine : Engine α} (nonempty : engine.analyzers ≠ [])
    (timestamp : Timestamp) (elapsed : String → Nat) :
    engine.analyze timestamp elapsed =
      .ok (Report.ofResults timestamp engine.projectPath engine.weights engine.threshold
        (engine.results elapsed)) := by
  have hempty : ¬engine.analyzers.isEmpty := by simpa using nonempty
  rw [analyze, if_neg hempty, report, results, List.zipWith_map_right, List.zipWith_self]
  rfl

end Engine

/-- A result that stands in for a failure: score 0, one gap, which is critical, and the mark. -/
structure AnalyzerResult.StandsInForFailure (result : AnalyzerResult Float) : Prop where
  score : result.score = 0
  gap : ∃ gap, result.gaps = [gap] ∧ gap.severity = .critical
  failed : result.isFailed = true

/-- What the entry of an analyzer is after a run that took it the given time: the result of its own
task, of which only the name and the time are replaced, or a result that stands in for a failure and
quotes it. -/
def Analyzer.EntryIs (analyzer : Analyzer Float) (elapsed : Nat) (entry : AnalyzerResult Float) :
    Prop :=
  match analyzer.outcome with
  | .done result =>
    entry = { result with analyzerName := analyzer.name, executionTime := elapsed }
  | .failed causes =>
    entry = { AnalyzerResult.ofFailure analyzer.name (Outcome.failureMessage causes) with
      executionTime := elapsed } ∧ entry.StandsInForFailure
  | .crashed crash =>
    entry = { AnalyzerResult.ofFailure analyzer.name crash.text with
      executionTime := elapsed } ∧ entry.StandsInForFailure

lemma AnalyzerResult.isFailed_ofFailure (name message : String) :
    (ofFailure name message : AnalyzerResult α).isFailed = true := by
  have hfound : (ofFailure name message : AnalyzerResult α).metadata.find? failedKey =
      some (.bool true) := by
    unfold ofFailure withMeta
    rw [Keyed.find?_insert_of_ne _ _ (by decide), Keyed.find?_insert_self]
  rw [isFailed, hfound]

lemma AnalyzerResult.standsInForFailure_ofFailure (name message : String) (elapsed : Nat) :
    StandsInForFailure { ofFailure name message with executionTime := elapsed } where
  score := by
    change Score.clamp (0 : Float) = 0
    decide +kernel
  gap := ⟨_, rfl, rfl⟩
  failed := by
    change (ofFailure name message : AnalyzerResult Float).isFailed = true
    exact isFailed_ofFailure name message

lemma Analyzer.entryIs_entry (analyzer : Analyzer Float) (elapsed : Nat) :
    analyzer.EntryIs elapsed (analyzer.entry elapsed) := by
  unfold EntryIs entry Finished.result
  cases analyzer.outcome with
  | done result => rfl
  | failed causes => exact ⟨rfl, AnalyzerResult.standsInForFailure_ofFailure _ _ _⟩
  | crashed message => exact ⟨rfl, AnalyzerResult.standsInForFailure_ofFailure _ _ _⟩

/-- A report that is a faithful account of one run of the analyzers of an engine. -/
structure Report.Aggregates (report : Report Float) (engine : Engine Float)
    (elapsed : String → Nat) : Prop where
  keys : report.analyzerResults.keys.Perm engine.names
  entries : ∀ analyzer ∈ engine.analyzers, ∃ entry,
    report.analyzerResults.find? analyzer.name = some entry ∧
      analyzer.EntryIs (elapsed analyzer.name) entry
  totalGaps_findings : report.summary.totalGaps = report.findings.length
  totalGaps_counters : report.summary.totalGaps =
    report.summary.gapsBySeverity.critical + report.summary.gapsBySeverity.high +
      report.summary.gapsBySeverity.medium + report.summary.gapsBySeverity.low
  counters : ∀ severity, report.summary.gapsBySeverity.count severity =
    report.findings.countP fun finding => finding.2.severity = severity
  totalAnalyzers : report.summary.totalAnalyzers = engine.analyzers.length
  failedAnalyzers : report.summary.failedAnalyzers =
    report.analyzerResults.entries.countP fun entry => entry.2.isFailed
  overallScore : report.overallScore = Score.mean (engine.names.filterMap fun name =>
    ((report.analyzerResults.find? name).filter fun entry => !entry.isFailed).map (·.score))
  overallScore_failed : (∀ entry ∈ report.analyzerResults.entries, entry.2.isFailed) →
    report.overallScore = 0

namespace Report

variable (timestamp : Timestamp) (projectPath : String) (weights : WorkWeights α) (threshold : α)
  {results : List (AnalyzerResult α)}

/-- The scores that count, read off the entries in the order of the results. -/
lemma scores_ofResults (h : (results.map (·.analyzerName)).Nodup) :
    (results.filter fun r => !r.isFailed).map (·.score) =
      (results.map (·.analyzerName)).filterMap fun name =>
        (((ofResults timestamp projectPath weights threshold results).analyzerResults.find?
          name).filter fun entry => !entry.isFailed).map (·.score) := by
  rw [← List.filterMap_eq_map, List.filterMap_filter, List.filterMap_map]
  apply List.filterMap_congr
  intro result hmem
  simp only [Function.comp_apply]
  rw [find?_ofResults timestamp projectPath weights threshold h hmem]
  by_cases hfailed : result.isFailed
  · simp [hfailed]
  · simp [hfailed]

end Report

/-- The report of a run has one entry for each registered analyzer, made of its own outcome, and
its totals are taken over exactly these entries. -/
theorem Engine.analyze_aggregates {engine : Engine Float} (reachable : engine.Reachable)
    (nonempty : engine.analyzers ≠ []) (timestamp : Timestamp) (elapsed : String → Nat) :
    ∃ report, engine.analyze timestamp elapsed = .ok report ∧
      report.Aggregates engine elapsed := by
  have hnodup : ((engine.results elapsed).map (·.analyzerName)).Nodup := by
    rw [names_results]
    exact reachable.nodup_names
  refine ⟨_, analyze_eq_ofResults nonempty timestamp elapsed, ?_⟩
  have hentries := Report.entries_ofResults_perm timestamp engine.projectPath engine.weights
    engine.threshold hnodup
  have hfindings := Report.findings_ofResults_perm timestamp engine.projectPath engine.weights
    engine.threshold hnodup
  have hscores := Report.scores_ofResults timestamp engine.projectPath engine.weights
    engine.threshold hnodup
  constructor
  case keys =>
    have hkeys := hentries.map (·.1)
    rw [← names_results engine elapsed]
    simpa [Keyed.keys, Function.comp_def] using hkeys
  case entries =>
    intro analyzer hmem
    have hresult : analyzer.entry (elapsed analyzer.name) ∈ engine.results elapsed :=
      List.mem_map.mpr ⟨analyzer, hmem, rfl⟩
    have hfound := Report.find?_ofResults timestamp engine.projectPath engine.weights
      engine.threshold hnodup hresult
    rw [Analyzer.analyzerName_entry] at hfound
    exact ⟨_, hfound, Analyzer.entryIs_entry analyzer (elapsed analyzer.name)⟩
  case totalGaps_findings =>
    rw [← List.length_map (f := (·.2)), hfindings.length_eq]
    exact Histogram.total_ofGaps _
  case totalGaps_counters => rfl
  case counters =>
    intro severity
    have hcount := hfindings.countP_eq fun gap => gap.severity = severity
    rw [List.countP_map] at hcount
    exact (Histogram.count_ofGaps _ severity).trans hcount.symm
  case totalAnalyzers => exact List.length_map _
  case failedAnalyzers =>
    rw [hentries.countP_eq, List.countP_map]
    rfl
  case overallScore =>
    rw [← names_results engine elapsed, ← hscores]
    rfl
  case overallScore_failed =>
    intro hfailed
    have hnone : (engine.results elapsed).filter (fun r => !r.isFailed) = [] := by
      rw [List.filter_eq_nil_iff]
      intro result hmem
      have hentry := hfailed (result.analyzerName, result)
        (hentries.mem_iff.mpr (List.mem_map.mpr ⟨result, hmem, rfl⟩))
      simp [hentry]
    change Score.mean (((engine.results elapsed).filter fun r => !r.isFailed).map (·.score)) = 0
    rw [hnone]
    rfl

/-- Three analyzers: one whose result carries the name of the next, one that ends in an error, and
one that crashes. -/
def Engine.mixed : Engine Float where
  projectPath := "/work/app"
  weights := .standard
  threshold := 80
  analyzers := [
    ⟨"structure", .done { analyzerName := "quality", score := 60, gaps := [
      ⟨"s1", .high, "structure", "No router", "Add one", [], none⟩] }⟩,
    ⟨"quality", .failed ["reading sources", "permission denied"]⟩,
    ⟨"features", .crashed (some "index out of bounds")⟩]

lemma Engine.mixed_reachable : mixed.Reachable :=
  (Reachable.empty "/work/app" .standard 80).registerAll mixed.analyzers rfl

theorem Engine.analyze_aggregates_mixed :
    mixed.Reachable ∧ mixed.analyzers ≠ [] ∧
      ∃ report, mixed.analyze ⟨0, 0⟩ String.length = .ok report ∧
        report.Aggregates mixed String.length :=
  ⟨mixed_reachable, List.cons_ne_nil _ _,
    analyze_aggregates mixed_reachable (List.cons_ne_nil _ _) ⟨0, 0⟩ String.length⟩

end GapAudit
