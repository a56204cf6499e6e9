import Mathlib
import GapAudit.Proofs.Engine.Aggregation

/-!
# Order of completion

The tasks of a run end in any order, and their outcomes are taken in any order; what is collected
stands in the order of registration. Each task keeps the outcome of its own analyzer at every step
(`Faithful.step`), so that the collected outcomes do not depend on the order
(`Completes.outcomes_eq`). The main statement is that the report of a run, times apart, is one
function of these outcomes, and that an analyzer that fails changes nothing about the others
(`report_schedule_independent`).
-/

namespace GapAudit

open Relation

variable {α : Type}

/-- How far the task of one analyzer is: at work, ended with an outcome that nobody has taken yet,
or ended and joined. -/
inductive TaskState (α : Type) where
  | running
  | ended (outcome : Outcome α)
  | joined (finished : Finished α)

/-- Whether a task has no other outcome than the given one. -/
def TaskState.Holds (outcome : Outcome α) : TaskState α → Prop
  | .running => True
  | .ended held => held = outcome
  | .joined finished => finished.outcome = outcome

namespace Engine

def start (engine : Engine α) : List (TaskState α) :=
  engine.analyzers.map fun _ => .running

/-- One step of a run. Any task that is at work may end, with the outcome of its analyzer, and any
task that has ended may be joined, after whatever time that took. -/
inductive Step (engine : Engine α) : List (TaskState α) → List (TaskState α) → Prop
  | finish {tasks : List (TaskState α)} {i : Nat} {analyzer : Analyzer α} :
      engine.analyzers[i]? = some analyzer → tasks[i]? = some .running →
        Step engine tasks (tasks.set i (.ended analyzer.outcome))
  | join {tasks : List (TaskState α)} {i : Nat} {outcome : Outcome α} (elapsed : Nat) :
      tasks[i]? = some (.ended outcome) →
        Step engine tasks (tasks.set i (.joined ⟨outcome, elapsed⟩))

/-- A run of the engine may end with the given tasks joined, in the order of registration. -/
def Completes (engine : Engine α) (finished : List (Finished α)) : Prop :=
  ReflTransGen engine.Step engine.start (finished.map .joined)

/-- Every task belongs to its analyzer: there are as many, and none has the outcome of another. -/
structure Faithful (engine : Engine α) (tasks : List (TaskState α)) : Prop where
  length_eq : tasks.length = engine.analyzers.length
  holds : ∀ {i : Nat} {analyzer : Analyzer α} {task : TaskState α},
    engine.analyzers[i]? = some analyzer → tasks[i]? = some task → task.Holds analyzer.outcome

lemma faithful_start (engine : Engine α) : engine.Faithful engine.start where
  length_eq := List.length_map _
  holds := by
    intro i analyzer task _ htask
    obtain ⟨_, _, rfl⟩ := Option.map_eq_some_iff.mp (List.getElem?_map ▸ htask)
    trivial

lemma Faithful.set {engine : Engine α} {tasks : List (TaskState α)} (h : engine.Faithful tasks)
    {i : Nat} {next : TaskState α}
    (hnext : ∀ analyzer, engine.analyzers[i]? = some analyzer → next.Holds analyzer.outcome) :
    engine.Faithful (tasks.set i next) where
  length_eq := (List.length_set ..).trans h.length_eq
  holds := by
    intro j analyzer task hanalyzer htask
    by_cases hij : i = j
    · subst hij
      rw [List.getElem?_set_self'] at htask
      obtain ⟨_, _, rfl⟩ := Option.map_eq_some_iff.mp htask
      exact hnext analyzer hanalyzer
    · rw [List.getElem?_set_ne hij] at htask
      exact h.holds hanalyzer htask

/-- A step keeps every task with the outcome of its own analyzer. -/
theorem Faithful.step {engine : Engine α} {tasks next : List (TaskState α)}
    (h : engine.Faithful tasks) (hstep : engine.Step tasks next) : engine.Faithful next := by
  cases hstep with
  | finish hanalyzer _ =>
    apply h.set
    intro analyzer hsame
    rw [hanalyzer] at hsame
    cases hsame
    rfl
  | join elapsed hended =>
    apply h.set
    intro analyzer hanalyzer
    have hholds := h.holds hanalyzer hended
    exact hholds

lemma Faithful.run {engine : Engine α} {tasks : List (TaskState α)}
    (h : ReflTransGen engine.Step engine.start tasks) : engine.Faithful tasks := by
  induction h with
  | refl => exact engine.faithful_start
  | tail _ hstep ih => exact ih.step hstep

/-- Whatever the order was in, the outcomes stand in the order of registration. -/
theorem Completes.outcomes_eq {engine : Engine α} {finished : List (Finished α)}
    (h : engine.Completes finished) :
    finished.map (·.outcome) = engine.analyzers.map (·.outcome) := by
  have hfaithful := Faithful.run h
  apply List.ext_getElem?
  intro i
  have hlength : finished.length = engine.analyzers.length := by
    simpa using hfaithful.length_eq
  rw [List.getElem?_map, List.getElem?_map]
  by_cases hi : i < engine.analyzers.length
  · have hanalyzer := List.getElem?_eq_getElem hi
    have hfinished := List.getElem?_eq_getElem (hlength ▸ hi)
    have htask : (finished.map TaskState.joined)[i]? = some (.joined finished[i]) := by
      rw [List.getElem?_map, hfinished]
      rfl
    have hholds := hfaithful.holds hanalyzer htask
    rw [hanalyzer, hfinished]
    exact congrArg some hholds
  · rw [List.getElem?_eq_none (by omega), List.getElem?_eq_none (by omega)]
    rfl

lemma join_one {engine : Engine α} {tasks : List (TaskState α)} (h : engine.Faithful tasks)
    {i : Nat} (hi : i < tasks.length) :
    ∃ finished, ReflTransGen engine.Step tasks (tasks.set i (.joined finished)) := by
  have hi' : i < engine.analyzers.length := h.length_eq ▸ hi
  have hanalyzer := List.getElem?_eq_getElem hi'
  have htask := List.getElem?_eq_getElem hi
  cases hstate : tasks[i] with
  | running =>
    rw [hstate] at htask
    have hfinish := Step.finish hanalyzer htask
    have hended : (tasks.set i (TaskState.ended engine.analyzers[i].outcome))[i]? =
        some (.ended engine.analyzers[i].outcome) := List.getElem?_set_self hi
    have hjoin : engine.Step _ _ := Step.join 0 hended
    rw [List.set_set] at hjoin
    exact ⟨_, (ReflTransGen.single hfinish).tail hjoin⟩
  | ended outcome =>
    rw [hstate] at htask
    exact ⟨_, ReflTransGen.single (Step.join 0 htask)⟩
  | joined finished =>
    refine ⟨finished, ?_⟩
    rw [← hstate, List.set_getElem_self]

lemma join_first {engine : Engine α} {tasks : List (TaskState α)}
    (h : ReflTransGen engine.Step engine.start tasks) (k : Nat) (hk : k ≤ tasks.length) :
    ∃ finished : List (Finished α), finished.length = k ∧
      ReflTransGen engine.Step tasks (finished.map .joined ++ tasks.drop k) := by
  induction k with
  | zero => exact ⟨[], rfl, .refl⟩
  | succ k ih =>
    obtain ⟨finished, hlength, hrun⟩ := ih (by omega)
    have hfaithful := Faithful.run (h.trans hrun)
    have hk' : k < (finished.map TaskState.joined ++ tasks.drop k).length := by
      simp only [List.length_append, List.length_map, List.length_drop]
      omega
    obtain ⟨last, hlast⟩ := join_one hfaithful hk'
    have hset : (finished.map TaskState.joined ++ tasks.drop k).set k (.joined last) =
        (finished ++ [last]).map .joined ++ tasks.drop (k + 1) := by
      have hdrop : tasks.drop k = tasks[k] :: tasks.drop (k + 1) := List.drop_eq_getElem_cons hk
      rw [List.set_append_right _ _ (by simp [hlength]), hdrop, List.length_map, hlength,
        Nat.sub_self, List.set_cons_zero, List.map_append, List.append_assoc]
      rfl
    rw [hset] at hlast
    exact ⟨finished ++ [last], by simp [hlength], hrun.trans hlast⟩

/-- Whatever has happened so far, all tasks can still be joined. -/
theorem exists_completion {engine : Engine α} {tasks : List (TaskState α)}
    (h : ReflTransGen engine.Step engine.start tasks) :
    ∃ finished : List (Finished α),
      ReflTransGen engine.Step tasks (finished.map .joined) := by
  obtain ⟨finished, _, hrun⟩ := join_first h tasks.length le_rfl
  rw [List.drop_length, List.append_nil] at hrun
  exact ⟨finished, hrun⟩

end Engine

variable [Arithmetic α]

omit [Arithmetic α] in
/-- A result without the time it took. -/
def AnalyzerResult.withoutTime (result : AnalyzerResult α) : AnalyzerResult α :=
  { result with executionTime := 0 }

omit [Arithmetic α] in
/-- A report without its moment and without the times of its analyzers. -/
def Report.withoutTimes (report : Report α) : Report α :=
  { report with
    timestamp := ⟨0, 0⟩
    analyzerResults := report.analyzerResults.mapValues AnalyzerResult.withoutTime }

lemma Recommendations.ofResults_withoutTime (results : List (AnalyzerResult α))
    (counts : Histogram) (overall threshold : α) :
    ofResults (results.map AnalyzerResult.withoutTime) counts overall threshold =
      ofResults results counts overall threshold := by
  have hgaps : (results.map AnalyzerResult.withoutTime).flatMap (·.gaps) =
      results.flatMap (·.gaps) := List.flatMap_map ..
  have hlow : (results.map AnalyzerResult.withoutTime).filter isLow =
      (results.filter isLow).map AnalyzerResult.withoutTime := List.filter_map ..
  unfold ofResults criticalLines criticalGaps improveLines
  rw [hgaps, hlow, List.map_map]
  rfl

/-- Nothing but the entries of a report depends on the times. -/
lemma Report.withoutTimes_ofResults (timestamp : Timestamp) (projectPath : String)
    (weights : WorkWeights α) (threshold : α) (results : List (AnalyzerResult α)) :
    (ofResults timestamp projectPath weights threshold results).withoutTimes =
      ofResults ⟨0, 0⟩ projectPath weights threshold
        (results.map AnalyzerResult.withoutTime) := by
  have hgaps : (results.map AnalyzerResult.withoutTime).flatMap (·.gaps) =
      results.flatMap (·.gaps) := List.flatMap_map ..
  have hscores : ((results.map AnalyzerResult.withoutTime).filter fun r => !r.isFailed).map
      (·.score) = (results.filter fun r => !r.isFailed).map (·.score) := by
    rw [List.filter_map, List.map_map]
    rfl
  have hfailed : (results.map AnalyzerResult.withoutTime).countP (·.isFailed) =
      results.countP (·.isFailed) := List.countP_map ..
  have hentries : (Keyed.ofEntries (results.map fun r => (r.analyzerName, r))).mapValues
      AnalyzerResult.withoutTime = .ofEntries
        ((results.map AnalyzerResult.withoutTime).map fun r => (r.analyzerName, r)) := by
    rw [Keyed.mapValues_ofEntries, List.map_map, List.map_map]
    rfl
  unfold withoutTimes ofResults
  simp only [hgaps, hscores, hfailed, hentries, List.length_map,
    Recommendations.ofResults_withoutTime]

namespace Engine

/-- The report that outcomes give, one for each analyzer in the order of registration. -/
def settled (engine : Engine α) (outcomes : List (Outcome α)) : Report α :=
  engine.report ⟨0, 0⟩ (outcomes.map fun outcome => ⟨outcome, 0⟩)

lemma withoutTime_result (finished : Finished α) (name : String) :
    (finished.result name).withoutTime = Finished.result ⟨finished.outcome, 0⟩ name := by
  unfold Finished.result
  cases finished.outcome <;> rfl

/-- Times apart, a report is a function of the outcomes. -/
lemma withoutTimes_report (engine : Engine α) (timestamp : Timestamp)
    (finished : List (Finished α)) :
    (engine.report timestamp finished).withoutTimes =
      engine.settled (finished.map (·.outcome)) := by
  unfold settled report
  rw [Report.withoutTimes_ofResults, List.map_zipWith, List.map_map, List.zipWith_map_right]
  simp only [withoutTime_result]
  rfl

lemma settled_outcomes (engine : Engine α) :
    engine.settled (engine.analyzers.map (·.outcome)) =
      .ofResults ⟨0, 0⟩ engine.projectPath engine.weights engine.threshold
        (engine.results fun _ => 0) := by
  unfold settled report results
  rw [List.map_map, List.zipWith_map_right, List.zipWith_self]
  rfl

lemma Completes.withoutTimes_report {engine : Engine α} {finished : List (Finished α)}
    (h : engine.Completes finished) (timestamp : Timestamp) :
    (engine.report timestamp finished).withoutTimes =
      engine.settled (engine.analyzers.map (·.outcome)) := by
  rw [Engine.withoutTimes_report, h.outcomes_eq]

/-- A run gives the report that the analysis with the times of that run gives. -/
lemma Completes.analyze_eq {engine : Engine α} (nodup : engine.names.Nodup)
    (nonempty : engine.analyzers ≠ []) {finished : List (Finished α)}
    (h : engine.Completes finished) (timestamp : Timestamp) :
    ∃ elapsed, engine.analyze timestamp elapsed = .ok (engine.report timestamp finished) := by
  have hlength : finished.length = engine.analyzers.length := by
    simpa using congrArg List.length h.outcomes_eq
  -- Distinct names allow the times to be given by name, as the analysis takes them.
  refine ⟨fun name => (finished[engine.names.idxOf name]?.map (·.elapsed)).getD 0, ?_⟩
  have hempty : ¬engine.analyzers.isEmpty := by simpa using nonempty
  rw [analyze, if_neg hempty]
  congr 2
  refine List.ext_getElem (by simp [hlength]) ?_
  intro i hi hi'
  have hname : engine.names.idxOf engine.analyzers[i].name = i := by
    have hindex := nodup.idxOf_getElem i (by simpa [names] using hi)
    simpa [names] using hindex
  have houtcome : finished[i].outcome = engine.analyzers[i].outcome := by
    have houtcomes := congrArg (·[i]?) h.outcomes_eq
    simpa [hi', hlength ▸ hi'] using houtcomes
  rw [List.getElem_map, hname, List.getElem?_eq_getElem hi', ← houtcome]
  rfl

end Engine

/-! ### Isolation of failures -/

omit [Arithmetic α] in
/-- Whether a task ended in an error or a crash. -/
def Outcome.isFailure : Outcome α → Bool
  | .done _ => false
  | .failed _ => true
  | .crashed _ => true

open Outcome in
lemma Finished.result_of_isFailure {outcome : Outcome α} (h : outcome.isFailure) (elapsed : Nat)
    (name : String) :
    (Finished.result ⟨outcome, elapsed⟩ name).isFailed = true ∧
      ∃ gap, (Finished.result ⟨outcome, elapsed⟩ name).gaps = [gap] ∧
        gap.severity = .critical := by
  cases outcome with
  | done result => cases h
  | failed causes =>
    refine ⟨?_, _, rfl, rfl⟩
    change (AnalyzerResult.ofFailure name (failureMessage causes) :
      AnalyzerResult α).isFailed = true
    exact AnalyzerResult.isFailed_ofFailure name _
  | crashed crash =>
    refine ⟨?_, _, rfl, rfl⟩
    change (AnalyzerResult.ofFailure name crash.text : AnalyzerResult α).isFailed = true
    exact AnalyzerResult.isFailed_ofFailure name _

/-- How the totals of two reports differ when the first has one failure more. -/
structure Report.OneFailureMore (report rest : Report α) : Prop where
  overallScore : report.overallScore = rest.overallScore
  overallScore_failed : (∀ entry ∈ rest.analyzerResults.entries, entry.2.isFailed) →
    report.overallScore = 0
  failedAnalyzers : report.summary.failedAnalyzers = rest.summary.failedAnalyzers + 1
  gapsBySeverity : report.summary.gapsBySeverity = rest.summary.gapsBySeverity.record .critical

lemma Report.oneFailureMore_ofResults (timestamp : Timestamp) (projectPath : String)
    (weights : WorkWeights α) (threshold : α) {before after : List (AnalyzerResult α)}
    {failure : AnalyzerResult α} {gap : Gap} (hfailed : failure.isFailed = true)
    (hgaps : failure.gaps = [gap]) (hcritical : gap.severity = .critical)
    (hnodup : ((before ++ after).map (·.analyzerName)).Nodup) :
    OneFailureMore
      (ofResults timestamp projectPath weights threshold (before ++ failure :: after))
      (ofResults timestamp projectPath weights threshold (before ++ after)) := by
  have hscore : (ofResults timestamp projectPath weights threshold
      (before ++ failure :: after)).overallScore =
        (ofResults timestamp projectPath weights threshold (before ++ after)).overallScore := by
    unfold ofResults
    simp [List.filter_append, hfailed]
  constructor
  case overallScore => exact hscore
  case overallScore_failed =>
    intro hall
    rw [hscore]
    have hnone : (before ++ after).filter (fun r => !r.isFailed) = [] := by
      rw [List.filter_eq_nil_iff]
      intro result hmem
      have hentry := hall (result.analyzerName, result)
        ((entries_ofResults_perm timestamp projectPath weights threshold hnodup).mem_iff.mpr
          (List.mem_map.mpr ⟨result, hmem, rfl⟩))
      simp [hentry]
    change Score.mean (((before ++ after).filter fun r => !r.isFailed).map (·.score)) = 0
    rw [hnone]
    rfl
  case failedAnalyzers =>
    change (before ++ failure :: after).countP AnalyzerResult.isFailed =
      (before ++ after).countP AnalyzerResult.isFailed + 1
    rw [List.countP_append, List.countP_append, List.countP_cons_of_pos hfailed]
    omega
  case gapsBySeverity =>
    change Histogram.ofGaps ((before ++ failure :: after).flatMap (·.gaps)) =
      (Histogram.ofGaps ((before ++ after).flatMap (·.gaps))).record .critical
    apply Histogram.ext_count
    intro severity
    rw [Histogram.count_record, Histogram.count_ofGaps, Histogram.count_ofGaps]
    simp only [List.flatMap_append, List.flatMap_cons, hgaps, List.countP_append,
      List.countP_singleton, hcritical, decide_eq_true_eq]
    omega

lemma Report.OneFailureMore.of_withoutTimes {report rest : Report α}
    (h : report.withoutTimes.OneFailureMore rest.withoutTimes) : report.OneFailureMore rest where
  overallScore := h.overallScore
  overallScore_failed := by
    intro hall
    apply h.overallScore_failed
    intro entry hmem
    obtain ⟨original, horiginal, rfl⟩ := List.mem_map.mp hmem
    exact hall original horiginal
  failedAnalyzers := h.failedAnalyzers
  gapsBySeverity := h.gapsBySeverity

namespace Engine

/-- The engine with another outcome for one of its analyzers. -/
def withOutcome (engine : Engine α) (i : Nat) (outcome : Outcome α) : Engine α :=
  { engine with
    analyzers := engine.analyzers.modify i fun analyzer => { analyzer with outcome } }

/-- The engine without one of its analyzers. -/
def without (engine : Engine α) (i : Nat) : Engine α :=
  { engine with analyzers := engine.analyzers.eraseIdx i }

omit [Arithmetic α] in
lemma names_withOutcome (engine : Engine α) (i : Nat) (outcome : Outcome α) :
    (engine.withOutcome i outcome).names = engine.names := by
  apply List.ext_getElem?
  intro j
  unfold names withOutcome
  rw [List.getElem?_map, List.getElem?_map, List.getElem?_modify]
  cases engine.analyzers[j]? with
  | none => rfl
  | some analyzer => by_cases hij : i = j <;> simp [hij]

omit [Arithmetic α] in
lemma nodup_names_without {engine : Engine α} (nodup : engine.names.Nodup) (i : Nat) :
    (engine.without i).names.Nodup :=
  nodup.sublist ((List.eraseIdx_sublist ..).map _)

/-- The entry of an analyzer depends on nothing but its own name and outcome. -/
lemma find?_settled {engine : Engine α} (nodup : engine.names.Nodup) {j : Nat}
    {analyzer : Analyzer α} (h : engine.analyzers[j]? = some analyzer) :
    (engine.settled (engine.analyzers.map (·.outcome))).analyzerResults.find? analyzer.name =
      some (analyzer.entry 0) := by
  have hmem : analyzer.entry 0 ∈ engine.results fun _ => 0 :=
    List.mem_map.mpr ⟨analyzer, List.mem_of_getElem? h, rfl⟩
  have hfound := Report.find?_ofResults ⟨0, 0⟩ engine.projectPath engine.weights
    engine.threshold (by rwa [names_results]) hmem
  rw [Analyzer.analyzerName_entry] at hfound
  rw [settled_outcomes]
  exact hfound

lemma oneFailureMore_settled {engine : Engine α} (nodup : engine.names.Nodup) {i : Nat}
    {analyzer : Analyzer α} (h : engine.analyzers[i]? = some analyzer)
    (hfailure : analyzer.outcome.isFailure) :
    (engine.settled (engine.analyzers.map (·.outcome))).OneFailureMore
      ((engine.without i).settled ((engine.without i).analyzers.map (·.outcome))) := by
  obtain ⟨hi, rfl⟩ := List.getElem?_eq_some_iff.mp h
  have hsplit : engine.analyzers = engine.analyzers.take i ++ engine.analyzers[i] ::
      engine.analyzers.drop (i + 1) := by
    rw [← List.drop_eq_getElem_cons hi, List.take_append_drop]
  let entries := List.map fun analyzer : Analyzer α => analyzer.entry 0
  have hall : engine.results (fun _ => 0) =
      entries (engine.analyzers.take i) ++ engine.analyzers[i].entry 0 ::
        entries (engine.analyzers.drop (i + 1)) := by
    calc engine.results (fun _ => 0)
        = entries (engine.analyzers.take i ++ engine.analyzers[i] ::
            engine.analyzers.drop (i + 1)) := congrArg entries hsplit
      _ = _ := List.map_append
  have hrest : (engine.without i).results (fun _ => 0) =
      entries (engine.analyzers.take i) ++ entries (engine.analyzers.drop (i + 1)) := by
    calc (engine.without i).results (fun _ => 0)
        = entries (engine.analyzers.take i ++ engine.analyzers.drop (i + 1)) :=
          congrArg entries (List.eraseIdx_eq_take_drop_succ ..)
      _ = _ := List.map_append
  have hnodup : (((engine.without i).results fun _ => 0).map (·.analyzerName)).Nodup := by
    rw [names_results]
    exact nodup_names_without nodup i
  obtain ⟨hfailed, gap, hgaps, hcritical⟩ := Finished.result_of_isFailure hfailure 0
    engine.analyzers[i].name
  rw [settled_outcomes, settled_outcomes, hall]
  rw [hrest] at hnodup ⊢
  exact Report.oneFailureMore_ofResults ⟨0, 0⟩ engine.projectPath engine.weights
    engine.threshold hfailed hgaps hcritical hnodup

/-- Whatever the order in which the tasks end and are joined, the run can be brought to its end, and
its report is, times apart, one function of the outcomes in the order of registration. Another
outcome of one analyzer changes no entry but its own, and an analyzer that fails adds one failed
analyzer and one critical gap to the totals of the same engine without it. -/
theorem report_schedule_independent {engine : Engine α} (reachable : engine.Reachable) :
    (∀ tasks, ReflTransGen engine.Step engine.start tasks →
      ∃ finished : List (Finished α),
        ReflTransGen engine.Step tasks (finished.map .joined)) ∧
    ∀ finished, engine.Completes finished → ∀ timestamp,
      (engine.analyzers ≠ [] → ∃ elapsed,
        engine.analyze timestamp elapsed = .ok (engine.report timestamp finished)) ∧
      (engine.report timestamp finished).withoutTimes =
        engine.settled (engine.analyzers.map (·.outcome)) ∧
      (∀ i outcome changed timestamp', (engine.withOutcome i outcome).Completes changed →
        ∀ j analyzer, j ≠ i → engine.analyzers[j]? = some analyzer → ∃ entry,
          (engine.report timestamp finished).withoutTimes.analyzerResults.find?
            analyzer.name = some entry ∧
          ((engine.withOutcome i outcome).report timestamp'
            changed).withoutTimes.analyzerResults.find? analyzer.name = some entry) ∧
      (∀ i analyzer rest timestamp', engine.analyzers[i]? = some analyzer →
        analyzer.outcome.isFailure → (engine.without i).Completes rest →
          (engine.report timestamp finished).OneFailureMore
            ((engine.without i).report timestamp' rest)) := by
  have hnodup := reachable.nodup_names
  refine ⟨fun tasks => exists_completion, ?_⟩
  intro finished hcompletes timestamp
  have hreport := hcompletes.withoutTimes_report timestamp
  refine ⟨fun nonempty => hcompletes.analyze_eq hnodup nonempty timestamp, hreport, ?_, ?_⟩
  · intro i outcome changed timestamp' hchanged j analyzer hji hanalyzer
    have hsame : (engine.withOutcome i outcome).analyzers[j]? = some analyzer := by
      rw [withOutcome, List.getElem?_modify_ne _ _ hji.symm, hanalyzer]
    have hnodup' : (engine.withOutcome i outcome).names.Nodup := by
      rw [names_withOutcome]
      exact hnodup
    rw [hreport, hchanged.withoutTimes_report timestamp']
    exact ⟨analyzer.entry 0, find?_settled hnodup hanalyzer, find?_settled hnodup' hsame⟩
  · intro i analyzer rest timestamp' hanalyzer hfailure hrest
    apply Report.OneFailureMore.of_withoutTimes
    rw [hreport, hrest.withoutTimes_report timestamp']
    exact oneFailureMore_settled hnodup hanalyzer hfailure

/-- A run in which the last analyzer crashes first and the error of the second comes last. -/
lemma mixed_completes :
    mixed.Completes (List.zipWith Finished.mk (mixed.analyzers.map (·.outcome)) [4, 9, 2]) := by
  have hcrash : ReflTransGen mixed.Step mixed.start _ := .single (.finish (i := 2) rfl rfl)
  have hdone := hcrash.tail (.finish (i := 0) rfl rfl)
  have hjoined := (hdone.tail (.join (i := 2) 2 rfl)).tail (.join (i := 0) 4 rfl)
  exact (hjoined.tail (.finish (i := 1) rfl rfl)).tail (.join (i := 1) 9 rfl)

theorem report_schedule_independent_mixed :
    mixed.Reachable ∧ ∃ finished rest, mixed.Completes finished ∧
      (mixed.without 1).Completes rest ∧
      (mixed.report ⟨0, 0⟩ finished).withoutTimes =
        mixed.settled (mixed.analyzers.map (·.outcome)) ∧
      (mixed.report ⟨0, 0⟩ finished).OneFailureMore ((mixed.without 1).report ⟨5, 0⟩ rest) := by
  obtain ⟨rest, hrest⟩ := exists_completion
    (.refl : ReflTransGen (mixed.without 1).Step (mixed.without 1).start _)
  obtain ⟨_, hruns⟩ := report_schedule_independent mixed_reachable
  obtain ⟨_, hreport, _, hfailure⟩ := hruns _ mixed_completes ⟨0, 0⟩
  exact ⟨mixed_reachable, _, rest, mixed_completes, hrest, hreport,
    hfailure 1 _ rest ⟨5, 0⟩ rfl rfl hrest⟩

end Engine

end GapAudit
