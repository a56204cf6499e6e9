import Mathlib
import GapAudit.CommandLine.Verify
import GapAudit.Proofs.Config.Validation
import GapAudit.Proofs.Engine.Registry

/-!
# The verdict of a run

A request to verify a project is refused before anything is shown or written, or its report gives a
verdict. The verdict is told in several places: by the exit status, by the headline and by the last
line of the summary for a terminal, and by the last recommendation. They are compared with the
threshold one by one, and they agree (`run_verdicts`).
-/

namespace GapAudit

open Ink Terminal

namespace Project

lemma outcome?_isSome (project : Project) {name : String} (hname : name ∈ analyzerNames) :
    (project.outcome? name).isSome := by
  simp only [analyzerNames, List.mem_cons, List.not_mem_nil, or_false] at hname
  rcases hname with rfl | rfl | rfl | rfl | rfl
  case inr.inr.inr.inr =>
    unfold outcome?
    cases Dependencies.analyze project <;> rfl
  all_goals rfl

/-- Every enabled analyzer runs, under its name. -/
lemma names_analyzers (project : Project) :
    project.analyzers.map (·.name) = analyzerNames.filter project.config.isEnabled := by
  have hname : ∀ name ∈ analyzerNames.filter project.config.isEnabled,
      ((project.outcome? name).map fun outcome => (⟨name, outcome⟩ : Analyzer Float)).map (·.name) =
        some name := by
    intro name hmem
    obtain ⟨outcome, houtcome⟩ := Option.isSome_iff_exists.mp
      (project.outcome?_isSome (List.mem_of_mem_filter hmem))
    rw [houtcome]
    rfl
  rw [analyzers, List.map_filterMap, List.filterMap_congr hname, List.filterMap_some]

/-- The engine for a project has all enabled analyzers, and the threshold of the configuration. -/
lemma engine_eq (project : Project) :
    project.engine = .ok {
      projectPath := project.root
      weights := project.config.scoring.workWeights
      threshold := project.config.scoring.readinessThreshold
      analyzers := project.analyzers } := by
  rw [engine, Engine.registerAll_eq_ok]
  · rfl
  · rw [Engine.names, List.map_nil, List.nil_append, names_analyzers]
    exact List.Nodup.filter _ (by decide)
  · intro analyzer hmem
    have hname : analyzer.name ∈ analyzerNames.filter project.config.isEnabled := by
      rw [← names_analyzers]
      exact List.mem_map_of_mem hmem
    have hall : ∀ name ∈ analyzerNames, Text.trim name.toList ≠ [] := by decide +kernel
    exact hall _ (List.mem_of_mem_filter hname)

def report (project : Project) (session : Session) : Except EngineError (Report Float) :=
  project.engine >>= fun engine => engine.analyze session.now session.elapsed

/-- The report that the results of all enabled analyzers give with the threshold of the
configuration, if any analyzer is enabled. -/
lemma report_eq (project : Project) (session : Session) :
    project.report session =
      if project.analyzers = [] then .error .nothingRegistered
      else .ok (Report.ofResults session.now project.root project.config.scoring.workWeights
        project.config.scoring.readinessThreshold
        (project.analyzers.map fun analyzer =>
          analyzer.entry (session.elapsed analyzer.name))) := by
  rw [report, engine_eq]
  by_cases hnone : project.analyzers = []
  · rw [if_pos hnone]
    exact (Engine.analyze_eq_error_iff _ _ _).mpr hnone
  · rw [if_neg hnone]
    exact Engine.analyze_eq_ofResults hnone session.now session.elapsed

/-- A valid configuration leaves no analyzer enabled only if it asks for none. -/
lemma analyzers_ne_nil {project : Project} (hvalid : project.config.analyzers ⊆ analyzerNames)
    (hsome : project.config.analyzers ≠ []) : project.analyzers ≠ [] := by
  obtain ⟨name, hname⟩ := List.exists_mem_of_ne_nil _ hsome
  have henabled : name ∈ analyzerNames.filter project.config.isEnabled :=
    List.mem_filter.mpr ⟨hvalid hname, List.contains_iff_mem.mpr hname⟩
  intro hnone
  rw [← names_analyzers, hnone] at henabled
  cases henabled

/-- The closing recommendation compares the overall score with the threshold of the
configuration. -/
lemma getLast?_recommendations {project : Project} {session : Session} {report : Report Float}
    (h : project.report session = .ok report) :
    report.recommendations.getLast? = some (Recommendations.closingLine report.overallScore
      project.config.scoring.readinessThreshold) := by
  rw [report_eq] at h
  by_cases hnone : project.analyzers = []
  · rw [if_pos hnone] at h
    cases h
  · rw [if_neg hnone] at h
    obtain rfl := Except.ok.inj h
    exact List.getLast?_concat

end Project

namespace Report

variable {α : Type} [Arithmetic α]

/-- The lines above the headline of a summary. -/
def preface (report : Report α) (color : Bool) : List String :=
  ["", s!"  {paint color [.bold, .cyan] programName} v{programVersion}", "",
    "  " ++ paint color [.dimmed] "Project: " ++ report.projectPath, ""]

/-- The headline of a summary, with the words of a verdict. -/
def headline (report : Report α) (color : Bool) (words : String) : String :=
  let score := report.overallScore
  let label := paint color [.bold] (Score.label score)
  s!"  {words}  Completion: {scoreText color score}  {label}"

/-- The lines between the headline of a summary and its last line. -/
def details (report : Report α) (color : Bool) : List String :=
  ["", "  " ++ paint color [.bold] "Analyzers:"] ++
    (report.analyzerResults.entries.map fun (name, result) => analyzerLine color name result) ++
    [""] ++ issueLines color report.summary.totalGaps report.groups ++
    ["  " ++ paint color [.bold] "Recommendations:"] ++
    report.recommendations.map ("    " ++ ·) ++ [""]

/-- The last line of a summary, with the words of a verdict. -/
def footer (report : Report α) (threshold : α) (color : Bool) (words : String) : String :=
  "  " ++ paint color [.dimmed] s!"Threshold: {Arithmetic.text 0 threshold}" ++
    s!"  Estimated work: {report.summary.estimatedWork}  " ++ words

/-- A summary has two lines that depend on the verdict, its headline and its last line. -/
lemma terminalLines_eq (report : Report α) (threshold : α) (color : Bool) :
    report.terminalLines threshold color =
      report.preface color ++
        [report.headline color
          (verdictText color (report.passes threshold) "✓ PASS" "✗ FAIL")] ++
        report.details color ++
        [report.footer threshold color
          (verdictText color (report.passes threshold) "PASSED" "FAILED")] := by
  simp only [terminalLines, preface, headline, details, footer, List.append_assoc,
    List.cons_append, List.nil_append]

end Report

/-- A run that ended with status 2 before it showed or wrote anything. -/
structure Session.Refused (session : Session) (transcript : Transcript) : Prop where
  ending : transcript.ending = .status 2
  output : transcript.output = ""
  tree : transcript.tree = session.tree

namespace VerifyRequest

/-- Why a request is refused. -/
inductive Refusable (request : VerifyRequest) (session : Session) : Prop where
  | inaccessible (e : AccessError) :
      session.tree.resolve (session.path request.path) = .error e → Refusable request session
  | notFolder (place : List String) :
      session.tree.resolve (session.path request.path) = .ok place →
      session.tree.holdsFolder place = false → Refusable request session
  | notLoaded (place : List String) (e : Config.LoadError) :
      session.tree.resolve (session.path request.path) = .ok place →
      Config.load session.tree session.here ("/" ++ "/".intercalate place)
        request.overrides.configFile = .error e → Refusable request session
  | invalid (place : List String) (config : Config) (e : ConfigError) :
      session.tree.resolve (session.path request.path) = .ok place →
      Config.load session.tree session.here ("/" ++ "/".intercalate place)
        request.overrides.configFile = .ok config →
      (config.override request.overrides).validate = .error e → Refusable request session
  | unknownAnalyzer (name : String) :
      name ∈ request.overrides.analyzers →
      String.ofList (Text.trim name.toList) ∉ analyzerNames → Refusable request session

end VerifyRequest

/-- Only names of analyzers pass the check of a configuration. -/
lemma Config.subset_of_validate {config : Config} (h : config.validate = .ok ()) :
    config.analyzers ⊆ analyzerNames := by
  have hpasses : Config.Check.Passes config .analyzers := config.validate_eq_ok_iff.mp h _
  exact hpasses

/-- The names that a run asks for replace those of the configuration. -/
lemma Config.mem_analyzers_override (config : Config) {overrides : Overrides} {name : String}
    (hname : name ∈ overrides.analyzers) :
    String.ofList (Text.trim name.toList) ∈ (config.override overrides).analyzers := by
  have hsome : ¬overrides.analyzers.isEmpty := by
    rw [List.isEmpty_iff]
    exact List.ne_nil_of_mem hname
  rw [override]
  simp only [if_neg hsome]
  exact List.mem_map_of_mem hname

namespace VerifyRequest

variable {request : VerifyRequest} {session : Session}

/-- A request is refused for one of the reasons, or there is a folder with a valid configuration. -/
lemma project_cases (request : VerifyRequest) (session : Session) :
    (request.Refusable session ∧ ∃ e, request.project session = .error e) ∨
      ∃ place config, session.tree.resolve (session.path request.path) = .ok place ∧
        session.tree.holdsFolder place = true ∧
        Config.load session.tree session.here ("/" ++ "/".intercalate place)
          request.overrides.configFile = .ok config ∧
        (config.override request.overrides).validate = .ok () ∧
        request.project session = .ok ⟨session.tree, "/" ++ "/".intercalate place,
          config.override request.overrides, session.tools⟩ := by
  unfold VerifyRequest.project
  cases hplace : session.tree.resolve (session.path request.path) with
  | error e => exact .inl ⟨.inaccessible e hplace, _, rfl⟩
  | ok place =>
    cases hfolder : session.tree.holdsFolder place with
    | false =>
      refine .inl ⟨.notFolder place hplace hfolder, .notFolder ("/" ++ "/".intercalate place), ?_⟩
      simp only [Except.mapError, bind, Except.bind, hfolder]
      rfl
    | true =>
      simp only [Except.mapError, bind, Except.bind, hfolder, Config.resolve]
      cases hload : Config.load session.tree session.here ("/" ++ "/".intercalate place)
          request.overrides.configFile with
      | error e => exact .inl ⟨.notLoaded place e hplace hload, _, rfl⟩
      | ok config =>
        cases hvalid : (config.override request.overrides).validate with
        | error e =>
          refine .inl ⟨.invalid place config e hplace hload hvalid,
            .configuration (.invalid e), ?_⟩
          simp only [hvalid]
          rfl
        | ok =>
          refine .inr ⟨place, config, rfl, hfolder, hload, hvalid, ?_⟩
          simp only [hvalid]
          rfl

lemma project_eq_error (h : request.Refusable session) :
    ∃ e, request.project session = .error e := by
  rcases request.project_cases session with ⟨-, herror⟩ |
    ⟨place, config, hplace, hfolder, hload, hvalid, -⟩
  · exact herror
  · exfalso
    cases h with
    | inaccessible e herror =>
      rw [hplace] at herror
      cases herror
    | notFolder other hother hnone =>
      obtain rfl := Except.ok.inj (hplace.symm.trans hother)
      rw [hfolder] at hnone
      cases hnone
    | notLoaded other e hother herror =>
      obtain rfl := Except.ok.inj (hplace.symm.trans hother)
      rw [hload] at herror
      cases herror
    | invalid other loaded e hother hloaded herror =>
      obtain rfl := Except.ok.inj (hplace.symm.trans hother)
      obtain rfl := Except.ok.inj (hload.symm.trans hloaded)
      rw [hvalid] at herror
      cases herror
    | unknownAnalyzer name hname hunknown =>
      exact hunknown (Config.subset_of_validate hvalid (config.mem_analyzers_override hname))

lemma run_refused (h : request.Refusable session) : session.Refused (request.run session) := by
  obtain ⟨e, herror⟩ := project_eq_error h
  have hrun : request.run session = session.refuse [s!"Error: {e.message}"] := by
    delta run
    rw [herror]
  rw [hrun]
  exact ⟨rfl, rfl, rfl⟩

/-! ### Requests that come to a verdict -/

/-- The folder for the report, if one is given, takes it. -/
def IsKept (request : VerifyRequest) (session : Session) (report : Report Float) : Prop :=
  ∀ folder, request.outputFolder = some folder →
    ∃ paths, (report.keep session.here folder session.tree).2 = .ok paths

/-- What may follow a report: nothing, or the place where it is kept. -/
def IsKeepNote (note : String) : Prop :=
  note = "" ∨ ∃ path : String, note = s!"  Reports written to {path}\n"

lemma isKeepNote_showPaths (format : ReportFormat) (paths : OutputPaths) :
    IsKeepNote (format.showPaths paths) := by
  cases format with
  | terminal => exact .inr ⟨paths.latestMarkdown, rfl⟩
  | json => exact .inl rfl
  | markdown => exact .inl rfl

/-- The verdict of a run on a report, as it is told by the exit status, by the two lines of the
summary for a terminal, and by the last recommendation. -/
structure Concludes (request : VerifyRequest) (session : Session) (project : Project)
    (report : Report Float) (transcript : Transcript) : Prop where
  ending :
    let threshold := request.threshold.getD project.config.scoring.readinessThreshold
    transcript.ending = .status (if threshold ≤ report.overallScore then 0 else 1)
  terminal : request.format = .terminal →
    let threshold := request.threshold.getD project.config.scoring.readinessThreshold
    let color := session.color
    let verdict (good bad : String) : String :=
      if transcript.ending = .status 0 then paint color [.green] good else paint color [.red] bad
    ∃ note, IsKeepNote note ∧
      transcript.output = Text.ofLines (report.preface color ++
        [report.headline color (verdict "✓ PASS" "✗ FAIL")] ++ report.details color ++
        [report.footer threshold color (verdict "PASSED" "FAILED")]) ++ note
  recommendation : request.threshold = none →
    let score := Arithmetic.text 1 report.overallScore
    let threshold := Arithmetic.text 0 project.config.scoring.readinessThreshold
    report.recommendations.getLast? = some (
      if transcript.ending = .status 0 then
        s!"Overall completion is {score}%, above the {threshold}% readiness " ++
          "threshold; polish the remaining gaps"
      else
        s!"Overall completion is {score}%, below the {threshold}% readiness " ++
          "threshold; focus on critical and high severity gaps first")

/-- A run whose report is kept if that is asked for shows it and ends with the status of its
verdict. -/
lemma run_of_report {project : Project} {report : Report Float}
    (hproject : request.project session = .ok project)
    (hreport : project.report session = .ok report) (hkept : request.IsKept session report) :
    ∃ note, IsKeepNote note ∧
      (request.run session).ending = .status (status report (request.thresholdFor project)) ∧
      (request.run session).output =
        request.format.show report (request.thresholdFor project) session.color ++ note := by
  have hrun : request.run session =
      request.present session report (request.thresholdFor project) := by
    have hanalyze : (project.engine >>= fun engine =>
        engine.analyze session.now session.elapsed) = .ok report := hreport
    delta run
    simp only [hproject, hanalyze]
  rw [hrun, present]
  cases hfolder : request.outputFolder with
  | none =>
    refine ⟨"", .inl rfl, rfl, ?_⟩
    rw [String.append_empty]
  | some folder =>
    obtain ⟨paths, hpaths⟩ := hkept folder hfolder
    obtain ⟨tree, hkeep⟩ : ∃ tree,
        report.keep session.here folder session.tree = (tree, .ok paths) :=
      ⟨(report.keep session.here folder session.tree).1, Prod.ext rfl hpaths⟩
    refine ⟨request.format.showPaths paths, isKeepNote_showPaths _ _, ?_⟩
    simp only [hkeep, and_self]

lemma concludes_run {project : Project} {report : Report Float}
    (hproject : request.project session = .ok project)
    (hreport : project.report session = .ok report) (hkept : request.IsKept session report) :
    request.Concludes session project report (request.run session) := by
  obtain ⟨note, hnote, hending, houtput⟩ := run_of_report hproject hreport hkept
  have hzero : (request.run session).ending = .status 0 ↔
      report.passes (request.thresholdFor project) := by
    rw [hending, status]
    cases report.passes (request.thresholdFor project) <;> simp
  constructor
  case ending =>
    rw [hending, status]
    simp only [Report.passes, Arithmetic.le, decide_eq_true_eq]
    rfl
  case terminal =>
    intro hterminal threshold color verdict
    have hverdict (good bad : String) :
        verdict good bad = verdictText color (report.passes threshold) good bad :=
      if_congr hzero rfl rfl
    refine ⟨note, hnote, ?_⟩
    rw [houtput, hterminal, hverdict, hverdict, ← Report.terminalLines_eq]
    rfl
  case recommendation =>
    intro hnone score threshold
    have hthreshold :
        request.thresholdFor project = project.config.scoring.readinessThreshold := by
      rw [thresholdFor, hnone, Option.getD_none]
    rw [Project.getLast?_recommendations hreport]
    rw [hthreshold] at hzero
    exact congrArg some (if_congr hzero rfl rfl).symm

/-- What a run does with a request in any session. -/
structure Verdicts (request : VerifyRequest) (session : Session) : Prop where
  refused : request.Refusable session → session.Refused (request.run session)
  accepted : ¬request.Refusable session → ∃ project, request.project session = .ok project ∧
    (project.config.analyzers ≠ [] → ∃ report, project.report session = .ok report)
  concludes : ∀ project report, request.project session = .ok project →
    project.report session = .ok report → request.IsKept session report →
    request.Concludes session project report (request.run session)

/-- A run is refused with status 2 and without a trace, or all places that tell its verdict
agree. -/
theorem run_verdicts (request : VerifyRequest) (session : Session) : request.Verdicts session where
  refused := run_refused
  accepted hunrefused := by
    rcases request.project_cases session with ⟨hrefusable, -⟩ |
      ⟨place, config, -, -, -, hvalid, hproject⟩
    · exact absurd hrefusable hunrefused
    · refine ⟨_, hproject, fun hsome => ?_⟩
      rw [Project.report_eq,
        if_neg (Project.analyzers_ne_nil (Config.subset_of_validate hvalid) hsome)]
      exact ⟨_, rfl⟩
  concludes _ _ := concludes_run

/-- Whether a request comes to a verdict can be found out by running it. -/
lemma exists_kept_report {folder : String} (hfolder : request.outputFolder = some folder)
    (h : ((request.project session).toOption.bind fun project =>
      (project.report session).toOption.bind fun report =>
        (report.keep session.here folder session.tree).2.toOption).isSome) :
    ∃ project report, request.project session = .ok project ∧
      project.report session = .ok report ∧ request.IsKept session report := by
  cases hproject : request.project session with
  | error e =>
    rw [hproject] at h
    cases h
  | ok project =>
    simp only [hproject, Except.toOption, Option.bind_some] at h
    cases hreport : project.report session with
    | error e =>
      rw [hreport] at h
      cases h
    | ok report =>
      simp only [hreport, Option.bind_some] at h
      refine ⟨project, report, rfl, hreport, ?_⟩
      intro other hother
      obtain rfl := Option.some.inj (hfolder.symm.trans hother)
      cases hpaths : (report.keep session.here folder session.tree).2 with
      | error e =>
        rw [hpaths] at h
        cases h
      | ok paths => exact ⟨paths, rfl⟩

/-- A session in which the project is an empty folder. -/
def emptyProject : Session where
  tree := .folder [("app", .folder [])]
  here := "/app"
  now := ⟨0, 0⟩

/-- The request to check the features of a project and to keep the report. -/
def featuresOnly : VerifyRequest where
  overrides := { analyzers := ["features"] }
  outputFolder := some "out"

/-- The request to run an analyzer that does not exist. -/
def nonsense : VerifyRequest where
  overrides := { analyzers := ["nonsense"] }
  outputFolder := some "out"

theorem run_verdicts_emptyProject :
    (∃ project report, featuresOnly.project emptyProject = .ok project ∧
      project.report emptyProject = .ok report ∧ featuresOnly.IsKept emptyProject report ∧
      featuresOnly.Concludes emptyProject project report (featuresOnly.run emptyProject)) ∧
    nonsense.Refusable emptyProject ∧ emptyProject.Refused (nonsense.run emptyProject) := by
  obtain ⟨project, report, hproject, hreport, hkept⟩ : ∃ project report,
      featuresOnly.project emptyProject = .ok project ∧
        project.report emptyProject = .ok report ∧ featuresOnly.IsKept emptyProject report :=
    exists_kept_report rfl (by decide +kernel)
  have hnonsense : nonsense.Refusable emptyProject :=
    .unknownAnalyzer "nonsense" List.mem_cons_self (by decide +kernel)
  exact ⟨⟨project, report, hproject, hreport, hkept,
      (run_verdicts featuresOnly emptyProject).concludes project report hproject hreport hkept⟩,
    hnonsense, (run_verdicts nonsense emptyProject).refused hnonsense⟩

end VerifyRequest

end GapAudit
