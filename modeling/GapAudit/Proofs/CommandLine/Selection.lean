import Mathlib
import GapAudit.Proofs.CommandLine.Verdict
import GapAudit.Proofs.Engine.Schedule

/-!
# Which analyzers run

No analyzer reads the list of analyzers in the configuration (`outcome?_enabling`), and those that
are enabled run in an order of their own. So the list decides by its members alone which engine is
built, and times apart what is reported (`engine_enabling`). Names that a run asks for stand in for
the whole list, and a name of no analyzer among them is an error of the configuration
(`selection_exact`).
-/

namespace GapAudit

namespace Project

/-- The project with a list of analyzers to run. -/
def enabling (project : Project) (names : List String) : Project :=
  { project with config := { project.config with analyzers := names } }

lemma outcome?_enabling (project : Project) (names : List String) (name : String) :
    (project.enabling names).outcome? name = project.outcome? name := by
  unfold outcome?
  rfl

variable {project : Project} {names : List String}

lemma isEnabled_enabling (hmembers : ∀ name, name ∈ names ↔ name ∈ project.config.analyzers) :
    (project.enabling names).config.isEnabled = project.config.isEnabled := by
  funext name
  rw [Bool.eq_iff_iff, Config.isEnabled, Config.isEnabled, List.contains_iff_mem,
    List.contains_iff_mem]
  exact hmembers name

lemma analyzers_enabling (hmembers : ∀ name, name ∈ names ↔ name ∈ project.config.analyzers) :
    (project.enabling names).analyzers = project.analyzers := by
  unfold analyzers
  rw [isEnabled_enabling hmembers]
  apply List.filterMap_congr
  intro name _
  rw [outcome?_enabling]

/-- Lists with the same members build the same engine. -/
lemma engine_enabling (hmembers : ∀ name, name ∈ names ↔ name ∈ project.config.analyzers) :
    (project.enabling names).engine = project.engine := by
  rw [engine_eq, engine_eq, analyzers_enabling hmembers]
  rfl

/-- A list of names of analyzers keeps a configuration valid. -/
lemma validate_enabling (hvalid : project.config.validate = .ok ())
    (hnames : names ⊆ analyzerNames) :
    (project.enabling names).config.validate = .ok () := by
  rw [Config.validate_eq_ok_iff] at hvalid ⊢
  intro check
  cases check with
  | analyzers => exact hnames
  | command => exact hvalid .command
  | features => exact hvalid .features
  | patterns => exact hvalid .patterns
  | threshold => exact hvalid .threshold

lemma names_of_engine {engine : Engine Float} (h : project.engine = .ok engine) :
    engine.names = analyzerNames.filter (· ∈ project.config.analyzers) := by
  rw [engine_eq] at h
  obtain rfl := Except.ok.inj h
  rw [Engine.names, names_analyzers]
  apply List.filter_congr
  intro name _
  rw [Config.isEnabled, List.contains_eq_mem]

/-- Times apart, a report does not depend on the session. -/
lemma withoutTimes_report (project : Project) (session other : Session) :
    (project.report session).map Report.withoutTimes =
      (project.report other).map Report.withoutTimes := by
  rw [report_eq, report_eq]
  by_cases hnone : project.analyzers = []
  · rw [if_pos hnone, if_pos hnone]
  · rw [if_neg hnone, if_neg hnone]
    simp only [Except.map, Report.withoutTimes_ofResults, List.map_map]
    rfl

lemma report_eq_error_iff (hvalid : project.config.analyzers ⊆ analyzerNames) (session : Session) :
    project.report session = .error .nothingRegistered ↔ project.config.analyzers = [] := by
  rw [report_eq]
  constructor
  · intro herror
    by_contra hsome
    rw [if_neg (analyzers_ne_nil hvalid hsome)] at herror
    cases herror
  · intro hempty
    have hnone : project.analyzers = [] := by
      rw [← List.map_eq_nil_iff (f := (·.name)), names_analyzers]
      unfold Config.isEnabled
      rw [hempty]
      rfl
    rw [if_pos hnone]

/-- What the list of analyzers of a project decides: the names of the engine that is built for it,
in an order that is not that of the list, and whether anything is reported. -/
structure FollowsList (project : Project) : Prop where
  builds : ∃ engine, project.engine = .ok engine ∧
    engine.names = analyzerNames.filter (· ∈ project.config.analyzers)
  members : ∀ names, (∀ name, name ∈ names ↔ name ∈ project.config.analyzers) →
    (project.enabling names).config.validate = .ok () ∧
      (project.enabling names).engine = project.engine ∧
      ∀ session other, ((project.enabling names).report other).map Report.withoutTimes =
        (project.report session).map Report.withoutTimes
  nothing_iff : ∀ session,
    project.report session = .error .nothingRegistered ↔ project.config.analyzers = []
  something : project.config.analyzers ≠ [] → ∀ session, ∃ report,
    project.report session = .ok report
  fails : project.config.analyzers = [] → ∀ (request : VerifyRequest) session,
    request.project session = .ok project →
      request.run session = { ending := .failed "no analyzers registered", tree := session.tree }

lemma followsList (hvalid : project.config.validate = .ok ()) : project.FollowsList := by
  have hknown := Config.subset_of_validate hvalid
  constructor
  case builds => exact ⟨_, project.engine_eq, names_of_engine project.engine_eq⟩
  case members =>
    intro names hmembers
    refine ⟨validate_enabling hvalid fun name hname => hknown ((hmembers name).mp hname),
      engine_enabling hmembers, ?_⟩
    intro session other
    rw [withoutTimes_report project session other]
    unfold report
    rw [engine_enabling hmembers]
  case nothing_iff => exact report_eq_error_iff hknown
  case something =>
    intro hsome session
    rw [report_eq, if_neg (analyzers_ne_nil hknown hsome)]
    exact ⟨_, rfl⟩
  case fails =>
    intro hempty request session hproject
    have herror : (project.engine >>= fun engine =>
        engine.analyze session.now session.elapsed) = .error .nothingRegistered :=
      (report_eq_error_iff hknown session).mpr hempty
    delta VerifyRequest.run
    simp only [hproject, herror]
    rfl

end Project

/-- The names that a run asks for, without the blanks around them. -/
def Overrides.names (overrides : Overrides) : List String :=
  overrides.analyzers.map fun name => String.ofList (Text.trim name.toList)

namespace Config

variable {overrides : Overrides}

lemma analyzers_override (hsome : overrides.analyzers ≠ []) (config : Config) :
    (config.override overrides).analyzers = overrides.names := by
  have hsome' : ¬overrides.analyzers.isEmpty := by rwa [List.isEmpty_iff]
  rw [override]
  simp only [if_neg hsome']
  rfl

/-- Nothing is left of the configured list. -/
lemma override_analyzers (hsome : overrides.analyzers ≠ []) (config : Config)
    (names : List String) :
    ({ config with analyzers := names } : Config).override overrides =
      config.override overrides := by
  have hsome' : ¬overrides.analyzers.isEmpty := by rwa [List.isEmpty_iff]
  unfold override
  simp only [if_neg hsome']

/-- The first name of no analyzer is what a configuration is refused for before all else. -/
lemma validate_of_unknown (config : Config) (h : ∃ name ∈ config.analyzers, name ∉ analyzerNames) :
    ∃ before name after, config.analyzers = before ++ name :: after ∧
      (∀ earlier ∈ before, earlier ∈ analyzerNames) ∧ name ∉ analyzerNames ∧
        config.validate = .error (.unknownAnalyzer name) := by
  cases hrun : Check.run config .analyzers with
  | ok =>
    obtain ⟨name, hname, hunknown⟩ := h
    exact absurd ((Check.run_eq_ok_iff .analyzers).mp hrun name hname) hunknown
  | error e =>
    have hvalidate : config.validate = .error e := by
      have hcomplaint : checkComplaint? config .analyzers = some e := by
        rw [checkComplaint?, hrun]
      rw [validate_eq, Check.all, firstComplaint, hcomplaint]
    cases (Check.run_eq_error_iff .analyzers e).mp hrun with
    | unknownAnalyzer hsplit hknown hunknown =>
      exact ⟨_, _, _, hsplit, hknown, hunknown, hvalidate⟩

end Config

namespace VerifyRequest

variable {request : VerifyRequest} {session : Session}

/-- What a run does with the names of the analyzers that it asks for: they are the whole list of
the project, and one of no analyzer is an error of the configuration. -/
structure ReplacesList (request : VerifyRequest) (session : Session) : Prop where
  replaced : ∀ (config : Config) (names : List String),
    ({ config with analyzers := names } : Config).override request.overrides =
      config.override request.overrides
  names : ∀ project, request.project session = .ok project →
    project.config.analyzers = request.overrides.names
  refused : ∀ name ∈ request.overrides.analyzers,
    Text.trim name.toList = [] ∨ String.ofList (Text.trim name.toList) ∉ analyzerNames →
      ∀ place, session.tree.resolve (session.path request.path) = .ok place →
        session.tree.holdsFolder place = true →
          ∃ reason, request.project session = .error (.configuration reason) ∧
            request.run session =
              session.refuse [s!"Error: invalid configuration: {reason.message}"] ∧
            ∀ config, Config.load session.tree session.here ("/" ++ "/".intercalate place)
                request.overrides.configFile = .ok config →
              ∃ before first after, request.overrides.names = before ++ first :: after ∧
                (∀ earlier ∈ before, earlier ∈ analyzerNames) ∧ first ∉ analyzerNames ∧
                reason = .invalid (.unknownAnalyzer first)

lemma names_of_project (hsome : request.overrides.analyzers ≠ []) {project : Project}
    (hproject : request.project session = .ok project) :
    project.config.analyzers = request.overrides.names := by
  rcases request.project_cases session with ⟨-, e, herror⟩ | ⟨place, config, -, -, -, -, hok⟩
  · rw [herror] at hproject
    cases hproject
  · rw [hok] at hproject
    obtain rfl := Except.ok.inj hproject
    exact Config.analyzers_override hsome config

/-- In a folder, the configuration is all that can be wrong. -/
lemma project_eq_resolve {place : List String}
    (hplace : session.tree.resolve (session.path request.path) = .ok place)
    (hfolder : session.tree.holdsFolder place = true) :
    request.project session =
      ((Config.resolve session.tree session.here ("/" ++ "/".intercalate place)
        request.overrides).mapError .configuration).map fun config =>
          ⟨session.tree, "/" ++ "/".intercalate place, config, session.tools⟩ := by
  unfold VerifyRequest.project
  simp only [hplace, hfolder, Except.mapError, bind, Except.bind, Except.map]
  cases Config.resolve session.tree session.here ("/" ++ "/".intercalate place)
    request.overrides <;> rfl

lemma refused_of_unknown {name : String} (hname : name ∈ request.overrides.analyzers)
    (hunknown : String.ofList (Text.trim name.toList) ∉ analyzerNames) {place : List String}
    (hplace : session.tree.resolve (session.path request.path) = .ok place)
    (hfolder : session.tree.holdsFolder place = true) :
    ∃ reason, request.project session = .error (.configuration reason) ∧
      ∀ config, Config.load session.tree session.here ("/" ++ "/".intercalate place)
          request.overrides.configFile = .ok config →
        ∃ before first after, request.overrides.names = before ++ first :: after ∧
          (∀ earlier ∈ before, earlier ∈ analyzerNames) ∧ first ∉ analyzerNames ∧
          reason = .invalid (.unknownAnalyzer first) := by
  rw [project_eq_resolve hplace hfolder, Config.resolve]
  cases hload : Config.load session.tree session.here ("/" ++ "/".intercalate place)
      request.overrides.configFile with
  | error e =>
    refine ⟨.load e, rfl, ?_⟩
    intro config hconfig
    cases hconfig
  | ok config =>
    have hsome : request.overrides.analyzers ≠ [] := List.ne_nil_of_mem hname
    obtain ⟨before, first, after, hsplit, hknown, hfirst, hvalidate⟩ :=
      (config.override request.overrides).validate_of_unknown
        ⟨_, config.mem_analyzers_override hname, hunknown⟩
    rw [Config.analyzers_override hsome] at hsplit
    refine ⟨.invalid (.unknownAnalyzer first), ?_, ?_⟩
    · simp only [Except.mapError, bind, Except.bind, hvalidate]
      rfl
    · intro _ _
      exact ⟨before, first, after, hsplit, hknown, hfirst, rfl⟩

lemma replacesList (hsome : request.overrides.analyzers ≠ []) : request.ReplacesList session := by
  constructor
  case replaced => exact Config.override_analyzers hsome
  case names => exact fun _ => names_of_project hsome
  case refused =>
    intro name hname hbad place hplace hfolder
    have hunknown : String.ofList (Text.trim name.toList) ∉ analyzerNames := by
      rcases hbad with hblank | hunknown
      · rw [hblank]
        decide
      · exact hunknown
    obtain ⟨reason, hproject, hreason⟩ := refused_of_unknown hname hunknown hplace hfolder
    refine ⟨reason, hproject, ?_, hreason⟩
    delta run
    rw [hproject]
    rfl

end VerifyRequest

/-- A valid configuration always builds an engine, with the enabled analyzers in their own order,
and of its list of analyzers nothing but the members counts. The names that a run asks for replace
the list. -/
theorem Project.selection_exact {project : Project} (hvalid : project.config.validate = .ok ()) :
    project.FollowsList ∧ ∀ (request : VerifyRequest) (session : Session),
      request.overrides.analyzers ≠ [] → request.ReplacesList session :=
  ⟨followsList hvalid, fun _ _ hsome => VerifyRequest.replacesList hsome⟩

/-- A project whose list of analyzers has repetitions and is in no order. -/
def Project.untidy : Project where
  tree := VerifyRequest.emptyProject.tree
  root := "/app"
  config := { analyzers := ["quality", "components", "quality"] }

/-- The request to run an analyzer, one without a name, and one that does not exist. -/
def VerifyRequest.halfBlank : VerifyRequest where
  overrides := { analyzers := [" quality", " ", "linting"] }

theorem Project.selection_exact_untidy :
    untidy.config.validate = .ok () ∧
    (∃ engine, untidy.engine = .ok engine ∧ engine.names = ["components", "quality"]) ∧
    (∀ session other,
      ((untidy.enabling ["components", "quality"]).report other).map Report.withoutTimes =
        (untidy.report session).map Report.withoutTimes) ∧
    VerifyRequest.halfBlank.overrides.analyzers ≠ [] ∧
    VerifyRequest.halfBlank.project VerifyRequest.emptyProject =
      .error (.configuration (.invalid (.unknownAnalyzer ""))) := by
  have hvalid : untidy.config.validate = .ok () := rfl
  have hsome : VerifyRequest.halfBlank.overrides.analyzers ≠ [] := by decide
  obtain ⟨hfollows, hverify⟩ := selection_exact hvalid
  refine ⟨hvalid, hfollows.builds, ?_, hsome, ?_⟩
  · have hmembers : ∀ name, name ∈ ["components", "quality"] ↔
        name ∈ untidy.config.analyzers := by
      intro name
      simp only [untidy, List.mem_cons, List.not_mem_nil, or_false]
      tauto
    exact (hfollows.members _ hmembers).2.2
  · obtain ⟨reason, hproject, -, hreason⟩ :=
      (hverify VerifyRequest.halfBlank VerifyRequest.emptyProject hsome).refused " " (by decide)
        (.inl (by decide)) ["app"] (by decide +kernel) (by decide +kernel)
    obtain ⟨before, first, after, hsplit, hknown, hunknown, rfl⟩ := hreason {} rfl
    have hnames : ["quality", "", "linting"] = before ++ first :: after := hsplit
    rw [hproject]
    -- the first name is known, and the second is not
    match before with
    | [] =>
      obtain ⟨rfl, -⟩ := List.cons.inj hnames
      exact absurd (by decide) hunknown
    | [_] =>
      obtain ⟨-, hrest⟩ := List.cons.inj hnames
      obtain ⟨rfl, -⟩ := List.cons.inj hrest
      rfl
    | _ :: second :: _ =>
      obtain ⟨-, hrest⟩ := List.cons.inj hnames
      obtain ⟨rfl, -⟩ := List.cons.inj hrest
      exact absurd (hknown "" (by simp)) (by decide)

end GapAudit
