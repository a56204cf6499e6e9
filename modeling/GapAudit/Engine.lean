import GapAudit.Report.Recommendations
import GapAudit.Text.Blank
import GapAudit.Text.Quoted

/-!
The engine: a register of analyzers, and the report that their outcomes give. An analyzer that fails
does not stop the others; a result that says so takes its place.
-/

namespace GapAudit

/-- A crash: the message that it left, if any, and the number of the task that crashed, as far as it
is told. -/
structure Crash where
  message : Option String
  task : String := "<id>"
  deriving DecidableEq, Repr

instance : Coe (Option String) Crash := ⟨fun message => { message }⟩

def Crash.text (crash : Crash) : String :=
  match crash.message with
  | some message => s!"task {crash.task} panicked with message {Text.quote message}"
  | none => s!"task {crash.task} panicked"

/-- How the run of an analyzer ended: with a result, with an error whose causes are given from the
outermost to the root, or with a crash. -/
inductive Outcome (α : Type) where
  | done (result : AnalyzerResult α)
  | failed (causes : List String)
  | crashed (crash : Crash)

/-- What is said of an error. -/
def Outcome.failureMessage (causes : List String) : String :=
  ": ".intercalate causes

/-- The end of the run of an analyzer and the time it took, in milliseconds. -/
structure Finished (α : Type) where
  outcome : Outcome α
  elapsed : Nat := 0

/-- The result that counts for the analyzer of a name: its own under that name, or one that stands
in for its failure. -/
def Finished.result {α : Type} [Arithmetic α] (finished : Finished α) (name : String) :
    AnalyzerResult α :=
  let result : AnalyzerResult α :=
    match finished.outcome with
    | .done result => { result with analyzerName := name }
    | .failed causes => .ofFailure name (Outcome.failureMessage causes)
    | .crashed crash => .ofFailure name crash.text
  { result with executionTime := finished.elapsed }

/-- An analyzer: a name and how a run of it ends. -/
structure Analyzer (α : Type) where
  name : String
  outcome : Outcome α

/-- Why an analyzer is not registered, or nothing is analyzed. -/
inductive EngineError where
  | duplicate (name : String)
  | blankName
  | nothingRegistered
  deriving DecidableEq, Repr

def EngineError.message : EngineError → String
  | .duplicate name => s!"analyzer {Text.quote name} is already registered"
  | .blankName => "malformed analyzer: analyzer name must not be empty"
  | .nothingRegistered => "no analyzers registered"

/-- The report on a project that results give, in the order in which their analyzers were
registered. -/
def Report.ofResults {α : Type} [Arithmetic α] (timestamp : Timestamp) (projectPath : String)
    (weights : WorkWeights α) (threshold : α) (results : List (AnalyzerResult α)) : Report α :=
  let overall := Score.mean ((results.filter fun r => !r.isFailed).map (·.score))
  let counts := Histogram.ofGaps (results.flatMap (·.gaps))
  { timestamp
    projectPath
    overallScore := overall
    analyzerResults := .ofEntries (results.map fun r => (r.analyzerName, r))
    summary := {
      totalGaps := counts.total
      gapsBySeverity := counts
      totalAnalyzers := results.length
      failedAnalyzers := results.countP (·.isFailed)
      estimatedWork := (WorkEstimate.ofHistogram counts weights).label }
    recommendations := Recommendations.ofResults results counts overall threshold }

/-- A project with the analyzers registered for it, in order. -/
structure Engine (α : Type) where
  projectPath : String
  weights : WorkWeights α
  threshold : α
  analyzers : List (Analyzer α) := []

namespace Engine

variable {α : Type} [Arithmetic α]

/-- An engine without analyzers and with the usual weights and threshold. -/
def new (projectPath : String) : Engine α where
  projectPath := projectPath
  weights := .standard
  threshold := 80

omit [Arithmetic α] in
def names (engine : Engine α) : List String :=
  engine.analyzers.map (·.name)

omit [Arithmetic α] in
/-- The engine with an analyzer more. Its name must not be blank, and must be new. -/
def register (engine : Engine α) (analyzer : Analyzer α) : Except EngineError (Engine α) :=
  if Text.allBlank analyzer.name.toList then .error .blankName
  else if engine.names.contains analyzer.name then .error (.duplicate analyzer.name)
  else .ok { engine with analyzers := engine.analyzers ++ [analyzer] }

omit [Arithmetic α] in
/-- The engine with analyzers registered one after the other, up to the first that cannot be. -/
def registerAll (engine : Engine α) : List (Analyzer α) → Except EngineError (Engine α)
  | [] => .ok engine
  | analyzer :: rest => do registerAll (← engine.register analyzer) rest

/-- The report when all analyzers have finished, given in the order of registration. -/
def report (engine : Engine α) (timestamp : Timestamp) (finished : List (Finished α)) : Report α :=
  .ofResults timestamp engine.projectPath engine.weights engine.threshold
    (List.zipWith (fun analyzer finished => finished.result analyzer.name) engine.analyzers
      finished)

/-- The report of a run of all analyzers, which takes each the given time. -/
def analyze (engine : Engine α) (timestamp : Timestamp) (elapsed : String → Nat) :
    Except EngineError (Report α) :=
  if engine.analyzers.isEmpty then .error .nothingRegistered
  else
    .ok (engine.report timestamp
      (engine.analyzers.map fun analyzer => ⟨analyzer.outcome, elapsed analyzer.name⟩))

end Engine

end GapAudit
