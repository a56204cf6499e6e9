import GapAudit.Analyzers
import GapAudit.CommandLine.Request
import GapAudit.CommandLine.Session
import GapAudit.Report.Outputs
import GapAudit.Report.Terminal

/-!
Verifying a project: its report is shown, and kept if that is asked for, and the exit status tells
whether it reaches the threshold.
-/

namespace GapAudit

/-- Why there is no project to verify. -/
inductive ProjectError where
  | inaccessible (path : String) (reason : AccessError)
  | notFolder (root : String)
  | configuration (reason : ResolutionError)

def ProjectError.message : ProjectError → String
  | .inaccessible path reason => s!"cannot access path {Text.quote path}: {reason.message}"
  | .notFolder root => s!"{root} is not a directory"
  | .configuration reason => s!"invalid configuration: {reason.message}"

/-- The report as it is shown, with the verdict on a threshold in the form for a terminal. -/
def ReportFormat.show (format : ReportFormat) (report : Report Float) (threshold : Float)
    (color : Bool) : String :=
  match format with
  | .json => report.text ++ "\n"
  | .markdown => report.markdown
  | .terminal => report.terminalText threshold color

/-- What is shown of the files that keep a report. -/
def ReportFormat.showPaths (format : ReportFormat) (paths : OutputPaths) : String :=
  match format with
  | .terminal => s!"  Reports written to {paths.latestMarkdown}\n"
  | _ => ""

namespace VerifyRequest

/-- The project of a request, under the absolute path of its root without links. -/
def project (request : VerifyRequest) (session : Session) : Except ProjectError Project := do
  let place ← (session.tree.resolve (session.path request.path)).mapError
    (.inaccessible request.path)
  let root := "/" ++ "/".intercalate place
  if !session.tree.holdsFolder place then throw (.notFolder root)
  let config ← (Config.resolve session.tree session.here root request.overrides).mapError
    .configuration
  return ⟨session.tree, root, config, session.tools⟩

def thresholdFor (request : VerifyRequest) (project : Project) : Float :=
  request.threshold.getD project.config.scoring.readinessThreshold

def status (report : Report Float) (threshold : Float) : Nat :=
  if report.passes threshold then 0 else 1

/-- The run that shows a report, and keeps it if a folder for it is given. -/
def present (request : VerifyRequest) (session : Session) (report : Report Float)
    (threshold : Float) : Transcript :=
  let output := request.format.show report threshold session.color
  let ending := Ending.status (status report threshold)
  match request.outputFolder with
  | none => { ending, output, tree := session.tree }
  | some folder =>
    match report.keep session.here folder session.tree with
    | (tree, .ok paths) => { ending, output := output ++ request.format.showPaths paths, tree }
    | (tree, .error e) => { ending := .failed e.message, output, tree }

def run (request : VerifyRequest) (session : Session) : Transcript :=
  match request.project session with
  | .error e =>
    let message := e.message
    session.refuse [s!"Error: {message}"]
  | .ok project =>
    match project.engine >>= fun engine => engine.analyze session.now session.elapsed with
    | .error e => { ending := .failed e.message, tree := session.tree }
    | .ok report => request.present session report (request.thresholdFor project)

end VerifyRequest

end GapAudit
