import GapAudit.CommandLine.Grammar
import GapAudit.Config.Resolution
import GapAudit.Config.Template
import GapAudit.Decimal.Reading

/-!
What the program can be asked for on its command line: to verify a project, or to write a first
configuration.
-/

namespace GapAudit

inductive ReportFormat where
  | terminal
  | json
  | markdown
  deriving DecidableEq, Repr

def ReportFormat.ofName? : String → Option ReportFormat
  | "pretty" => some .terminal
  | "json" => some .json
  | "markdown" => some .markdown
  | _ => none

structure VerifyRequest where
  path : String := "."
  overrides : Overrides := {}
  format : ReportFormat := .terminal
  /-- The folder in which the report is kept, too. -/
  outputFolder : Option String := none
  /-- The score to reach, instead of the one in the configuration. -/
  threshold : Option Float := none

structure InitRequest where
  path : String := "gapcheck.yaml"
  template : String := Template.standardName
  /-- Whether a file may be replaced. -/
  force : Bool := false
  /-- Whether the templates are only listed. -/
  list : Bool := false
  deriving DecidableEq, Repr

inductive Request where
  | verify (request : VerifyRequest)
  | init (request : InitRequest)

namespace CommandLine

/-- The effect of a value that is a path, which may not be empty. -/
def pathEffect {σ : Type} (name : String) (set : String → σ → σ) : Effect σ :=
  .value false fun value request =>
    if value.isEmpty then .error (.unacceptedValue name value) else .ok (set value request)

/-- Switches that are understood everywhere. That more is to be told has no effect on a request. -/
def commonSwitches (σ : Type) : List (Switch σ) :=
  [⟨"verbose", some 'v', .mark id⟩, ⟨"help", some 'h', .stop .help⟩]

def verifyGrammar : Grammar VerifyRequest where
  switches := commonSwitches VerifyRequest ++ [
    ⟨"config", some 'c', pathEffect "config" fun value request =>
      { request with overrides := { request.overrides with configFile := some value } }⟩,
    ⟨"format", some 'f', .value false fun value request =>
      match ReportFormat.ofName? value with
      | some format => .ok { request with format }
      | none => .error (.unacceptedValue "format" value)⟩,
    ⟨"output-dir", some 'o', pathEffect "output-dir" fun value request =>
      { request with outputFolder := some value }⟩,
    ⟨"threshold", some 't', .value false fun value request =>
      match Decimal.readOrWord? value.toList with
      | some threshold => .ok { request with threshold := some threshold }
      | none => .error (.malformedValue "threshold" value)⟩,
    ⟨"skip-typecheck", none, .mark fun request =>
      { request with overrides := { request.overrides with skipTypecheck := true } }⟩,
    ⟨"analyzers", some 'a', .value true fun value request =>
      let names := (Text.splitAt ',' value.toList).map String.ofList
      .ok { request with overrides :=
        { request.overrides with analyzers := request.overrides.analyzers ++ names } }⟩]
  operands :=
    [⟨"path", none, pathEffect "path" fun value request => { request with path := value }⟩]

def initGrammar : Grammar InitRequest where
  switches := commonSwitches InitRequest ++ [
    ⟨"output", some 'o', pathEffect "output" fun value request => { request with path := value }⟩,
    ⟨"template", some 't', .value false fun value request =>
      .ok { request with template := value }⟩,
    ⟨"force", none, .mark fun request => { request with force := true }⟩,
    ⟨"list", some 'l', .mark fun request => { request with list := true }⟩]

def commands : List (String × (List String → Except UsageError (Option Request))) :=
  let verify (words : List String) : Except UsageError (Option Request) := do
    return some (.verify (← verifyGrammar.read {} words).1)
  let init (words : List String) : Except UsageError (Option Request) := do
    return some (.init (← initGrammar.read {} words).1)
  [("verify", verify), ("check", verify), ("init", init)]

/-- The answer to the command that asks for help, perhaps on a command. No command has commands of
its own. -/
def helpCommand : List String → Except UsageError (Option Request)
  | [] => .error .help
  | word :: rest =>
    if word == "help" || (commands.lookup word).isSome then
      match rest with
      | [] => .error .help
      | surplus :: _ => .error (.unknownCommand surplus)
    else .error (.unknownCommand word)

def grammar : Grammar (Option Request) where
  switches := commonSwitches (Option Request) ++ [⟨"version", some 'V', .stop .version⟩]
  commands := commands ++ [("help", helpCommand)]

end CommandLine

def Request.ofWords (words : List String) : Except CommandLine.UsageError Request :=
  match CommandLine.grammar.read none words with
  | .error e => .error e
  | .ok (some request, _) => .ok request
  | .ok (none, []) => .error .nothingGiven
  | .ok (none, _) => .error .noCommand

end GapAudit
