import GapAudit.Text.Utf8
import GapAudit.Tools.Builtin
import GapAudit.Typecheck.Diagnostic

/-!
The outcome of checking the types of a project.
-/

namespace GapAudit

/-- What is known about the types of a project: why they were not checked, or the diagnostics. A
checker that cannot be started does not count against the project. -/
inductive TypecheckOutcome where
  | skipped (reason : String)
  | checked (diagnostics : List Diagnostic)
  deriving DecidableEq, Repr

namespace TypecheckOutcome

def reason? : TypecheckOutcome → Option String
  | .skipped reason => some reason
  | .checked _ => none

/-- The diagnostics, of which a skipped check has none. -/
def diagnostics : TypecheckOutcome → List Diagnostic
  | .skipped _ => []
  | .checked diagnostics => diagnostics

def problemCount (outcome : TypecheckOutcome) : Nat :=
  outcome.diagnostics.countP Diagnostic.isProblem

/-- The outcome of a finished program: its output and, on a new line, its complaints. -/
def ofOutput (output : ProgramOutput) : TypecheckOutcome :=
  let text := Text.decodeLossy output.out ++ "\n" ++ Text.decodeLossy output.err
  .checked (Diagnostic.ofOutput text)

/-- The outcome of a command in the root of a project. It is started only where the project has
settings for it. -/
def ofCommand (tree : FileTree) (root : String) (command : List String)
    (tools : Tools := .builtin) : TypecheckOutcome :=
  if !tree.isFile (Path.join root "tsconfig.json") then .skipped "no tsconfig.json"
  else
    match command with
    | [] => .skipped "no typecheck command configured"
    | program :: arguments =>
      match tools.start tree root program arguments with
      | .ok output => .ofOutput output
      | .error reason => .skipped s!"{program} could not be started: {reason}"

end TypecheckOutcome

end GapAudit
