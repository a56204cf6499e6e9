import GapAudit.CommandLine.Request
import GapAudit.CommandLine.Session
import GapAudit.FileTree.Change
import GapAudit.Report.Terminal

/-!
Writing a first configuration from a template. A file that is there already is only replaced if that
is asked for.
-/

namespace GapAudit

/-- Why no configuration is written. -/
inductive InitError where
  | unknownTemplate (name : String)
  | present (path : String)
  | folder (reason : AccessError)
  | file (reason : AccessError)
  deriving DecidableEq, Repr

def InitError.lines : InitError → List String
  | .unknownTemplate name =>
    [s!"Error: unknown template {Text.quote name}",
      "Run 'gapcheck init --list' to see available templates"]
  | .present path =>
    [s!"Error: file already exists: {path}",
      "Use --force to overwrite or --output to choose a different path"]
  | .folder reason => [s!"Error: failed to create directory: {reason.message}"]
  | .file reason => [s!"Error: failed to write configuration: {reason.message}"]

def Template.listLine (template : Template) : String :=
  let name :=
    if template.name == standardName then template.name ++ " (default)" else template.name
  s!"  {Terminal.padEnd 20 name} {template.description}"

def Template.listLines : List String :=
  ["Available templates:", ""] ++ all.map listLine ++
    ["", "Usage:", "  gapcheck init --template <name>"]

namespace InitRequest

def doneLines (path template : String) : List String :=
  [s!"Created {path} from template '{template}'", "", "Next steps:",
    s!"  1. Edit {path} to describe your project's features",
    s!"  2. Run: gapcheck verify . --config {path}"]

/-- The tree with the configuration written to an absolute path and the folders on the way made, and
what prevented it. -/
def write (path text : String) (tree : FileTree) : FileTree × Except InitError Unit :=
  match tree.makeFolders (Path.parent path) with
  | (tree, .error e) => (tree, .error (.folder e))
  | (tree, .ok _) =>
    match tree.write path text.toUTF8 with
    | .error e => (tree, .error (.file e))
    | .ok tree => (tree, .ok ())

def run (request : InitRequest) (session : Session) : Transcript :=
  if request.list then
    { ending := .status 0, output := Text.ofLines Template.listLines, tree := session.tree }
  else
    match Template.find? request.template with
    | none => session.refuse (InitError.unknownTemplate request.template).lines
    | some template =>
      let path := session.path request.path
      if session.tree.pathExists path && !request.force then
        session.refuse (InitError.present request.path).lines
      else
        match write path template.text session.tree with
        | (tree, .error e) => { session.refuse e.lines with tree }
        | (tree, .ok _) =>
          { ending := .status 0
            output := Text.ofLines (doneLines request.path template.name)
            tree }

end InitRequest

end GapAudit
