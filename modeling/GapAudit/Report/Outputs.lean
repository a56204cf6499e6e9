import GapAudit.FileTree.Change
import GapAudit.Report.Codec
import GapAudit.Report.Markdown

/-!
The files that keep a report: JSON and Markdown under the time of the report, and again under a name
that always holds the latest.
-/

namespace GapAudit

structure OutputPaths where
  json : String
  markdown : String
  latestJson : String
  latestMarkdown : String
  deriving DecidableEq, Repr

def OutputPaths.ofFolder (folder stamp : String) : OutputPaths :=
  let path (name : String) : String := Path.join folder s!"gap-report-{name}"
  ⟨path s!"{stamp}.json", path s!"{stamp}.md", path "latest.json", path "latest.md"⟩

inductive OutputError where
  | folder (path : String)
  | file (path : String)
  deriving DecidableEq, Repr

def OutputError.message : OutputError → String
  | .folder path => s!"creating output directory {path}"
  | .file path => s!"writing {path}"

/-- The tree with files written in order, up to the first that cannot be written. Relative paths
start at the folder `here`. -/
def writeFiles (here : String) : List (String × String) → FileTree →
    FileTree × Except OutputError Unit
  | [], tree => (tree, .ok ())
  | (path, text) :: rest, tree =>
    match tree.write (Path.join here path) text.toUTF8 with
    | .ok tree => writeFiles here rest tree
    | .error _ => (tree, .error (.file path))

/-- The tree with a report kept in a folder that is made if need be. A relative path of it starts at
the folder `here`. -/
def Report.keep (report : Report Float) (here folder : String) (tree : FileTree) :
    FileTree × Except OutputError OutputPaths :=
  match tree.makeFolders (Path.join here folder) with
  | (tree, .error _) => (tree, .error (.folder folder))
  | (tree, .ok _) =>
    let paths := OutputPaths.ofFolder folder report.timestamp.stampText
    let json := report.text
    let markdown := report.markdown
    let (tree, written) := writeFiles here [(paths.json, json), (paths.latestJson, json),
      (paths.markdown, markdown), (paths.latestMarkdown, markdown)] tree
    (tree, written.map fun _ => paths)

end GapAudit
