import GapAudit.Config.Validation
import GapAudit.Tools.Builtin
import GapAudit.Walk

/-!
A project: a tree of files with the root of the project in it, the configuration, and the tools that
an analysis of it relies on.
-/

namespace GapAudit

/-- A project. The root is an absolute path in the tree. -/
structure Project where
  tree : FileTree
  root : String
  config : Config
  tools : Tools := .builtin

namespace Project

def path (project : Project) (relative : String) : String :=
  Path.join project.root relative

def relative (project : Project) (path : String) : String :=
  Path.relativeTo project.root path

/-- The files that a walk takes below a folder of the project and that are not excluded. -/
def walk (project : Project) (folder : String) (w : Walk) : List String :=
  (w.collect project.tree (project.path folder)).filter fun path =>
    !project.config.isExcluded (project.relative path)

def text? (project : Project) (path : String) : Option String :=
  project.tree.text? path

/-- The facts about the text of a file at a path. -/
def facts (project : Project) (path : String) (source : List Char) : Facts :=
  .read (project.tools.parse (.ofPath path)) source

end Project

/-- A list of names for a message, cut off behind the given number of them. -/
def summarizeNames (names : List String) (limit : Nat) : String :=
  if names.length ≤ limit then ", ".intercalate names
  else
    let shown := ", ".intercalate (names.take limit)
    s!"{shown} and {names.length - limit} more"

end GapAudit
