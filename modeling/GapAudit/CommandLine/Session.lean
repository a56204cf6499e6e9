import GapAudit.FileTree
import GapAudit.Text.Scan
import GapAudit.Timestamp
import GapAudit.Tools.Builtin

/-!
What a run of the program finds, and what it leaves behind.
-/

namespace GapAudit

/-- What a run finds: the files, the folder in which it works, the time, how long each analyzer
takes, whether colour can be shown, and the tools that it relies on. -/
structure Session where
  tree : FileTree
  here : String
  now : Timestamp
  elapsed : String → Nat := fun _ => 0
  color : Bool := false
  tools : Tools := .builtin

/-- How a run ends: with an exit status, or with an error that was not foreseen. -/
inductive Ending where
  | status (code : Nat)
  | failed (message : String)
  deriving DecidableEq, Repr

/-- What a run leaves behind: how it ended, what it wrote to its two outputs, and the files. -/
structure Transcript where
  ending : Ending
  output : String := ""
  complaint : String := ""
  tree : FileTree

namespace Session

def path (session : Session) (path : String) : String :=
  Path.join session.here path

/-- A run that ends with a complaint and leaves all files as they are. -/
def refuse (session : Session) (lines : List String) : Transcript where
  ending := .status 2
  complaint := Text.ofLines lines
  tree := session.tree

end Session

end GapAudit
