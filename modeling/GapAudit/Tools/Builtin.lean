import GapAudit.Reader.File
import GapAudit.Shell
import GapAudit.Source.Facts

/-!
The tools that come with the library: a reader of the two dialects, and a shell.
-/

namespace GapAudit

/-- The tools that come with the library. What is wrong in a JSON text they do not tell. -/
def Tools.builtin : Tools where
  parse dialect source := some (Reader.read dialect source)
  start tree folder program arguments :=
    (Shell.start tree folder program arguments).mapError Shell.Obstacle.message
  jsonComplaint _ := "<json error>"

/-- The facts about a text that is read with the built-in reader. -/
def Facts.ofText (dialect : Source.Dialect) (source : List Char) : Facts :=
  .read (Tools.builtin.parse dialect) source

end GapAudit
