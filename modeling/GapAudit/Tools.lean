import GapAudit.FileTree
import GapAudit.Source.Tree

/-!
The programs and libraries that an analysis relies on: a parser, a reader of JSON, and whatever the
system can start.
-/

namespace GapAudit

/-- What a program leaves on its two outputs. -/
structure ProgramOutput where
  out : List UInt8 := []
  err : List UInt8 := []

/-- What an analysis relies on. -/
structure Tools where
  /-- The syntax tree that the parser gives for a text, if it gives one. -/
  parse : Source.Dialect → (source : List Char) → Option Source.Tree
  /-- What comes of starting a program with arguments in a folder of a tree: its output, or why it
  could not be started. -/
  start : FileTree → (folder program : String) → (arguments : List String) →
    Except String ProgramOutput
  /-- What the reader of JSON says about a text that it cannot read. -/
  jsonComplaint : (text : String) → String

end GapAudit
