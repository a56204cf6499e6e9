import GapAudit.Path
import GapAudit.Source.Markup
import GapAudit.Source.Statement

/-!
The facts about a source file: what it imports, what it exports, which types it declares and which
elements it renders. They are taken from the syntax tree that a parser gives for the text.
-/

namespace GapAudit

def Source.Dialect.ofPath (path : String) : Source.Dialect :=
  if [some "ts", some "mts", some "cts"].contains (Path.extension? path) then .plain else .markup

/-- What the analysis knows about a source file. -/
structure Facts where
  exports : List String := []
  types : List String := []
  imports : List Import := []
  elements : List Element := []
  deriving DecidableEq, Repr

namespace Facts

def ofTree (source : List Char) (tree : Source.Tree) : Facts where
  exports := tree.exports source
  types := tree.types source
  imports := tree.imports source
  elements := tree.elements source

/-- The facts about a text, of which none are known where the parser gives no tree. -/
def read (parse : List Char → Option Source.Tree) (source : List Char) : Facts :=
  (parse source).elim {} (ofTree source)

/-- The first exported name that starts with a capital letter. -/
def primaryComponent? (facts : Facts) : Option String :=
  facts.exports.find? fun name => name.toList.head?.any Text.isAsciiUpper

def hasTypeEnding (facts : Facts) (ending : String) : Bool :=
  facts.types.any fun name => Text.endsWith ending.toList name.toList

end Facts

end GapAudit
