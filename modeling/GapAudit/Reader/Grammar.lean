import GapAudit.Reader.Parser

/-!
The parts of the grammar that contain each other. A grammar holds a parser for each of them; the
rules for one level of nesting are written over the grammar of the level below.
-/

namespace GapAudit.Reader

open Source

/-- Parsers for the parts of source that may be nested. An expression may be read so that no arrow
function in it has a return type: the colon then belongs to a condition. -/
structure Grammar where
  dialect : Dialect
  typeExpression : Parser Unit
  pattern : Parser (List Tree)
  operand : Parser (List Tree)
  expression : (returnTypes : Bool) → Parser (List Tree)
  markup : Parser Tree
  statement : Parser (List Tree)

/-- The grammar of nothing, where nesting ends. -/
def Grammar.empty (dialect : Dialect) : Grammar where
  dialect := dialect
  typeExpression := failure
  pattern := failure
  operand := failure
  expression _ := failure
  markup := failure
  statement := failure

end GapAudit.Reader
