import GapAudit.Reader.TypeExpression

/-!
Names that a function or a declaration binds: patterns, default values and parameters.
-/

namespace GapAudit.Reader

open Source Reader.Parser Text

def initialValue (g : Grammar) : Parser (List Tree) := do
  let value ← maybe (do equals; g.expression true)
  return value.getD []

def expressions (g : Grammar) : Parser (List Tree) := do
  return (← separatedBy [','] (g.expression true)).flatten

def spreadable (g : Grammar) : Parser (List Tree) := do
  let _ ← maybe (symbol ['.', '.', '.'])
  g.expression true

def arguments (g : Grammar) : Parser (List Tree) := do
  return (← between '(' ')' (separatedBy [','] (spreadable g))).flatten

def numberLiteral : Parser Unit := fun s =>
  let s := trivia s
  if startsNumber s then some ((), skipNumber false s) else none

/-- The key of a member: a name, a private name, a text, a number or an expression in brackets. -/
def memberKey (g : Grammar) : Parser (List Tree) :=
  (do let _ ← name; return []) <|>
  (do symbol ['#']; let _ ← name; return []) <|>
  (do string; return []) <|>
  (do numberLiteral; return []) <|>
  between '[' ']' (g.expression true)

/-- A character that the key of a member may start with. -/
def startsKey (c : Char) : Bool :=
  isNameChar c || ['"', '\'', '[', '#', '*'].contains c

def patternMember (g : Grammar) : Parser (List Tree) :=
  (do symbol ['.', '.', '.']; g.pattern) <|>
  (do
    let key ← memberKey g
    let target ← maybe (do symbol [':']; g.pattern)
    return key ++ target.getD [] ++ (← initialValue g))

/-- An element of an array pattern; the commas count as elements of their own. -/
def patternElement (g : Grammar) : Parser (List Tree) :=
  (do symbol [',']; return []) <|>
  (do symbol ['.', '.', '.']; g.pattern) <|>
  (do let target ← g.pattern; return target ++ (← initialValue g))

/-- A name, an object pattern or an array pattern. -/
def pattern (g : Grammar) : Parser (List Tree) :=
  (do let _ ← name; return []) <|>
  (do return (← between '\x7b' '\x7d' (separatedBy [','] (patternMember g))).flatten) <|>
  (do return (← between '[' ']' (many (patternElement g))).flatten)

def decorator (g : Grammar) : Parser (List Tree) := do
  symbol ['@']
  (between '(' ')' (g.expression true)) <|> (do
    dottedName
    let _ ← maybe (typeArguments g)
    return (← maybe (arguments g)).getD [])

def decorators (g : Grammar) : Parser (List Tree) := do
  return (← many (decorator g)).flatten

/-- Words that make a parameter a field. -/
def parameterWords : List (List Char) :=
  ["public", "private", "protected", "readonly", "override"].map String.toList

def parameter (g : Grammar) : Parser (List Tree) := do
  let decoration ← decorators g
  let _ ← many (do
    let _ ← wordOf parameterWords
    nextChar fun c => isNameStart c || c == '\x7b' || c == '[')
  let _ ← maybe (symbol ['.', '.', '.'])
  let target ← g.pattern
  let _ ← maybe (symbol ['?'])
  annotation g
  return decoration ++ target ++ (← initialValue g)

def parameters (g : Grammar) : Parser (List Tree) := do
  return (← between '(' ')' (separatedBy [','] (parameter g))).flatten

/-- Statements in braces. -/
def block (g : Grammar) : Parser (List Tree) := do
  return (← between '\x7b' '\x7d' (many g.statement)).flatten

/-- What follows the name of a function: parameters, result type and body. A signature has no
body. -/
def functionRest (g : Grammar) : Parser (List Tree) := do
  let _ ← maybe (bracketed '<')
  let ins ← parameters g
  annotation g
  return ins ++ (← maybe (block g)).getD []

end GapAudit.Reader
