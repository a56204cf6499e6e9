import GapAudit.Reader.Binding

/-!
Expressions. How tightly operators bind does not matter here, so an expression is a row of operands
with operators between them.
-/

namespace GapAudit.Reader

open Source Reader.Parser Text

/-- Words that no expression starts with. -/
def reservedWords : List (List Char) :=
  ["case", "default", "else", "catch", "finally", "extends", "in", "instanceof", "var", "const",
    "return", "if", "for", "while", "do", "switch", "throw", "try", "break", "continue", "with",
    "debugger", "export", "enum"].map String.toList

/-- Words that stand before an operand. -/
def operatorWords : List (List Char) :=
  ["typeof", "void", "delete", "await", "new"].map String.toList

/-- Operators between two operands, each before those that it starts with. -/
def binaryOperators : List (List Char) :=
  [">>>=", "===", "!==", "**=", "<<=", ">>=", ">>>", "&&=", "||=", "??=", "==", "!=", "<=", ">=",
    "&&", "||", "??", "**", "<<", ">>", "+=", "-=", "*=", "/=", "%=", "&=", "|=", "^=", "+", "-",
    "*", "/", "%", "<", ">", "&", "|", "^", "="].map String.toList

def startsOperand (s : List Char) : Bool :=
  match trivia s with
  | c :: rest =>
    isNameChar c || isQuote c ||
      ['(', '[', '\x7b', '<', '+', '-', '!', '~', '@', '#', '/'].contains c ||
      startsNumber (c :: rest)
  | [] => false

/-- The text after the plain characters of a template. -/
def skipTemplateText : List Char → List Char
  | [] => []
  | '\\' :: _ :: s => skipTemplateText s
  | '$' :: '\x7b' :: s => '$' :: '\x7b' :: s
  | '\x60' :: s => '\x60' :: s
  | _ :: s => skipTemplateText s

/-- A template text after its opening mark. -/
def templateRest (g : Grammar) : Parser (List Tree) := do
  skip skipTemplateText
  let parts ← many (do
    ofSkip fun s => after? ['$', '\x7b'] s
    let inside ← expressions g
    symbol ['\x7d']
    skip skipTemplateText
    return inside)
  ofSkip fun s => after? ['\x60'] s
  return parts.flatten

def template (g : Grammar) : Parser (List Tree) := do
  symbol ['\x60']
  templateRest g

/-- The head of an arrow function up to the arrow. -/
def arrowHead (g : Grammar) (returnTypes : Bool) : Parser (List Tree) := do
  let ins ← (do let _ ← name; return []) <|> (do
    let _ ← maybe (typeParameters g)
    let ins ← parameters g
    if returnTypes then annotation g
    return ins)
  symbol ['=', '>']
  return ins

/-- The head of an arrow function, perhaps an asynchronous one. -/
def anyArrowHead (g : Grammar) (returnTypes : Bool) : Parser (List Tree) :=
  arrowHead g returnTypes <|> (do
    word ['a', 's', 'y', 'n', 'c']
    arrowHead g returnTypes)

def arrowBody (g : Grammar) (returnTypes : Bool) : Parser (List Tree) := fun s =>
  if (trivia s).head? == some '\x7b' then (block g).run s else (g.expression returnTypes).run s

/-- An arrow function where its head can be read, and another parser elsewhere. -/
def arrowOr (g : Grammar) (returnTypes : Bool) (other : Parser (List Tree)) :
    Parser (List Tree) := fun s =>
  match (anyArrowHead g returnTypes).run s with
  | some (ins, rest) => (do return ins ++ (← arrowBody g returnTypes)).run rest
  | none => other.run s

/-- The name of what is being declared. -/
def title (kind : String) : Parser Tree :=
  field "name" (leaf kind name)

/-- A function expression or declaration after the word: its name, if any, and what it holds. -/
def functionAfterWord (g : Grammar) : Parser (Option Tree × List Tree) := do
  let _ ← maybe (symbol ['*'])
  let name ← maybe (title "identifier")
  return (name, ← functionRest g)

def functionWord : Parser Unit := do
  let _ ← maybe (do word ['a', 's', 'y', 'n', 'c']; sameLine)
  word ['f', 'u', 'n', 'c', 't', 'i', 'o', 'n']

def memberWords : List (List Char) :=
  ["get", "set", "async", "static"].map String.toList

def methodRest (g : Grammar) : Parser (List Tree) := do
  nextChar fun c => c == '(' || c == '<'
  functionRest g

def objectMember (g : Grammar) : Parser (List Tree) :=
  (do symbol ['.', '.', '.']; g.expression true) <|>
  (do
    let _ ← many (do let _ ← wordOf memberWords; nextChar startsKey)
    let _ ← maybe (symbol ['*'])
    let key ← memberKey g
    let value ← maybe (methodRest g <|> (do symbol [':']; g.expression true))
    return key ++ value.getD [] ++ (← initialValue g))

/-- An object, or the members of an enumeration. -/
def objectLiteral (g : Grammar) : Parser (List Tree) := do
  return (← between '\x7b' '\x7d' (separatedBy [','] (objectMember g))).flatten

/-- An array; the commas count as items of their own. -/
def arrayLiteral (g : Grammar) : Parser (List Tree) := do
  return (← between '[' ']' (many ((do symbol [',']; return []) <|> spreadable g))).flatten

def classWords : List (List Char) :=
  ["declare", "public", "private", "protected", "static", "abstract", "override", "readonly",
    "accessor", "async", "get", "set"].map String.toList

/-- A member of a class: a block, an index signature, a method or a field. -/
def classMember (g : Grammar) : Parser (List Tree) :=
  (do symbol [';']; return []) <|>
  (do
    let decoration ← decorators g
    let inside ←
      (do word ['s', 't', 'a', 't', 'i', 'c']; block g) <|>
      (do
        -- Such a word is itself the key where no other key follows it.
        let _ ← many (do let _ ← wordOf classWords; nextChar startsKey)
        let _ ← maybe (symbol ['*'])
        let key ← memberKey g <|> (do bracketed '['; return [])
        let _ ← maybe (symbol ['?'] <|> symbol ['!'])
        let value ← maybe (methodRest g)
        annotation g
        return key ++ value.getD [] ++ (← initialValue g))
    let _ ← maybe (symbol [';'] <|> symbol [','])
    return decoration ++ inside)

/-- What may follow an operand and belong to it: a member, an index, arguments, a template, a mark
on the same line, or type arguments that nothing else can be. -/
def operandRest (g : Grammar) : Parser (List Tree) :=
  (do single '.'; let _ ← maybe (symbol ['#']); let _ ← name; return []) <|>
  (do
    symbol ['?', '.']
    ahead fun s => !s.head?.any isAsciiDigit
    let _ ← maybe (do let _ ← maybe (symbol ['#']); name)
    return []) <|>
  between '[' ']' (expressions g) <|>
  arguments g <|>
  template g <|>
  (do
    sameLine
    (do symbol ['!']; ahead fun s => s.head? != some '=') <|> symbol ['+', '+'] <|>
      symbol ['-', '-']
    return []) <|>
  (do
    typeArguments g
    ahead fun s => (trivia s).head? == some '(' || (trivia s).head? == some '\x60' ||
      !startsOperand s
    return [])

def superclass (g : Grammar) : Parser (List Tree) := do
  word ['e', 'x', 't', 'e', 'n', 'd', 's']
  let nodes ← g.operand
  let _ ← maybe (typeArguments g)
  return nodes

def implemented (g : Grammar) : Parser Unit := do
  word ['i', 'm', 'p', 'l', 'e', 'm', 'e', 'n', 't', 's']
  let _ ← separatedBy [','] g.typeExpression

/-- A class after the word: its name, if it has one, and what it holds. -/
def classAfterWord (g : Grammar) : Parser (Option Tree × List Tree) := do
  let name ← maybe (field "name" (leaf "type_identifier" (do
    let found ← name
    guard (found != "extends".toList && found != "implements".toList))))
  let _ ← maybe (bracketed '<')
  let parent ← maybe (superclass g)
  let _ ← maybe (implemented g)
  let members ← between '\x7b' '\x7d' (many (classMember g))
  return (name, parent.getD [] ++ members.flatten)

def operandName : Parser (List Tree) := do
  let found ← name
  guard (!reservedWords.contains found)
  return []

def wordOperand (g : Grammar) (returnTypes : Bool) : Parser (List Tree) :=
  (do functionWord; return (← functionAfterWord g).2) <|>
  (do word ['c', 'l', 'a', 's', 's']; return (← classAfterWord g).2) <|>
  arrowOr g returnTypes operandName

def patternLiteral : Parser (List Tree) := fun s =>
  match trivia s with
  | '/' :: s => (skipPattern? false s).map fun rest => ([], rest)
  | _ => none

/-- An operand without what may precede or follow it. -/
def primary (g : Grammar) (returnTypes : Bool) : Parser (List Tree) := fun s =>
  match trivia s with
  | [] => none
  | c :: rest =>
    if c == '(' then (arrowOr g returnTypes (between '(' ')' (expressions g))).run s
    else if c == '[' then (arrayLiteral g).run s
    else if c == '\x7b' then (objectLiteral g).run s
    else if c == '<' then
      match g.dialect with
      | .markup => ((do return [← g.markup]) <|> arrowOr g returnTypes failure).run s
      | .plain => (arrowOr g returnTypes failure).run s
    else if c == '"' || c == '\'' then (do string; return []).run s
    else if c == '\x60' then (template g).run s
    else if c == '/' then patternLiteral.run s
    else if c == '@' then
      (do
        let decoration ← decorators g
        word ['c', 'l', 'a', 's', 's']
        return decoration ++ (← classAfterWord g).2).run s
    else if c == '#' then (do symbol ['#']; let _ ← name; return []).run s
    else if startsNumber (c :: rest) then (do numberLiteral; return []).run s
    else (wordOperand g returnTypes).run s

def operandAhead : Parser Unit :=
  ahead startsOperand

/-- A sign, a word or a cast before an operand. -/
def operandPrefix (g : Grammar) : Parser Unit :=
  symbol ['+', '+'] <|> symbol ['-', '-'] <|> symbol ['!'] <|> symbol ['~'] <|> symbol ['+'] <|>
  symbol ['-'] <|>
  (do let _ ← wordOf operatorWords; operandAhead) <|>
  (do
    word ['y', 'i', 'e', 'l', 'd']
    sameLine
    let _ ← maybe (symbol ['*'])
    operandAhead) <|>
  (do
    guard (g.dialect = .plain)
    let _ ← between '<' '>' g.typeExpression
    -- before the head of an arrow function, the brackets hold its type parameters
    ahead fun s => (trivia s).head? != some '(' ||
      ((arrowHead g true).run s).isNone)

/-- An operand with what may follow it and belong to it. -/
def operand (g : Grammar) (returnTypes : Bool) : Parser (List Tree) := do
  let first ← primary g returnTypes
  return first ++ (← many (operandRest g)).flatten

def signedOperand (g : Grammar) (returnTypes : Bool) : Parser (List Tree) := do
  let _ ← many (operandPrefix g)
  operand g returnTypes

def binaryOperator : Parser Unit :=
  (do
    -- not an arrow, nor a sign that belongs to the operand before
    ahead fun s => !startsWith ['=', '>'] (trivia s) && !startsWith ['+', '+'] (trivia s) &&
      !startsWith ['-', '-'] (trivia s)
    ofSkip fun s => afterAny? binaryOperators (trivia s)) <|>
  (do let _ ← wordOf [['i', 'n'], ['i', 'n', 's', 't', 'a', 'n', 'c', 'e', 'o', 'f']])

/-- The two branches of a condition after its question mark. Where the first branch leaves no colon,
a colon in it was taken for the start of a result type, and it is read again without those. -/
def branches (g : Grammar) (returnTypes : Bool) : Parser (List Tree) := fun s =>
  let colon (found : Option (List Tree × List Char)) : Option (List Tree × List Char) :=
    found.bind fun (nodes, rest) => ((symbol [':']).run rest).map fun (_, rest) => (nodes, rest)
  match (g.expression true).run s with
  | none => none
  | some first =>
    match colon (some first) <|> colon ((g.expression false).run s) with
    | none => none
    | some (yes, rest) =>
      ((g.expression returnTypes).run rest).map fun (no, rest) => (yes ++ no, rest)

/-- What may follow an operand in an expression. -/
def expressionRest (g : Grammar) (returnTypes : Bool) : Parser (List Tree) :=
  (do binaryOperator; signedOperand g returnTypes) <|>
  (do
    sameLine
    let _ ← wordOf [['a', 's'], ['s', 'a', 't', 'i', 's', 'f', 'i', 'e', 's']]
    g.typeExpression
    return []) <|>
  (do
    symbol ['?']
    ahead fun s => s.head? != some '?' && (s.head? != some '.' || startsNumber s)
    branches g returnTypes)

def expression (g : Grammar) (returnTypes : Bool) : Parser (List Tree) := do
  let first ← signedOperand g returnTypes
  return first ++ (← many (expressionRest g returnTypes)).flatten

end GapAudit.Reader
