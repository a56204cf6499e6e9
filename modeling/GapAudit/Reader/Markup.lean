import GapAudit.Reader.Expression

/-!
JSX: elements and fragments with their attributes and children.
-/

namespace GapAudit.Reader

open Source Reader.Parser Text

def isTagChar (c : Char) : Bool :=
  isNameChar c || c == '-'

/-- The name of an element or an attribute between points and colons. -/
def tagPart : Parser Unit := fun s =>
  match trivia s with
  | c :: s => if isNameStart c then some ((), s.dropWhile isTagChar) else none
  | [] => none

/-- The name of an element: a namespace or points may stand in it. -/
def tagName : Parser Tree :=
  field "name" (leaf "identifier" (do
    tagPart
    many (do (symbol [':'] <|> symbol ['.']); tagPart)))

/-- A quoted text within a tag, where nothing is escaped. -/
def tagString : Parser Tree :=
  leaf "string" (ofSkip fun s =>
    match s with
    | c :: s => if c == '"' || c == '\'' then some ((s.dropWhile (· != c)).drop 1) else none
    | [] => none)

/-- The kind of an expression with the given text: that of a text in quotes or of a template, if it
is nothing else. -/
def literalKind (g : Grammar) (text : List Char) : String :=
  match text with
  | '"' :: rest => if skipQuoted? '"' rest == some [] then "string" else "expression"
  | '\'' :: rest => if skipQuoted? '\'' rest == some [] then "string" else "expression"
  | '\x60' :: _ =>
    if ((template g).run text).any fun (_, rest) => rest.isEmpty then "template_string"
    else "expression"
  | _ => "expression"

/-- The expression between braces, if there is one. -/
def embedded (g : Grammar) : Parser Tree := fun s =>
  let s := trivia s
  match (separatedBy [','] (g.expression true)).run s with
  | some (part :: parts, rest) =>
    let kind := literalKind g (s.take (s.length - rest.length))
    some (⟨kind, true, none, byteSize s, byteSize rest, (part :: parts).flatten⟩, rest)
  | _ => none

def spread (g : Grammar) : Parser Tree :=
  node "spread_element" (do
    symbol ['.', '.', '.']
    return (← maybe (embedded g)).toList)

/-- Braces: nothing but comments, or an expression, which may be spread. -/
def container (g : Grammar) : Parser Tree :=
  node "jsx_expression" (do
    symbol ['\x7b']
    let before ← comments
    let inside ← maybe (spread g <|> embedded g)
    let behind ← comments
    symbol ['\x7d']
    return before ++ inside.toList ++ behind)

def attributeName : Parser Tree :=
  leaf "property_identifier" (do
    tagPart
    maybe (do symbol [':']; tagPart))

/-- The value of an attribute with the comments around the sign before it. -/
def attributeValue (g : Grammar) : Parser (List Tree) := do
  let before ← comments
  symbol ['=']
  let behind ← comments
  return before ++ behind ++ [← tagString <|> container g <|> g.markup]

/-- An attribute, perhaps a spread one. -/
def tagAttribute (g : Grammar) : Parser Tree :=
  container g <|>
  node "jsx_attribute" (do
    let name ← attributeName
    return name :: (← maybe (attributeValue g)).getD [])

/-- What stands in a tag: its name, its attributes and comments. -/
def tagParts (g : Grammar) : Parser (List Tree) := do
  let before ← comments
  let name ← tagName
  let arguments ← maybe (leaf "type_arguments" (typeArguments g))
  let parts ← many (do
    let before ← comments
    return before ++ [← tagAttribute g])
  return before ++ name :: arguments.toList ++ parts.flatten ++ (← comments)

/-- A character that text between tags may contain. -/
def isTextChar (c : Char) : Bool :=
  c != '<' && c != '>' && c != '\x7b' && c != '\x7d' && c != '&'

/-- The text after a character reference, whose ampersand is gone. -/
def skipReference? (s : List Char) : Option (List Char) :=
  let body := s.takeWhile (· != ';')
  let digits (limit : Nat) (p : Char → Bool) (ds : List Char) : Bool :=
    !ds.isEmpty && ds.length ≤ limit && ds.all p
  let isHex (c : Char) : Bool :=
    isAsciiDigit c || ('a' ≤ c && c ≤ 'f') || ('A' ≤ c && c ≤ 'F')
  let fits :=
    match body with
    | '#' :: 'x' :: ds | '#' :: 'X' :: ds => digits 6 isHex ds
    | '#' :: ds => digits 5 isAsciiDigit ds
    | letters => digits 30 isAsciiLetter letters
  if fits && body.length < s.length then some (s.drop (body.length + 1)) else none

/-- A child of an element: text, a character reference, braces, or an element. -/
def child (g : Grammar) : Parser Tree := fun s =>
  let leafTo (kind : String) (rest : List Char) : Option (Tree × List Char) :=
    some (⟨kind, true, none, byteSize s, byteSize rest, []⟩, rest)
  match s with
  | [] => none
  | '\x7b' :: _ => (container g).run s
  | '&' :: rest =>
    match skipReference? rest with
    | some rest => leafTo "html_character_reference" rest
    | none => leafTo "jsx_text" rest
  | '<' :: rest => if (trivia rest).head? == some '/' then none else g.markup.run s
  | c :: _ => if isTextChar c then leafTo "jsx_text" (s.dropWhile isTextChar) else none

def closingTag : Parser Tree :=
  node "jsx_closing_element" (do
    symbol ['<']
    symbol ['/']
    let name ← maybe tagName
    symbol ['>']
    return name.toList)

/-- An element or a fragment. Whether the tag closes itself shows only at its end. -/
def markup (g : Grammar) : Parser Tree := do
  skip trivia
  let start ← position
  symbol ['<']
  let parts ← maybe (tagParts g)
  let slash ← maybe (do guard parts.isSome; symbol ['/'])
  symbol ['>']
  let stop ← position
  let parts := parts.getD []
  if slash.isSome then return ⟨"jsx_self_closing_element", true, none, start, stop, parts⟩
  else
    let opening : Tree := ⟨"jsx_opening_element", true, some "open_tag", start, stop, parts⟩
    let children ← many (child g)
    let closing ← closingTag
    return ⟨"jsx_element", true, none, start, ← position, opening :: children ++ [closing]⟩

end GapAudit.Reader
