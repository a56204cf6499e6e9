import GapAudit.Json.Value
import GapAudit.Decimal.Notation

/-!
Writing of JSON texts, on one line or indented by two blanks a level.
-/

namespace GapAudit.Json

/-- The digit of base sixteen with the given value. -/
def hexDigit (n : Nat) : Char :=
  Nat.digitChar (n % 16)

/-- The written form of a character inside quotes: quotes, backslashes and control characters are
escaped and nothing else. -/
def escapeChar (c : Char) : List Char :=
  if c == '"' || c == '\\' then ['\\', c]
  else if c == '\n' then ['\\', 'n']
  else if c == '\r' then ['\\', 'r']
  else if c == '\t' then ['\\', 't']
  else if c == '\x08' then ['\\', 'b']
  else if c == '\x0c' then ['\\', 'f']
  else if c.toNat < 0x20 then ['\\', 'u', '0', '0', hexDigit (c.toNat / 16), hexDigit c.toNat]
  else [c]

def quoted (s : String) : List Char :=
  '"' :: s.toList.flatMap escapeChar ++ ['"']

/-- The text of a number; a double that is not finite has none and becomes `null`. -/
def Number.text : Number → String
  | .whole n => toString n
  | .real x =>
    match Decimal.Binary.ofFloat x with
    | .finite negative mantissa exponent => Decimal.dataText negative mantissa exponent
    | _ => "null"

/-- Pieces with a separator between neighbours. -/
def separated (separator : List Char) : List (List Char) → List Char
  | [] => []
  | [piece] => piece
  | piece :: pieces => piece ++ separator ++ separated separator pieces

inductive Layout where
  | compact
  | indented

/-- The break before an item at the given depth. -/
def Layout.lineBreak (layout : Layout) (depth : Nat) : List Char :=
  match layout with
  | .compact => []
  | .indented => '\n' :: List.replicate (2 * depth) ' '

/-- What stands between a key and its value. -/
def Layout.colon : Layout → List Char
  | .compact => [':']
  | .indented => [':', ' ']

/-- Items between brackets, each on a line of its own in the indented layout. -/
def Layout.enclose (layout : Layout) (depth : Nat) (opening closing : Char)
    (items : List (List Char)) : List Char :=
  if items.isEmpty then [opening, closing]
  else
    let indent := layout.lineBreak (depth + 1)
    opening :: indent ++ separated (',' :: indent) items ++ layout.lineBreak depth ++ [closing]

mutual

/-- The text of a value whose first line stands at the given depth. -/
def print (layout : Layout) (depth : Nat) : Json → List Char
  | .null => ['n', 'u', 'l', 'l']
  | .bool true => ['t', 'r', 'u', 'e']
  | .bool false => ['f', 'a', 'l', 's', 'e']
  | .number n => n.text.toList
  | .string s => quoted (s.getD "")
  | .array items => layout.enclose depth '[' ']' (printItems layout (depth + 1) items)
  | .object members =>
    layout.enclose depth '\x7b' '\x7d' (printMembers layout (depth + 1) members)

def printItems (layout : Layout) (depth : Nat) : List Json → List (List Char)
  | [] => []
  | item :: items => print layout depth item :: printItems layout depth items

def printMembers (layout : Layout) (depth : Nat) :
    List (Option String × Json) → List (List Char)
  | [] => []
  | (key, value) :: members =>
    (quoted (key.getD "") ++ layout.colon ++ print layout depth value) ::
      printMembers layout depth members

end

def compactText (value : Json) : String :=
  String.ofList (value.print .compact 0)

def indentedText (value : Json) : String :=
  String.ofList (value.print .indented 0)

end GapAudit.Json
