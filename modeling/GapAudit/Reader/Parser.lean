import GapAudit.Reader.Lexeme

/-!
Parsers of source text. A parser takes the head of a text and leaves the rest right behind the last
part it took, so that a node which it makes ends where its text ends.
-/

namespace GapAudit.Reader

open Source Text

/-- A reader of the head of a text that may refuse it. -/
abbrev Parser := StateT (List Char) Option

namespace Parser

/-- The parser of a reader that only gives the rest. -/
def ofSkip (skip : List Char → Option (List Char)) : Parser Unit := fun s =>
  (skip s).map fun rest => ((), rest)

/-- The parser of a reader of separators or other text that is always there. -/
def skip (skip : List Char → List Char) : Parser Unit := fun s =>
  some ((), skip s)

/-- Fails unless a condition on the text ahead holds. -/
def ahead (condition : List Char → Bool) : Parser Unit := fun s =>
  if condition s then some ((), s) else none

/-- What a parser reads, if it does not refuse. -/
def maybe {α : Type} (p : Parser α) : Parser (Option α) := fun s =>
  match p.run s with
  | some (a, rest) => some (some a, rest)
  | none => some (none, s)

/-- What a parser reads one time after the other, at most `limit` times, as long as it takes
something. -/
def manyUpTo {α : Type} (p : Parser α) : (limit : Nat) → List Char → List α × List Char
  | 0, s => ([], s)
  | limit + 1, s =>
    match p.run s with
    | none => ([], s)
    | some (a, rest) =>
      if rest.length < s.length then
        let (more, rest) := manyUpTo p limit rest
        (a :: more, rest)
      else ([], s)

/-- What a parser reads one time after the other until it refuses. -/
def many {α : Type} (p : Parser α) : Parser (List α) := fun s =>
  some (manyUpTo p s.length s)

def symbol (text : List Char) : Parser Unit :=
  ofSkip fun s => after? text (trivia s)

def name : Parser (List Char) := fun s =>
  name? (trivia s)

def word (text : List Char) : Parser Unit := do
  let found ← name
  guard (found == text)

def wordOf (texts : List (List Char)) : Parser (List Char) := do
  let found ← name
  guard (texts.contains found)
  return found

/-- A quoted text after separators. -/
def string : Parser Unit := fun s =>
  match trivia s with
  | c :: rest =>
    if c == '"' || c == '\'' then (skipQuoted? c rest).map fun rest => ((), rest) else none
  | [] => none

/-- The `=` of a default or an initial value, as opposed to `==` and `=>`. -/
def equals : Parser Unit := do
  symbol ['=']
  ahead fun s => s.head? != some '=' && s.head? != some '>'

/-- What a parser reads with a separating symbol between neighbours, at most `limit` times; one more
symbol may follow the last. -/
def separatedUpTo {α : Type} (separator : List Char) (p : Parser α) :
    (limit : Nat) → List Char → List α × List Char
  | 0, s => ([], s)
  | limit + 1, s =>
    match p.run s with
    | none => ([], s)
    | some (a, rest) =>
      match (symbol separator).run rest with
      | none => ([a], rest)
      | some (_, rest) =>
        let (more, rest) := separatedUpTo separator p limit rest
        (a :: more, rest)

/-- Items, perhaps none, with a separating symbol between neighbours. -/
def separatedBy {α : Type} (separator : List Char) (p : Parser α) : Parser (List α) := fun s =>
  some (separatedUpTo separator p (s.length + 1) s)

def between {α : Type} (opening closing : Char) (p : Parser α) : Parser α := do
  symbol [opening]
  let a ← p
  symbol [closing]
  return a

/-- A parser that goes on only if no line ends before the next part. -/
def sameLine : Parser Unit :=
  ahead fun s => !breaksLine s

/-- Succeeds if the character behind the separators ahead fulfils a condition. -/
def nextChar (condition : Char → Bool) : Parser Unit :=
  ahead fun s => (trivia s).head?.any condition

/-- The place where a parser stands, in bytes from the end of the text. -/
def position : Parser Nat := fun s =>
  some (byteSize s, s)

/-- A node around the nodes that a parser reads. -/
def node (kind : String) (p : Parser (List Tree)) : Parser Tree := fun s =>
  let s := trivia s
  (p.run s).map fun (children, rest) =>
    (⟨kind, true, none, byteSize s, byteSize rest, children⟩, rest)

/-- A node without children. -/
def leaf {α : Type} (kind : String) (p : Parser α) : Parser Tree :=
  node kind (do let _ ← p; return [])

/-- The token of a word. -/
def keyword (kind : String) (text : List Char) : Parser Tree := do
  return { ← leaf kind (word text) with named := false }

def field (name : String) (p : Parser Tree) : Parser Tree := do
  return { ← p with field := some name }

/-- The comments ahead. -/
def comments : Parser (List Tree) := fun s =>
  some (commentsFrom .blank 0 s, trivia s)

end Parser

end GapAudit.Reader
