import GapAudit.Reader.Statement

/-!
Whole files: the syntax tree of a text.
-/

namespace GapAudit.Reader

open Source Reader.Parser Text

/-- A statement at the top of a file. -/
def topStatement (g : Grammar) : Parser Tree :=
  importStatement g <|> exportStatement g <|> (do notAlone; declaration g) <|>
  node "statement" (statement g)

/-- The statements of a text, at most `limit` of them. Text that is no statement is passed over one
character at a time. -/
def statementsUpTo (g : Grammar) : (limit : Nat) → List Char → List Tree
  | 0, _ => []
  | limit + 1, s =>
    match trivia s with
    | [] => []
    | c :: rest =>
      match (topStatement g).run (c :: rest) with
      | some (found, after) =>
        found :: statementsUpTo g limit (if after.length < rest.length then after else rest)
      | none =>
        ⟨"ERROR", true, none, byteSize (c :: rest), byteSize rest, []⟩ :: statementsUpTo g limit rest

/-- The text after a line that names an interpreter. -/
def skipInterpreter : List Char → List Char
  | '#' :: '!' :: s => s.dropWhile fun c => !isLineEnd c
  | s => s

mutual

/-- A tree whose places are counted from the end of a text, with the places from its beginning. -/
def fromStart (total : Nat) : Tree → Tree
  | ⟨kind, named, field, start, stop, children⟩ =>
    ⟨kind, named, field, total - start, total - stop, allFromStart total children⟩

def allFromStart (total : Nat) : List Tree → List Tree
  | [] => []
  | t :: ts => fromStart total t :: allFromStart total ts

end

/-- The syntax tree of a text. -/
def read (dialect : Dialect) (s : List Char) : Tree :=
  let total := byteSize s
  let statements :=
    statementsUpTo (.ofDepth dialect (2 * s.length + 2)) s.length (skipInterpreter s)
  ⟨"program", true, none, 0, total, allFromStart total statements⟩

end GapAudit.Reader
