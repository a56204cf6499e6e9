import GapAudit.Text.Scan

/-!
Scalars of YAML: the text of plain, quoted and block scalars with its lines folded, and where each
of them ends.
-/

namespace GapAudit.Yaml

structure Position where
  line : Nat := 0
  column : Nat := 0
  index : Nat := 0
  deriving DecidableEq, Repr

/-- A line break. Breaks other than these two and the line feed are written as line feeds before a
text is read. -/
def isBreak (c : Char) : Bool :=
  c == '\n' || c == '\u2028' || c == '\u2029'

def isGap (c : Char) : Bool :=
  c == ' ' || c == '\t'

def endsWord (next : Option Char) : Bool :=
  next.all fun c => isGap c || isBreak c

def Position.after (pos : Position) (c : Char) : Position :=
  if isBreak c then ⟨pos.line + 1, 0, pos.index + 1⟩
  else { pos with column := pos.column + 1, index := pos.index + 1 }

def Position.skip (pos : Position) (count : Nat) : Position :=
  { pos with column := pos.column + count, index := pos.index + count }

/-- Whether a text starts with three times the same character as a word of its own. -/
def startsTriple (c : Char) (s : List Char) : Bool :=
  match Text.after? [c, c, c] s with
  | some rest => endsWord rest.head?
  | none => false

/-- Whether a line begins with the mark between documents or the mark behind one. -/
def startsMark (pos : Position) (s : List Char) : Bool :=
  pos.column == 0 && (startsTriple '-' s || startsTriple '.' s)

/-- White space between two words of a scalar: blanks on one line, or line breaks, of which the
first is kept apart. The lists have the latest character first. -/
structure Folding where
  blanks : List Char := []
  broken : Bool := false
  first : Option Char := none
  more : List Char := []
  deriving DecidableEq, Repr

namespace Folding

/-- The white space with one more character. Blanks around a line break do not count. -/
def add (f : Folding) (c : Char) : Folding :=
  if isBreak c then
    if f.broken then { f with more := c :: f.more }
    else { blanks := [], broken := true, first := some c, more := f.more }
  else if f.broken then f
  else { f with blanks := c :: f.blanks }

def isPresent (f : Folding) : Bool :=
  f.broken || !f.blanks.isEmpty

/-- What stands for the white space in the text: blanks themselves, a space for a single line feed,
and otherwise the line breaks behind the first line feed. -/
def text (f : Folding) : List Char :=
  if f.broken then
    match f.first with
    | some '\n' => if f.more.isEmpty then [' '] else f.more.reverse
    | some c => c :: f.more.reverse
    | none => f.more.reverse
  else f.blanks.reverse

/-- A text, its latest character first, with the white space behind it. -/
def onto (f : Folding) (reversed : List Char) : List Char :=
  f.text.reverse ++ reversed

end Folding

/-- A plain scalar as far as it is read, its latest character first, and the white space behind. -/
structure PlainScalar where
  reversed : List Char := []
  folding : Folding := {}

def isFlowIndicator (c : Char) : Bool :=
  [',', '[', ']', '\x7b', '\x7d'].contains c

/-- The rest of a plain scalar. Outside brackets its lines must be indented by at least `indent`. -/
def plainFrom (flow : Bool) (indent : Int) :
    PlainScalar → Position → List Char → Option (PlainScalar × Position × List Char)
  | scalar, pos, [] => some (scalar, pos, [])
  | scalar, pos, c :: s =>
    let folding := scalar.folding
    if isGap c || isBreak c then
      if folding.broken && c == '\t' && (pos.column : Int) < indent then none
      else plainFrom flow indent { scalar with folding := folding.add c } (pos.after c) s
    else if folding.isPresent &&
        ((!flow && (pos.column : Int) < indent) || startsMark pos (c :: s) || c == '#') then
      some (scalar, pos, c :: s)
    else if flow && c == ':' && s.head?.any (fun next => next == '?' || isFlowIndicator next) then
      none
    else if (c == ':' && endsWord s.head?) || (flow && isFlowIndicator c) then
      some (scalar, pos, c :: s)
    else plainFrom flow indent ⟨c :: folding.onto scalar.reversed, {}⟩ (pos.after c) s

/-- The text up to the closing single quote, latest character first; two quotes stand for one. -/
def singleQuotedFrom : (reversed : List Char) → Folding → Position → List Char →
    Option (List Char × Position × List Char)
  | _, _, _, [] => none
  | reversed, folding, pos, c :: s =>
    if isGap c || isBreak c then singleQuotedFrom reversed (folding.add c) (pos.after c) s
    else if startsMark pos (c :: s) then none
    else
      let reversed := folding.onto reversed
      if c == '\'' then
        match s with
        | '\'' :: rest => singleQuotedFrom ('\'' :: reversed) {} (pos.skip 2) rest
        | rest => some (reversed, pos.skip 1, rest)
      else singleQuotedFrom (c :: reversed) {} (pos.skip 1) s

/-- How far an escape in a double-quoted scalar is read. -/
inductive Escape where
  | outside
  | opened
  | digits (left value : Nat)

def escapedChar? (c : Char) : Option Char :=
  [('0', '\x00'), ('a', '\x07'), ('b', '\x08'), ('t', '\t'), ('\t', '\t'), ('n', '\n'),
    ('v', '\x0b'), ('f', '\x0c'), ('r', '\r'), ('e', '\x1b'), (' ', ' '), ('"', '"'), ('/', '/'),
    ('\\', '\\'), ('N', '\u0085'), ('_', '\u00a0'), ('L', '\u2028'), ('P', '\u2029')].lookup c

def escapeLength? (c : Char) : Option Nat :=
  [('x', 2), ('u', 4), ('U', 8)].lookup c

def hexDigit? (c : Char) : Option Nat :=
  if '0' ≤ c && c ≤ '9' then some (c.toNat - '0'.toNat)
  else if 'a' ≤ c && c ≤ 'f' then some (c.toNat - 'a'.toNat + 10)
  else if 'A' ≤ c && c ≤ 'F' then some (c.toNat - 'A'.toNat + 10)
  else none

def charOfNat? (n : Nat) : Option Char :=
  if n < 0xd800 || (0xdfff < n && n ≤ 0x10ffff) then some (Char.ofNat n) else none

/-- The text up to the closing double quote, latest character first. -/
def doubleQuotedFrom : Escape → (reversed : List Char) → Folding → Position → List Char →
    Option (List Char × Position × List Char)
  | _, _, _, _, [] => none
  | .outside, reversed, folding, pos, c :: s =>
    if isGap c || isBreak c then doubleQuotedFrom .outside reversed (folding.add c) (pos.after c) s
    else if startsMark pos (c :: s) then none
    else
      let reversed := folding.onto reversed
      if c == '"' then some (reversed, pos.skip 1, s)
      else if c == '\\' then doubleQuotedFrom .opened reversed {} (pos.skip 1) s
      else doubleQuotedFrom .outside (c :: reversed) {} (pos.skip 1) s
  | .opened, reversed, _, pos, c :: s =>
    -- an escaped break joins two lines and drops the blanks of the second
    if isBreak c then doubleQuotedFrom .outside reversed { broken := true } (pos.after c) s
    else
      match escapedChar? c, escapeLength? c with
      | some char, _ => doubleQuotedFrom .outside (char :: reversed) {} (pos.skip 1) s
      | none, some length => doubleQuotedFrom (.digits length 0) reversed {} (pos.skip 1) s
      | none, none => none
  | .digits left value, reversed, _, pos, c :: s =>
    match hexDigit? c with
    | none => none
    | some digit =>
      let value := value * 16 + digit
      if left ≤ 1 then
        match charOfNat? value with
        | none => none
        | some char => doubleQuotedFrom .outside (char :: reversed) {} (pos.skip 1) s
      else doubleQuotedFrom (.digits (left - 1) value) reversed {} (pos.skip 1) s

/-- What becomes of the line breaks behind a block scalar: all dropped, one kept, or all kept. -/
inductive Chomping where
  | strip
  | clip
  | keep
  deriving DecidableEq, Repr

/-- A block scalar as far as it is read. -/
structure BlockScalar where
  /-- Whether the line breaks stay as they are. -/
  literal : Bool
  chomping : Chomping
  /-- The indentation of the block around. -/
  outer : Int
  /-- The indentation of the lines, once it is known. -/
  indent : Option Nat
  /-- The text, latest character first. -/
  reversed : List Char := []
  /-- The break behind the last line that is not empty. -/
  lineBreak : Option Char := none
  /-- The breaks of empty lines, latest first. -/
  emptyLines : List Char := []
  /-- Whether the last line that is not empty starts with a blank. -/
  startsBlank : Bool := false
  /-- The widest indentation of the empty lines at the start. -/
  widest : Nat := 0
  /-- Whether a line is being read, and not its indentation. -/
  inLine : Bool := false

namespace BlockScalar

/-- The indentation of the lines, which the first line that is not empty determines. -/
def indentation (b : BlockScalar) : Nat :=
  b.indent.getD (max (max b.widest (b.outer + 1).toNat) 1)

/-- Whether a column belongs to the indentation of a line. -/
def inIndentation (b : BlockScalar) (column : Nat) : Bool :=
  b.indent.all (column < ·)

/-- The scalar at the first character of a line that is not empty: the breaks before the line are
put into the text. Between two lines of a folded scalar without blanks at their starts, a single
line feed becomes a space. -/
def startLine (b : BlockScalar) (c : Char) : BlockScalar :=
  let folds := !b.literal && b.lineBreak == some '\n' && !b.startsBlank && !isGap c
  let before := if folds then (if b.emptyLines.isEmpty then [' '] else []) else b.lineBreak.toList
  { b with
    reversed := c :: (b.emptyLines ++ before.reverse ++ b.reversed)
    lineBreak := none, emptyLines := [], startsBlank := isGap c, inLine := true }

def finish (b : BlockScalar) : List Char :=
  let lineBreak := if b.chomping = .strip then [] else b.lineBreak.toList
  let emptyLines := if b.chomping = .keep then b.emptyLines.reverse else []
  b.reversed.reverse ++ lineBreak ++ emptyLines

/-- The lines of a block scalar, from the start of a line or from within one. -/
def linesFrom : BlockScalar → Position → List Char → Option (List Char × Position × List Char)
  | b, pos, [] => some (b.finish, pos, [])
  | b, pos, c :: s =>
    if b.inLine then
      if isBreak c then linesFrom { b with lineBreak := some c, inLine := false } (pos.after c) s
      else linesFrom { b with reversed := c :: b.reversed } (pos.after c) s
    else if c == ' ' && b.inIndentation pos.column then linesFrom b (pos.after c) s
    else if c == '\t' && b.inIndentation pos.column then none
    else
      let b := { b with widest := max b.widest pos.column }
      if isBreak c then linesFrom { b with emptyLines := c :: b.emptyLines } (pos.after c) s
      else if pos.column == b.indentation then
        linesFrom ({ b with indent := some b.indentation }.startLine c) (pos.after c) s
      else some (b.finish, pos, c :: s)

end BlockScalar

/-- A digit from 1 to 9 at the head of a text, if there is a digit; 0 is refused. -/
def indentDigit? : List Char → Option (Option Nat × List Char)
  | [] => some (none, [])
  | c :: s =>
    if c == '0' then none
    else if '1' ≤ c && c ≤ '9' then some (some (c.toNat - '0'.toNat), s)
    else some (none, c :: s)

def chompingSign : List Char → Option Chomping × List Char
  | '+' :: s => (some .keep, s)
  | '-' :: s => (some .strip, s)
  | s => (none, s)

/-- The signs of chomping and indentation behind the indicator of a block scalar, in any order. -/
def blockHeader? (s : List Char) : Option (Chomping × Option Nat × List Char) := do
  match chompingSign s with
  | (some chomping, s) =>
    let (indent, s) ← indentDigit? s
    some (chomping, indent, s)
  | (none, s) =>
    let (indent, s) ← indentDigit? s
    if indent.isNone then some (.clip, none, s)
    else
      let (chomping, s) := chompingSign s
      some (chomping.getD .clip, indent, s)

/-- What follows the end of a line that holds blanks or a comment only. -/
def lineEnd? (pos : Position) (s : List Char) : Option (Position × List Char) :=
  let (blanks, s) := Text.spanWhile isGap s
  let (comment, s) :=
    if s.head? == some '#' then Text.spanWhile (fun c => !isBreak c) s else ([], s)
  let pos := pos.skip (blanks.length + comment.length)
  match s with
  | [] => some (pos, [])
  | c :: rest => if isBreak c then some (pos.after c, rest) else none

/-- A block scalar behind its indicator, in a block of the given indentation. -/
def block? (literal : Bool) (outer : Int) (pos : Position) (s : List Char) :
    Option (List Char × Position × List Char) := do
  let (chomping, increment, rest) ← blockHeader? s
  let (pos, rest) ← lineEnd? (pos.skip (s.length - rest.length)) rest
  let indent := increment.map fun n => (if 0 ≤ outer then outer + n else n).toNat
  BlockScalar.linesFrom { literal, chomping, outer, indent } pos rest

end GapAudit.Yaml
