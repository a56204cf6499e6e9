import GapAudit.Source.Character
import GapAudit.Source.Tree
import GapAudit.Text.Scan

/-!
The smallest parts of TypeScript source: blanks and comments, names, quoted texts, regular
expressions, numbers, and stretches between matching brackets. Each reader takes a text and gives
the rest that follows the part.
-/

namespace GapAudit.Reader

open Source Text

/-- Where a reader of separators stands. -/
inductive Separator where
  | blank
  | line
  | block

/-- The text after blanks and comments. -/
def skipSeparators : Separator → List Char → List Char
  | _, [] => []
  | .blank, '/' :: '/' :: s => skipSeparators .line s
  | .blank, '/' :: '*' :: s => skipSeparators .block s
  | .blank, c :: s => if isSpace c then skipSeparators .blank s else c :: s
  | .line, c :: s => if isLineEnd c then skipSeparators .blank s else skipSeparators .line s
  | .block, '*' :: '/' :: s => skipSeparators .blank s
  | .block, _ :: s => skipSeparators .block s

/-- The text after blanks and comments. -/
def trivia (s : List Char) : List Char :=
  skipSeparators .blank s

/-- The comments among the blanks and comments at the head of a text. Where a node stands is counted
in bytes from the end of the text while it is read; `start` is the place of the comment that is
being read. -/
def commentsFrom : Separator → (start : Nat) → List Char → List Tree
  | .blank, _, [] => []
  | .line, start, [] => [⟨"comment", true, none, start, 0, []⟩]
  | .block, start, [] => [⟨"comment", true, none, start, 0, []⟩]
  | .blank, _, '/' :: '/' :: s => commentsFrom .line (byteSize s + 2) s
  | .blank, _, '/' :: '*' :: s => commentsFrom .block (byteSize s + 2) s
  | .blank, _, c :: s => if isSpace c then commentsFrom .blank 0 s else []
  | .line, start, c :: s =>
    if isLineEnd c then
      ⟨"comment", true, none, start, byteSize (c :: s), []⟩ :: commentsFrom .blank 0 s
    else commentsFrom .line start s
  | .block, start, '*' :: '/' :: s =>
    ⟨"comment", true, none, start, byteSize s, []⟩ :: commentsFrom .blank 0 s
  | .block, start, _ :: s => commentsFrom .block start s

/-- Whether a line ends among the blanks and comments at the head of a text. -/
def breaksLine (s : List Char) : Bool :=
  (s.take (s.length - (trivia s).length)).any fun c => c == '\n' || c == '\u2028' || c == '\u2029'

def name? (s : List Char) : Option (List Char × List Char) :=
  match s with
  | c :: _ => if isNameStart c then some (spanWhile isNameChar s) else none
  | [] => none

/-- The text after a text in quotes whose opening quote is gone. -/
def skipQuoted? (quote : Char) : List Char → Option (List Char)
  | [] => none
  | '\\' :: _ :: s => skipQuoted? quote s
  | c :: s => if c == quote then some s else skipQuoted? quote s

/-- The text after a regular expression whose opening slash is gone; a slash within brackets does
not end it. -/
def skipPattern? : (inClass : Bool) → List Char → Option (List Char)
  | _, [] => none
  | inClass, '\\' :: _ :: s => skipPattern? inClass s
  | inClass, c :: s =>
    if isLineEnd c then none
    else if c == '[' then skipPattern? true s
    else if c == ']' then skipPattern? false s
    else if c == '/' && !inClass then some (s.dropWhile isNameChar)
    else skipPattern? inClass s

/-- The text after a number: letters and digits, points, and a sign after an exponent mark. -/
def skipNumber : (exponent : Bool) → List Char → List Char
  | _, [] => []
  | exponent, c :: s =>
    if isNameChar c || c == '.' then skipNumber (c == 'e' || c == 'E') s
    else if exponent && (c == '+' || c == '-') then skipNumber false s
    else c :: s

def startsNumber : List Char → Bool
  | '.' :: c :: _ => isAsciiDigit c
  | c :: _ => isAsciiDigit c
  | [] => false

/-- What a reader of bracketed text waits for: a closing bracket, or the end of a template. -/
inductive Awaited where
  | bracket (closing : Char)
  | template

/-- How a reader of bracketed text takes the next character. -/
inductive Reading where
  | code
  | line
  | block
  | quoted (quote : Char)

/-- The closing bracket that belongs to an opening one. -/
def closingOf? (c : Char) : Option Char :=
  if c == '(' then some ')'
  else if c == '[' then some ']'
  else if c == '\x7b' then some '\x7d'
  else if c == '<' then some '>'
  else none

/-- The text after a stretch of types in which everything awaited has come. -/
def skipBracketed? : Reading → List Awaited → List Char → Option (List Char)
  | .code, [], s => some s
  | _, _, [] => none
  | .line, stack, c :: s =>
    if isLineEnd c then skipBracketed? .code stack s else skipBracketed? .line stack s
  | .block, stack, '*' :: '/' :: s => skipBracketed? .code stack s
  | .block, stack, _ :: s => skipBracketed? .block stack s
  | .quoted q, stack, '\\' :: _ :: s => skipBracketed? (.quoted q) stack s
  | .quoted q, stack, c :: s =>
    if c == q then skipBracketed? .code stack s else skipBracketed? (.quoted q) stack s
  | .code, .template :: stack, '\\' :: _ :: s => skipBracketed? .code (.template :: stack) s
  | .code, .template :: stack, '\x60' :: s => skipBracketed? .code stack s
  | .code, .template :: stack, '$' :: '\x7b' :: s =>
    skipBracketed? .code (.bracket '\x7d' :: .template :: stack) s
  | .code, .template :: stack, _ :: s => skipBracketed? .code (.template :: stack) s
  | .code, stack, '/' :: '/' :: s => skipBracketed? .line stack s
  | .code, stack, '/' :: '*' :: s => skipBracketed? .block stack s
  -- an arrow closes no angle bracket
  | .code, stack, '=' :: '>' :: s => skipBracketed? .code stack s
  | .code, .bracket closing :: stack, c :: s =>
    if c == closing then skipBracketed? .code stack s
    else if c == '"' || c == '\'' then skipBracketed? (.quoted c) (.bracket closing :: stack) s
    else if c == '\x60' then skipBracketed? .code (.template :: .bracket closing :: stack) s
    else if [')', ']', '\x7d', '>'].contains c then none
    else
      match closingOf? c with
      | some inner => skipBracketed? .code (.bracket inner :: .bracket closing :: stack) s
      | none => skipBracketed? .code (.bracket closing :: stack) s

/-- The text after a stretch of types between brackets of the given kind. -/
def brackets? (opening : Char) (s : List Char) : Option (List Char) :=
  match trivia s, closingOf? opening with
  | c :: s, some closing =>
    if c == opening then skipBracketed? .code [.bracket closing] s else none
  | _, _ => none

end GapAudit.Reader
