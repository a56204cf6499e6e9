import GapAudit.Text.Blank
import GapAudit.Text.Letter
import GapAudit.Text.Scan

/-!
Diagnostics of a type checker, read from its output in both of the forms it has.
-/

namespace GapAudit

open Text

/-- One diagnostic. The code keeps its letters. -/
structure Diagnostic where
  file : String
  line : Nat
  category : String
  code : String
  message : String
  deriving DecidableEq, Repr

namespace Diagnostic

def isInformational (d : Diagnostic) : Bool :=
  d.category == "message"

/-- Whether a diagnostic is a problem of the project itself: it does not only inform, and it is not
about installed packages. -/
def isProblem (d : Diagnostic) : Bool :=
  !d.isInformational && !occursIn "node_modules".toList d.file.toList

/-- Digits at the head of a text, at least one, and the rest. -/
def someDigits? (s : List Char) : Option (List Char × List Char) :=
  let (ds, rest) := spanWhile isDecimalDigit s
  if ds.isEmpty then none else some (ds, rest)

/-- The text behind blanks, of which there is at least one. -/
def someBlanks? (s : List Char) : Option (List Char) :=
  if s.head?.any isBlank then some (trimStart s) else none

/-- The number that digits denote; 0 where it does not fit into 64 bits or is not in ASCII. -/
def lineNumber (ds : List Char) : Nat :=
  if ds.all isAsciiDigit then
    let n := ds.foldl (fun n c => n * 10 + (c.toNat - '0'.toNat)) 0
    if n < 18446744073709551616 then n else 0
  else 0

def categories : List (List Char) :=
  ["error", "warning", "message"].map String.toList

/-- What follows the place of a diagnostic: category, code and message. -/
def body? (s : List Char) : Option (String × String × String) := do
  let category ← categories.find? fun category => startsWith category s
  let s ← after? category s
  let s ← someBlanks? s
  let s ← after? ['T', 'S'] s
  let (digits, s) ← someDigits? s
  let s ← after? [':'] s
  some (String.ofList category, String.ofList ('T' :: 'S' :: digits),
    String.ofList (trimStart s))

/-- A place in parentheses, such as `(12,5):`, with its line, and what follows it. -/
def plainPlace? (s : List Char) : Option (Nat × List Char) := do
  let s ← after? ['('] s
  let (line, s) ← someDigits? s
  let s ← after? [','] s
  let (_, s) ← someDigits? s
  let s ← after? [')', ':'] s
  let s ← someBlanks? s
  some (lineNumber line, s)

/-- A place between colons, such as `:12:5 -`, with its line, and what follows it. -/
def prettyPlace? (s : List Char) : Option (Nat × List Char) := do
  let s ← after? [':'] s
  let (line, s) ← someDigits? s
  let s ← after? [':'] s
  let (_, s) ← someDigits? s
  let s ← someBlanks? s
  let s ← after? ['-'] s
  let s ← someBlanks? s
  some (lineNumber line, s)

/-- The diagnostic of a line whose place has the given form: the file is the shortest text, not
empty, behind which place and body stand. -/
def ofLineWith? (place? : List Char → Option (Nat × List Char)) (line : List Char) :
    Option Diagnostic :=
  (splits line).findSome? fun (file, rest) => do
    if file.isEmpty then none
    let (number, rest) ← place? rest
    let (category, code, message) ← body? rest
    some ⟨String.ofList (trim file), number, category, code, message⟩

/-- The diagnostic of a line, if it has one of the two forms. -/
def ofLine? (line : List Char) : Option Diagnostic :=
  let line := trimEnd line
  ofLineWith? plainPlace? line <|> ofLineWith? prettyPlace? line

/-- The diagnostics of an output; lines of other forms are passed over. -/
def ofOutput (output : String) : List Diagnostic :=
  (lines output.toList).filterMap ofLine?

end Diagnostic

end GapAudit
