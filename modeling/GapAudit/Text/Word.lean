import GapAudit.Text.Blank
import GapAudit.Text.Letter
import GapAudit.Text.Scan

/-!
Words and names at the head of a text.
-/

namespace GapAudit.Text

/-- What follows one of several words at the head of a text, unless it is joined to the character
before it. -/
def wordAfter? (before : Option Char) (words : List (List Char)) (s : List Char) :
    Option (List Char) :=
  if before.any isWordChar then none else afterAny? words s

/-- What follows the blanks at the head of a text, of which there is at least one. -/
def afterBlanks? (s : List Char) : Option (List Char) :=
  if s.head?.any isBlank then some (trimStart s) else none

/-- The first character of a name: an ASCII letter, `_` or `$`. -/
def startsName (c : Char) : Bool :=
  isAsciiLetter c || c == '_' || c == '$'

def nameAt? (s : List Char) : Option (List Char × List Char) :=
  if s.head?.any startsName then some (spanWhile (fun c => isWordChar c || c == '$') s) else none

end GapAudit.Text
