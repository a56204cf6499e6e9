import GapAudit.Text.Blank
import GapAudit.Text.Letter

/-!
The characters of TypeScript source: blanks, ends of lines, punctuation, names and quotes.
-/

namespace GapAudit.Source

open Text

def isSpace (c : Char) : Bool :=
  isBlank c || c == '\ufeff' || c == '\u2060' || c == '\u200b'

def isLineEnd (c : Char) : Bool :=
  c == '\n' || c == '\r' || c == '\u2028' || c == '\u2029'

/-- The punctuation that no name contains. -/
def isPunctuation (c : Char) : Bool :=
  [':', ';', '\x60', '"', '\'', '@', '#', '.', ',', '|', '^', '&', '<', '=', '>', '+', '-', '*',
    '/', '%', '?', '!', '~', '(', ')', '[', ']', '\x7b', '\x7d'].contains c

/-- A character of a name. A backslash stands for an escape within a name. -/
def isNameChar (c : Char) : Bool :=
  0x20 ≤ c.toNat && !isSpace c && !isPunctuation c

def isNameStart (c : Char) : Bool :=
  isNameChar c && !isAsciiDigit c

def isQuote (c : Char) : Bool :=
  c == '"' || c == '\'' || c == '\x60'

/-- A text without any quotes at its ends. -/
def stripQuotes (s : List Char) : List Char :=
  trimWhile isQuote s

end GapAudit.Source
