import GapAudit.Text.Property.Alphabetic
import GapAudit.Text.Property.Mark
import GapAudit.Text.Property.Number

/-!
The classes of characters that make up words, names and numbers. Each class is decided directly on
ASCII and by the tables of Unicode properties elsewhere.
-/

namespace GapAudit.Text

def inRanges (ranges : Array (Nat × Nat)) (n : Nat) : Bool :=
  ranges.any fun (first, last) => first ≤ n && n ≤ last

def isAsciiDigit (c : Char) : Bool :=
  '0' ≤ c && c ≤ '9'

def isAsciiLower (c : Char) : Bool :=
  'a' ≤ c && c ≤ 'z'

def isAsciiUpper (c : Char) : Bool :=
  'A' ≤ c && c ≤ 'Z'

def isAsciiLetter (c : Char) : Bool :=
  isAsciiLower c || isAsciiUpper c

def isAsciiAlphanumeric (c : Char) : Bool :=
  isAsciiLetter c || isAsciiDigit c

/-- A decimal digit of any script. -/
def isDecimalDigit (c : Char) : Bool :=
  if c.toNat < 0x80 then isAsciiDigit c else inRanges decimalDigitRanges c.toNat

/-- A letter or a number of any script. -/
def isAlphanumeric (c : Char) : Bool :=
  if c.toNat < 0x80 then
    isAsciiAlphanumeric c
  else
    inRanges alphabeticRanges c.toNat || inRanges decimalDigitRanges c.toNat ||
      inRanges otherNumberRanges c.toNat

/-- The connector punctuation beyond the underscore, and the two joiners. -/
def isWordJoiner (n : Nat) : Bool :=
  n == 0x203f || n == 0x2040 || n == 0x2054 || n == 0xfe33 || n == 0xfe34 ||
    (0xfe4d ≤ n && n ≤ 0xfe4f) || n == 0xff3f || n == 0x200c || n == 0x200d

/-- A character of a word: a letter, a mark, a decimal digit, connector punctuation or a joiner. -/
def isWordChar (c : Char) : Bool :=
  if c.toNat < 0x80 then
    isAsciiAlphanumeric c || c == '_'
  else
    inRanges alphabeticRanges c.toNat || inRanges markRanges c.toNat ||
      inRanges decimalDigitRanges c.toNat || isWordJoiner c.toNat

/-- A character of an identifier as a reader sees one: a letter, a number, `_` or `$`. -/
def isIdentifierChar (c : Char) : Bool :=
  isAlphanumeric c || c == '_' || c == '$'

end GapAudit.Text
