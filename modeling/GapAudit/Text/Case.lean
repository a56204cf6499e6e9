import GapAudit.Text.Letter
import GapAudit.Text.Property.Case
import GapAudit.Text.Property.CaseMapping

/-!
Upper and lower case of characters and texts by the full Unicode mappings.
-/

namespace GapAudit.Text

/-- The image of a code point under the runs of a case mapping. -/
def imageInRuns (runs : Array (Nat × Nat × Nat × Nat)) (n : Nat) : Option Nat :=
  runs.findSome? fun (first, last, step, image) =>
    if first ≤ n && n ≤ last && (n - first) % step == 0 then some (image + (n - first)) else none

/-- The image of a character under a case mapping; a character that it does not list stays. -/
def caseImage (sequences : Array (Nat × List Nat)) (runs : Array (Nat × Nat × Nat × Nat))
    (c : Char) : List Char :=
  match sequences.find? (·.1 == c.toNat) with
  | some (_, image) => image.map Char.ofNat
  | none => [((imageInRuns runs c.toNat).map Char.ofNat).getD c]

/-- The lower-case form of a character, seen on its own. -/
def lowerChar (c : Char) : List Char :=
  if c.toNat < 0x80 then [c.toLower] else caseImage lowerSequences lowerRuns c

def upperChar (c : Char) : List Char :=
  if c.toNat < 0x80 then [c.toUpper] else caseImage upperSequences upperRuns c

/-- A character of upper, lower or title case. -/
def isCased (c : Char) : Bool :=
  if c.toNat < 0x80 then isAsciiLetter c else inRanges casedRanges c.toNat

/-- A character that is passed over when the neighbours of a sigma are inspected. -/
def isCaseIgnorable (c : Char) : Bool :=
  inRanges caseIgnorableRanges c.toNat

/-- Whether the first character that counts is a cased one. -/
def startsCased (s : List Char) : Bool :=
  match s.dropWhile isCaseIgnorable with
  | [] => false
  | c :: _ => isCased c

/-- The lower-case form of a text whose reversed past is given: a capital sigma at the end of a word
becomes the final sigma. -/
def lowerFrom (before : List Char) : List Char → List Char
  | [] => []
  | c :: rest =>
    let image :=
      if c == 'Σ' then (if startsCased before && !startsCased rest then ['ς'] else ['σ'])
      else lowerChar c
    image ++ lowerFrom (c :: before) rest

def lower (s : List Char) : List Char :=
  lowerFrom [] s

def capitalize : List Char → List Char
  | [] => []
  | c :: rest => upperChar c ++ rest

def lowercase (s : String) : String :=
  String.ofList (lower s.toList)

end GapAudit.Text
