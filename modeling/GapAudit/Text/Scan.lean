/-!
Reading a text from left to right: words at its head, splits, and the matches of a recogniser that
do not overlap.
-/

namespace GapAudit.Text

/-- What follows a word at the head of a text, if the text starts with it. -/
def after? : (word s : List Char) → Option (List Char)
  | [], s => some s
  | _ :: _, [] => none
  | w :: word, c :: s => if w == c then after? word s else none

/-- What follows the first of several words that stands at the head of a text. -/
def afterAny? (words : List (List Char)) (s : List Char) : Option (List Char) :=
  words.findSome? fun word => after? word s

def startsWith (word s : List Char) : Bool :=
  (after? word s).isSome

def endsWith (word s : List Char) : Bool :=
  startsWith word.reverse s.reverse

def occursIn (word : List Char) : List Char → Bool
  | [] => word.isEmpty
  | c :: s => startsWith word (c :: s) || occursIn word s

/-- The text before the first occurrence of a word and the text after it. -/
def splitFirst? (word : List Char) : List Char → Option (List Char × List Char)
  | [] => if word.isEmpty then some ([], []) else none
  | c :: s =>
    match after? word (c :: s) with
    | some rest => some ([], rest)
    | none => (splitFirst? word s).map fun (before, rest) => (c :: before, rest)

/-- The pieces of a text between the occurrences of a separating character; one piece more than
there are separators. -/
def splitAt (separator : Char) : List Char → List (List Char)
  | [] => [[]]
  | c :: s =>
    if c == separator then [] :: splitAt separator s
    else
      match splitAt separator s with
      | [] => [[c]]
      | piece :: pieces => (c :: piece) :: pieces

/-- The lines of a text. A line ends at a line feed, with a carriage return just before it dropped;
nothing after the last line feed is no line. -/
def lines (s : List Char) : List (List Char) :=
  let pieces := splitAt '\n' s
  let ended := pieces.dropLast.map fun line =>
    if line.getLast? == some '\r' then line.dropLast else line
  match pieces.getLast? with
  | none | some [] => ended
  | some last => ended ++ [last]

/-- The text of lines, each ended by a line feed. -/
def ofLines (lines : List String) : String :=
  String.join (lines.map (· ++ "\n"))

/-- The matches of a recogniser from left to right, none overlapping the one before it. The
recogniser sees the character before the place it is tried at and gives what it found together with
the text that follows; the first `skip` characters belong to the match before. -/
def scanFrom {α : Type} (find : Option Char → List Char → Option (α × List Char)) :
    (skip : Nat) → Option Char → List Char → List α
  | _, _, [] => []
  | skip + 1, _, c :: s => scanFrom find skip (some c) s
  | 0, before, c :: s =>
    match find before (c :: s) with
    | some (found, rest) => found :: scanFrom find (s.length - rest.length) (some c) s
    | none => scanFrom find 0 (some c) s

/-- The matches of a recogniser in a whole text. -/
def scan {α : Type} (find : Option Char → List Char → Option (α × List Char)) (s : List Char) :
    List α :=
  scanFrom find 0 none s

/-- The first place of a text where a recogniser succeeds. -/
def searchFrom {α : Type} (find : Option Char → List Char → Option α) :
    Option Char → List Char → Option α
  | before, [] => find before []
  | before, c :: s =>
    match find before (c :: s) with
    | some found => some found
    | none => searchFrom find (some c) s

/-- What a recogniser finds at the first place of a whole text where it succeeds. -/
def search? {α : Type} (find : Option Char → List Char → Option α) (s : List Char) : Option α :=
  searchFrom find none s

/-- Whether a recogniser succeeds somewhere in a text. -/
def occursWhere (find : Option Char → List Char → Bool) (s : List Char) : Bool :=
  (search? (fun before rest => if find before rest then some () else none) s).isSome

/-- Every way of splitting a text in two, the shortest first part first. -/
def splits : List Char → List (List Char × List Char)
  | [] => [([], [])]
  | c :: s => ([], c :: s) :: (splits s).map fun (before, rest) => (c :: before, rest)

def spanWhile (p : Char → Bool) (s : List Char) : List Char × List Char :=
  (s.takeWhile p, s.dropWhile p)

end GapAudit.Text
