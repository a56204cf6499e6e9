import GapAudit.Json.Value
import GapAudit.Text.Scan
import GapAudit.Text.Letter

/-!
Reading of JSON texts, strictly by the grammar: nothing may follow the value, numbers have no
leading zeros, and texts hold no control characters.
-/

namespace GapAudit.Json.Reader

open Text

/-- The text after the white space that JSON admits between tokens. -/
def skipBlanks (s : List Char) : List Char :=
  s.dropWhile fun c => c == ' ' || c == '\n' || c == '\t' || c == '\r'

def hexValue? (c : Char) : Option Nat :=
  if isAsciiDigit c then some (c.toNat - '0'.toNat)
  else if 'a' ≤ c && c ≤ 'f' then some (c.toNat - 'a'.toNat + 10)
  else if 'A' ≤ c && c ≤ 'F' then some (c.toNat - 'A'.toNat + 10)
  else none

def hexUnit? : List Char → Option (Nat × List Char)
  | a :: b :: c :: d :: s => do
    let a ← hexValue? a
    let b ← hexValue? b
    let c ← hexValue? c
    let d ← hexValue? d
    some (a * 4096 + b * 256 + c * 16 + d, s)
  | _ => none

/-- The character that a letter stands for after a backslash. -/
def escaped? (c : Char) : Option Char :=
  if c == '"' || c == '\\' || c == '/' then some c
  else if c == 'b' then some '\x08'
  else if c == 'f' then some '\x0c'
  else if c == 'n' then some '\n'
  else if c == 'r' then some '\r'
  else if c == 't' then some '\t'
  else none

/-- A unit of a text: a character, half of a surrogate pair, or the closing quote. -/
inductive Piece where
  | char (c : Char)
  | half (unit : Nat)
  | close

def piece? : List Char → Option (Piece × List Char)
  | [] => none
  | '"' :: s => some (.close, s)
  | '\\' :: 'u' :: s => do
    let (unit, rest) ← hexUnit? s
    if 0xd800 ≤ unit && unit < 0xe000 then some (.half unit, rest)
    else some (.char (Char.ofNat unit), rest)
  | '\\' :: c :: s => (escaped? c).map fun c => (.char c, s)
  | c :: s => if c.toNat < 0x20 then none else some (.char c, s)

def pieces? : Nat → List Char → Option (List Piece × List Char)
  | 0, _ => none
  | fuel + 1, s => do
    match ← piece? s with
    | (.close, rest) => some ([], rest)
    | (p, rest) =>
      let (more, rest) ← pieces? fuel rest
      some (p :: more, rest)

/-- The characters that units stand for; two halves of a surrogate pair are one character, and a
half alone is none. -/
def charsOf? : List Piece → Option (List Char)
  | [] => some []
  | .char c :: more => (charsOf? more).map (c :: ·)
  | .close :: more => charsOf? more
  | .half high :: .half low :: more =>
    if high < 0xdc00 && 0xdc00 ≤ low then
      (charsOf? more).map (Char.ofNat (0x10000 + (high - 0xd800) * 1024 + (low - 0xdc00)) :: ·)
    else none
  | .half _ :: _ => none

/-- A text after its opening quote. -/
def string? (s : List Char) : Option (Option String × List Char) :=
  (pieces? (s.length + 1) s).map fun (pieces, rest) =>
    ((charsOf? pieces).map String.ofList, rest)

/-- The digits that a number is read from: a whole number of 64 bits, the power of ten it is
multiplied by, and whether digits that did not fit were left out. -/
structure Significand where
  value : Nat
  power : Int
  full : Bool

/-- One more digit before the point. Digits that do not fit count as zeros. -/
def Significand.wholeDigit (a : Significand) (d : Nat) : Significand :=
  if a.full then ⟨a.value, a.power + 1, true⟩
  else if a.value * 10 + d < wordLimit then ⟨a.value * 10 + d, a.power, false⟩
  else ⟨a.value, a.power + 1, true⟩

/-- One more digit after the point. From the first one that does not fit on they are left out. -/
def Significand.placeDigit (a : Significand) (d : Nat) : Significand :=
  if !a.full && a.value * 10 + d < wordLimit then ⟨a.value * 10 + d, a.power - 1, false⟩
  else ⟨a.value, a.power, true⟩

/-- The digits at the head of a text as numbers, and the rest. -/
def digits (s : List Char) : List Nat × List Char :=
  let (ds, rest) := spanWhile isAsciiDigit s
  (ds.map fun c => c.toNat - '0'.toNat, rest)

/-- A double scaled by a power of ten: one multiplication or division by an exact power where there
is one, and steps of `1e308` below that. -/
def scaled (x : Float) : (steps : Nat) → (power : Int) → Float
  | 0, _ => x
  | steps + 1, power =>
    if power.natAbs ≤ 308 then
      if 0 ≤ power then x * Float.ofScientific 1 false power.natAbs
      else x / Float.ofScientific 1 false power.natAbs
    else if x == 0 then x
    else if 0 ≤ power then 1 / 0
    else scaled (x / 1e308) steps (power + 308)

def realOf (negative : Bool) (a : Significand) (exponent : Int) : Float :=
  let x := scaled (Float.ofNat a.value) 4 (a.power + exponent)
  if negative then -x else x

/-- The exponent at the head of a text: nothing, or a mark, a sign and digits. -/
def exponent? (s : List Char) : Option (Option Int × List Char) :=
  match s with
  | c :: s =>
    if c == 'e' || c == 'E' then
      let (negative, s) :=
        match s with
        | '-' :: s => (true, s)
        | '+' :: s => (false, s)
        | s => (false, s)
      match digits s with
      | ([], _) => none
      | (ds, rest) =>
        let size : Nat := ds.foldl (fun n d => min (n * 10 + d) 10000000000) 0
        some (some (if negative then -(size : Int) else size), rest)
    else some (none, c :: s)
  | [] => some (none, [])

def fraction? (s : List Char) : Option (Option (List Nat) × List Char) :=
  match s with
  | '.' :: s =>
    match digits s with
    | ([], _) => none
    | (ds, rest) => some (some ds, rest)
  | s => some (none, s)

/-- A number after its sign. -/
def unsigned? (negative : Bool) (s : List Char) : Option (Number × List Char) := do
  let (ds, rest) := digits s
  match ds with
  | [] => none
  | 0 :: _ :: _ => none
  | _ =>
    let wholePart := ds.foldl Significand.wholeDigit ⟨0, 0, false⟩
    let (places, rest) ← fraction? rest
    let (exponent, rest) ← exponent? rest
    match places, exponent with
    | none, none =>
      if wholePart.full then some (.real (realOf negative wholePart 0), rest)
      else if !negative then some (.whole wholePart.value, rest)
      -- there is no whole number for minus zero
      else if wholePart.value == 0 || signedLimit < wholePart.value then
        some (.real (realOf true wholePart 0), rest)
      else some (.whole (-wholePart.value), rest)
    | places, exponent =>
      -- a smaller digit may fit behind the point where one before it did not
      let start := { wholePart with full := false }
      let all := (places.getD []).foldl Significand.placeDigit start
      some (.real (realOf negative all (exponent.getD 0)), rest)

def number? (s : List Char) : Option (Number × List Char) :=
  match s with
  | '-' :: s => unsigned? true s
  | s => unsigned? false s

mutual

def value? : Nat → List Char → Option (Json × List Char)
  | 0, _ => none
  | fuel + 1, s =>
    match s with
    | '"' :: s => (string? s).map fun (text, rest) => (.string text, rest)
    | '[' :: s =>
      match skipBlanks s with
      | ']' :: rest => some (.array [], rest)
      | s => (items? fuel s).map fun (items, rest) => (.array items, rest)
    | '\x7b' :: s =>
      match skipBlanks s with
      | '\x7d' :: rest => some (.object [], rest)
      | s => (members? fuel s).map fun (members, rest) => (.object members, rest)
    | s =>
      match after? ['n', 'u', 'l', 'l'] s, after? ['t', 'r', 'u', 'e'] s,
        after? ['f', 'a', 'l', 's', 'e'] s with
      | some rest, _, _ => some (.null, rest)
      | _, some rest, _ => some (.bool true, rest)
      | _, _, some rest => some (.bool false, rest)
      | _, _, _ => (number? s).map fun (n, rest) => (.number n, rest)

/-- The items of an array up to its closing bracket; there is at least one. -/
def items? : Nat → List Char → Option (List Json × List Char)
  | 0, _ => none
  | fuel + 1, s => do
    let (item, rest) ← value? fuel (skipBlanks s)
    match skipBlanks rest with
    | ']' :: rest => some ([item], rest)
    | ',' :: rest =>
      let (items, rest) ← items? fuel rest
      some (item :: items, rest)
    | _ => none

/-- The members of an object up to its closing brace; there is at least one. -/
def members? : Nat → List Char → Option (List (Option String × Json) × List Char)
  | 0, _ => none
  | fuel + 1, s => do
    match skipBlanks s with
    | '"' :: s =>
      let (key, rest) ← string? s
      match skipBlanks rest with
      | ':' :: rest =>
        let (value, rest) ← value? fuel (skipBlanks rest)
        match skipBlanks rest with
        | '\x7d' :: rest => some ([(key, value)], rest)
        | ',' :: rest =>
          let (members, rest) ← members? fuel rest
          some ((key, value) :: members, rest)
        | _ => none
      | _ => none
    | _ => none

end

end Reader

def parse? (s : String) : Option Json := do
  let chars := s.toList
  let (value, rest) ← Reader.value? (2 * chars.length + 2) (Reader.skipBlanks chars)
  if (Reader.skipBlanks rest).isEmpty then some value else none

end GapAudit.Json
