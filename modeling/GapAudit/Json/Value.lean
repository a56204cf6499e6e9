/-!
JSON values as the reader finds them and as the printer writes them.
-/

namespace GapAudit

/-- A number of a JSON text: a whole number within 64 bits, or a double. A number too large for a
double is read as an infinity, which no text denotes and no field accepts. -/
inductive Json.Number where
  | whole (n : Int)
  | real (x : Float)

/-- A JSON value. Texts and keys are missing where an escape names half of a surrogate pair; such a
text may stand only where nothing reads it. Objects keep their members in written order. -/
inductive Json where
  | null
  | bool (b : Bool)
  | number (n : Json.Number)
  | string (s : Option String)
  | array (items : List Json)
  | object (members : List (Option String × Json))

namespace Json

def ofString (s : String) : Json :=
  .string (some s)

def ofNat (n : Nat) : Json :=
  .number (.whole n)

def ofFloat (x : Float) : Json :=
  .number (.real x)

def ofList {α : Type} (encode : α → Json) (xs : List α) : Json :=
  .array (xs.map encode)

def ofMembers (members : List (String × Json)) : Json :=
  .object (members.map fun (key, value) => (some key, value))

def toBool? : Json → Option Bool
  | .bool b => some b
  | _ => none

def toString? : Json → Option String
  | .string s => s
  | _ => none

/-- Two to the power of 63, where numbers of 64 bits with a sign end. -/
def signedLimit : Nat := 9223372036854775808

/-- Two to the power of 64, where numbers of 64 bits without a sign end. -/
def wordLimit : Nat := 18446744073709551616

/-- A whole number of 64 bits without a sign. -/
def toCount? : Json → Option Nat
  | .number (.whole n) => if 0 ≤ n && n < wordLimit then some n.toNat else none
  | _ => none

/-- A whole number of 64 bits with a sign. -/
def toInt64? : Json → Option Int
  | .number (.whole n) => if -(signedLimit : Int) ≤ n && n < signedLimit then some n else none
  | _ => none

/-- A double; whole numbers count as doubles too. -/
def toFloat? : Json → Option Float
  | .number (.whole n) =>
    let x := (UInt64.ofNat n.natAbs).toFloat
    some (if n < 0 then -x else x)
  | .number (.real x) => if x.isFinite then some x else none
  | _ => none

def toList? {α : Type} (decode : Json → Option α) : Json → Option (List α)
  | .array items => items.mapM decode
  | _ => none

/-- The members of an object whose keys are all readable. -/
def toMembers? : Json → Option (List (String × Json))
  | .object members => members.mapM fun (key, value) => key.map (·, value)
  | _ => none

/-- The values of the named fields of a record. A record is an object, whose unknown members are
passed over and whose known ones may not be repeated, or an array of the fields in their order,
which may stop early but not go on. -/
def toFields? (names : List String) (record : Json) : Option (List (Option Json)) :=
  match record with
  | .object _ => do
    let members ← record.toMembers?
    names.mapM fun name =>
      match members.filter (·.1 == name) with
      | [] => some none
      | [(_, value)] => some (some value)
      | _ => none
  | .array items =>
    if items.length ≤ names.length then
      some (items.map some ++ List.replicate (names.length - items.length) none)
    else none
  | _ => none

end Json

end GapAudit
