import GapAudit.Decimal.Binary

/-!
Decimal text with a fixed number of places: the exact value goes to the nearest multiple of the last
place, and a half goes to the even neighbour.
-/

namespace GapAudit.Decimal

/-- The whole number nearest to `num / den`; of two equally near ones the even one. -/
def roundHalfEven (num den : Nat) : Nat :=
  let whole := num / den
  let twice := 2 * (num % den)
  if twice < den then whole
  else if den < twice then whole + 1
  else whole + whole % 2

/-- A whole number with a point before its last `places` digits. -/
def pointed (n places : Nat) : String :=
  if places == 0 then toString n
  else
    let digits := (Nat.toDigits 10 n).leftpad (places + 1) '0'
    let whole := digits.take (digits.length - places)
    String.ofList (whole ++ '.' :: digits.drop (digits.length - places))

/-- The text of `num / den` with a fixed number of places. -/
def fixedRatio (places num den : Nat) : String :=
  pointed (roundHalfEven (num * Nat.pow 10 places) den) places

/-- The text of a double with a fixed number of places; a negative zero keeps its sign. -/
def fixed (places : Nat) (x : Float) : String :=
  match Binary.ofFloat x with
  | .nan => "NaN"
  | .infinite negative => if negative then "-inf" else "inf"
  | .finite negative mantissa exponent =>
    let (num, den) := fraction mantissa exponent
    (if negative then "-" else "") ++ fixedRatio places num den

end GapAudit.Decimal
