import GapAudit.Decimal.Shortest

/-!
The two ways in which the shortest digits of a double are written out: in data, where a number
always shows a fraction or an exponent, and in messages, where it shows neither unless it must.
-/

namespace GapAudit.Decimal

/-- Digits with their trailing zeros moved into the power of ten. -/
def Digits.normal (d : Digits) : List Char × Int :=
  let written := Nat.toDigits 10 d.digits
  let kept := written.reverse.dropWhile (· == '0') |>.reverse
  if kept.isEmpty then (['0'], 0) else (kept, d.power + (written.length - kept.length : Nat))

/-- Digits in positional form; `mark` follows a whole value. -/
def positional (digits : List Char) (power : Int) (mark : List Char) : List Char :=
  if 0 ≤ power then
    digits ++ List.replicate power.toNat '0' ++ mark
  else
    let places := (-power).toNat
    let padded := digits.leftpad (places + 1) '0'
    padded.take (padded.length - places) ++ '.' :: padded.drop (padded.length - places)

/-- Digits in exponent form: one digit before the point and a sign on the exponent. -/
def exponential (digits : List Char) (power : Int) : List Char :=
  let exponent := power + digits.length - 1
  let sign := if exponent < 0 then '-' else '+'
  let head :=
    match digits with
    | [] => ['0']
    | [d] => [d]
    | d :: more => d :: '.' :: more
  head ++ 'e' :: sign :: Nat.toDigits 10 exponent.natAbs

/-- The text of a finite double in data: positional from `1e-5` up to, but not including, `1e16`,
and a whole value ends in `.0`. -/
def dataText (negative : Bool) (mantissa : Nat) (exponent : Int) : String :=
  let (digits, power) := (shortest mantissa exponent).normal
  let top := power + digits.length
  let body :=
    if digits == ['0'] || (-5 < top && top ≤ 16) then positional digits power ['.', '0']
    else exponential digits power
  String.ofList (if negative then '-' :: body else body)

/-- The text of a double in a message: never an exponent, and whole values without a point. -/
def plainText (x : Float) : String :=
  match Binary.ofFloat x with
  | .nan => "NaN"
  | .infinite negative => if negative then "-inf" else "inf"
  | .finite negative mantissa exponent =>
    let (digits, power) := (shortest mantissa exponent).normal
    let body := positional digits power []
    String.ofList (if negative then '-' :: body else body)

end GapAudit.Decimal
