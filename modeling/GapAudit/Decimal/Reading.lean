import GapAudit.Decimal.Binary
import GapAudit.Text.Letter
import GapAudit.Text.Scan

/-!
Reading decimal numbers as doubles: the nearest double to the exact value, and of two equally near
ones the one with an even mantissa.
-/

namespace GapAudit.Decimal

open Text

/-- The quotient of two numbers rounded to the nearest whole number, a half to the even one. -/
def roundQuotient (numerator denominator : Nat) : Nat :=
  let quotient := numerator / denominator
  let twice := 2 * (numerator % denominator)
  if denominator < twice || (denominator == twice && quotient % 2 == 1) then quotient + 1
  else quotient

/-- The exponent that the double next to a ratio has: the mantissa below it has 53 bits, or fewer
for the smallest doubles. -/
def exponentOfRatio (numerator denominator : Nat) : Int :=
  let estimate : Int := (numerator.log2 : Int) - denominator.log2 - 52
  let (n, d) := scaled numerator denominator estimate
  max (if n < d * Nat.pow 2 52 then estimate - 1 else estimate) (-1074)
where
  /-- The ratio divided by a power of two. -/
  scaled (numerator denominator : Nat) (exponent : Int) : Nat × Nat :=
    if exponent < 0 then (numerator * Nat.pow 2 (-exponent).toNat, denominator)
    else (numerator, denominator * Nat.pow 2 exponent.toNat)

/-- The bits of the double nearest to a ratio, without a sign. Mantissa and exponent are added so
that a mantissa that rounding makes too long moves on to the next exponent. -/
def bitsOfRatio (numerator denominator : Nat) : Nat :=
  if numerator == 0 then 0
  else
    let exponent := exponentOfRatio numerator denominator
    let (n, d) := exponentOfRatio.scaled numerator denominator exponent
    min (roundQuotient n d + (exponent + 1074).toNat * Nat.pow 2 52) (2047 * Nat.pow 2 52)

/-- The double nearest to `significand * 10 ^ exponent`. Exponents out of reach are not computed
with. -/
def nearest (negative : Bool) (significand : Nat) (exponent : Int) : Float :=
  let size : Int := (Nat.toDigits 10 significand).length + exponent
  let bits :=
    if significand == 0 || size < -400 then 0
    else if 400 < size then 2047 * Nat.pow 2 52
    else if exponent < 0 then bitsOfRatio significand (Nat.pow 10 (-exponent).toNat)
    else bitsOfRatio (significand * Nat.pow 10 exponent.toNat) 1
  Float.ofBits (UInt64.ofNat (bits + if negative then Nat.pow 2 63 else 0))

def digitsValue (digits : List Char) : Nat :=
  digits.foldl (fun n d => n * 10 + (d.toNat - '0'.toNat)) 0

/-- An exponent at the head of a text, 0 where there is none, if nothing else follows. -/
def exponentPart? : List Char → Option Int
  | [] => some 0
  | c :: s =>
    if c == 'e' || c == 'E' then
      let (negative, digits) : Bool × List Char :=
        match s with
        | '-' :: s => (true, s)
        | '+' :: s => (false, s)
        | s => (false, s)
      if digits.isEmpty || !digits.all isAsciiDigit then none
      else some (if negative then -(digitsValue digits : Int) else digitsValue digits)
    else none

/-- The double that a text without a sign denotes: digits with perhaps a point among or around them,
and perhaps an exponent. -/
def unsigned? (negative : Bool) (s : List Char) : Option Float := do
  let (whole, s) := spanWhile isAsciiDigit s
  let (places, s) : List Char × List Char :=
    match s with
    | '.' :: s => spanWhile isAsciiDigit s
    | s => ([], s)
  if whole.isEmpty && places.isEmpty then none
  else
    let exponent ← exponentPart? s
    some (nearest negative (digitsValue (whole ++ places)) (exponent - places.length))

/-- The double that a text denotes, with perhaps a sign before it. Large values give infinities. -/
def read? (s : List Char) : Option Float :=
  match s with
  | '-' :: s => unsigned? true s
  | '+' :: s => unsigned? false s
  | s => unsigned? false s

/-- The double that a text denotes in digits or as one of the words `inf`, `infinity` and `nan`, in
letters of either case and with perhaps a sign before it. -/
def readOrWord? (s : List Char) : Option Float :=
  let unsigned := (afterAny? [['-'], ['+']] s).getD s
  let word := String.ofList (unsigned.map Char.toLower)
  if word == "inf" || word == "infinity" then
    some (if s.head? == some '-' then -1 / 0 else 1 / 0)
  else if word == "nan" then some (0 / 0)
  else read? s

end GapAudit.Decimal
