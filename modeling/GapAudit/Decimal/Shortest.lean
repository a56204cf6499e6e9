import GapAudit.Decimal.Binary

/-!
The fewest decimal digits that read back as a double, and of those the digits nearest to it.
-/

namespace GapAudit.Decimal

/-- Digits and the power of ten that they are multiplied by. -/
structure Digits where
  digits : Nat
  power : Int
  deriving DecidableEq, Repr

/-- The whole number `num / den` scaled by `10 ^ power`, as a numerator and a denominator. -/
def scaleTen (num den : Nat) (power : Int) : Nat × Nat :=
  if power < 0 then (num, den * Nat.pow 10 (-power).toNat) else (num * Nat.pow 10 power.toNat, den)

/-- The number of decimal digits before the point of `num / den`; zero or negative when the value
lies below one tenth or less. -/
def magnitude (num den : Nat) : Int :=
  if den ≤ num then
    (Nat.toDigits 10 (num / den)).length
  else
    let below : Int := (Nat.toDigits 10 (den / num)).length
    if num * Nat.pow 10 (below.toNat - 1) == den then 2 - below else 1 - below

/-- The interval of reals that read as a double, as numerators over `4 * den`: its lower end, the
value and its upper end. Just above a power of two the lower half is half as long. -/
def interval (mantissa : Nat) (exponent : Int) : Nat × Nat × Nat :=
  let atPower := mantissa == Nat.pow 2 52 && exponent != -1074
  let low := if atPower then 4 * mantissa - 1 else 4 * mantissa - 2
  (low, 4 * mantissa, 4 * mantissa + 2)

/-- The point of the grid of `count` digits that reads back as the value, if there is one: of the
two neighbours of the value the nearer, the upper one when both are equally near. -/
def onGrid? (mantissa : Nat) (exponent : Int) (top : Int) (count : Nat) : Option Digits :=
  let (low, value, high) := interval mantissa exponent
  let power := top - count
  let scaled (n : Nat) : Nat × Nat :=
    let (num, den) := fraction n (exponent - 2)
    scaleTen num den (-power)
  let (valueNum, den) := scaled value
  let (lowNum, _) := scaled low
  let (highNum, _) := scaled high
  let inside (n : Nat) : Bool :=
    -- halfway between two values the even mantissa is read, so its interval has its ends
    if mantissa % 2 == 0 then lowNum ≤ n * den && n * den ≤ highNum
    else lowNum < n * den && n * den < highNum
  let below := valueNum / den
  let above := below + 1
  let belowNearer := valueNum - below * den < above * den - valueNum
  if inside below && (belowNearer || !inside above) then some ⟨below, power⟩
  else if inside above then some ⟨above, power⟩
  else none

/-- The fewest digits that read back as `mantissa * 2 ^ exponent`. Seventeen always do. -/
def shortest (mantissa : Nat) (exponent : Int) : Digits :=
  if mantissa == 0 then ⟨0, 0⟩
  else
    let (num, den) := fraction mantissa exponent
    let top := magnitude num den
    ((List.range 17).findSome? fun n => onGrid? mantissa exponent top (n + 1)).getD ⟨0, 0⟩

end GapAudit.Decimal
