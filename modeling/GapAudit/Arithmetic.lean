import GapAudit.Decimal.Fixed

/-!
The arithmetic that scores are computed with. Every formula of the library is written once over it:
doubles are what a run computes with, and rational numbers give the exact value of the same formula.
-/

namespace GapAudit

/-- Numbers that scores can be computed with. -/
class Arithmetic (α : Type) extends Add α, Sub α, Mul α, Div α where
  /-- The number of a count. -/
  ofNat : Nat → α
  /-- Whether one number is at most another; false where one of them is not a number. -/
  le : α → α → Bool
  /-- Whether one number is below another; false where one of them is not a number. -/
  lt : α → α → Bool
  /-- The nearest whole number; a half goes away from zero. -/
  round : α → α
  /-- The decimal text with a fixed number of places. -/
  text : Nat → α → String

instance : Arithmetic Float where
  ofNat := Float.ofNat
  le x y := x ≤ y
  lt x y := x < y
  round := Float.round
  text := Decimal.fixed

/-- The nearest whole number; a half goes away from zero. -/
def roundRat (x : Rat) : Rat :=
  if x < 0 then -((-x + 1 / 2).floor : Rat) else ((x + 1 / 2).floor : Rat)

instance : Arithmetic Rat where
  ofNat n := n
  le x y := x ≤ y
  lt x y := x < y
  round := roundRat
  text places x :=
    (if x < 0 then "-" else "") ++ Decimal.fixedRatio places x.num.natAbs x.den

/-- A numeral denotes the number of its count. -/
instance (priority := low) {α : Type} [Arithmetic α] (n : Nat) : OfNat α n :=
  ⟨Arithmetic.ofNat n⟩

namespace Arithmetic

variable {α : Type} [Arithmetic α]

/-- The smaller of two numbers; what is not a number gives way to the other. -/
def lesser (x y : α) : α :=
  if le x y then x else if le y y then y else x

/-- The larger of two numbers; what is not a number gives way to the other. -/
def greater (x y : α) : α :=
  if le y x then x else if le y y then y else x

/-- The sum of a list, taken from the left; a single number is its own sum. -/
def sum : List α → α
  | [] => 0
  | x :: xs => xs.foldl (· + ·) x

end Arithmetic

end GapAudit
