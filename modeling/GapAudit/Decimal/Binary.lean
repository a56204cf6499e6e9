/-!
The exact value of a binary floating-point number: a sign and a whole number times a power of two.
-/

namespace GapAudit.Decimal

/-- What a double stands for. A finite one is `mantissa * 2 ^ exponent` with a sign of its own, so
that the two zeros differ. -/
inductive Binary where
  | nan
  | infinite (negative : Bool)
  | finite (negative : Bool) (mantissa : Nat) (exponent : Int)
  deriving DecidableEq, Repr

/-- The value of a double with the given sign, biased exponent and fraction. -/
def Binary.ofFields (negative : Bool) (biased fraction : Nat) : Binary :=
  if biased == 2047 then
    if fraction == 0 then .infinite negative else .nan
  else if biased == 0 then
    .finite negative fraction (-1074)
  else
    .finite negative (fraction + Nat.pow 2 52) (biased - 1075)

def Binary.ofFloat (x : Float) : Binary :=
  let bits := x.toBits.toNat
  .ofFields (bits / Nat.pow 2 63 % 2 == 1) (bits / Nat.pow 2 52 % Nat.pow 2 11)
    (bits % Nat.pow 2 52)

/-- The numerator and the denominator of `mantissa * 2 ^ exponent`. -/
def fraction (mantissa : Nat) (exponent : Int) : Nat × Nat :=
  if exponent < 0 then (mantissa, Nat.pow 2 (-exponent).toNat)
  else (mantissa * Nat.pow 2 exponent.toNat, 1)

end GapAudit.Decimal
