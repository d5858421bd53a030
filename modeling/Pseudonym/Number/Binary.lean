/-!
# Double-precision numbers as exact fractions

A finite double is `± mantissa · 2 ^ exponent`. Everything that is printed of a double is computed
from that form in exact arithmetic.
-/

namespace Pseudonym.Number

/-- The exact value of a finite double. -/
structure Binary where
  negative : Bool
  mantissa : Nat
  exponent : Int
deriving DecidableEq, Repr

/-- The class of a double. -/
inductive DoubleClass where
  | finite (value : Binary)
  | infinite (negative : Bool)
  | notANumber
deriving DecidableEq, Repr

/-- The weight of the leading bit of a full mantissa. -/
def leadingBit : Nat := 0x10000000000000

/-- Decodes sign, exponent and fraction fields. -/
def classify (x : Float) : DoubleClass :=
  let bits : Nat := x.toBits.toNat
  let negative := decide (bits >>> 63 = 1)
  let field : Nat := bits / leadingBit % 2048
  let fraction : Nat := bits % leadingBit
  if field = 2047 then
    if fraction = 0 then .infinite negative else .notANumber
  else if field = 0 then .finite ⟨negative, fraction, -1074⟩
  else .finite ⟨negative, fraction + leadingBit, (field : Int) - 1075⟩

/-- A quotient of naturals to the nearest natural, a half to the even neighbour. -/
def divNearest (num den : Nat) : Nat :=
  let q := num / den
  let twice := 2 * (num % den)
  if twice < den then q
  else if den < twice then q + 1
  else if q % 2 = 0 then q else q + 1

/-- `base ^ n` for a non-negative exponent, else 1: the numerator of the power. -/
def powerAbove (base : Nat) (n : Int) : Nat := Nat.pow base n.toNat

/-- `base ^ (-n)` for a negative exponent, else 1: the denominator of the power. -/
def powerBelow (base : Nat) (n : Int) : Nat := Nat.pow base (-n).toNat

/-- The double nearest to a quotient of two integers that doubles hold exactly. -/
def ratio (num den : Int) : Float := Float.ofInt num / Float.ofInt den

end Pseudonym.Number
