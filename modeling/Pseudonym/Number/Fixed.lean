import Pseudonym.Number.Binary

/-!
# Numbers with a fixed count of decimals

Decimals are rounded from the exact value, a half to the even neighbour.
-/

namespace Pseudonym.Number

/-- The digits of a number, filled with zeros on the left up to a width. -/
def padded (width n : Nat) : String :=
  let digits := toString n
  "".pushn '0' (width - digits.length) ++ digits

/-- A finite value with a fixed count of decimals. -/
def Binary.fixed (places : Nat) (b : Binary) : String :=
  let unit := Nat.pow 10 places
  let scaled := divNearest (b.mantissa * powerAbove 2 b.exponent * unit)
    (powerBelow 2 b.exponent)
  let sign := if b.negative then "-" else ""
  let whole := sign ++ toString (scaled / unit)
  if places = 0 then whole else whole ++ "." ++ padded places (scaled % unit)

/-- A double with a fixed count of decimals. -/
def fixed (places : Nat) (x : Float) : String :=
  match classify x with
  | .finite b => b.fixed places
  | .infinite negative => if negative then "-inf" else "inf"
  | .notANumber => "nan"

end Pseudonym.Number
