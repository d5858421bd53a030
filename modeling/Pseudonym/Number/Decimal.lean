/-!
# Reading decimals

A decimal text is read as the nearest double. Exponents far outside the range of doubles are decided
by the count of digits, so that no large power is ever computed.
-/

namespace Pseudonym.Number

/-- The most digits of a whole number that is read or written as a decimal. -/
def maxDigits : Nat := 4300

/-- The number that the digits of a text write; other characters are skipped. -/
def digitsToNat (cs : List Char) : Nat :=
  cs.foldl (fun n c => if c.isDigit then 10 * n + (c.toNat - '0'.toNat) else n) 0

/-- The double nearest to `m · 10 ^ e`. -/
def scaled (m : Nat) (e : Int) : Float :=
  let size : Int := (toString m).length + e
  if m = 0 ∨ size < -330 then 0.0
  else if 310 < size then 1.0 / 0.0
  else if e < 0 then Float.ofScientific m true (-e).toNat
  else Float.ofScientific m false e.toNat

/-- The signed number after the mark of an exponent. -/
def exponentValue : List Char → Int
  | '-' :: rest => -(digitsToNat rest : Int)
  | rest => digitsToNat rest

/-- The double that an unsigned decimal text denotes: digits, perhaps with a point, perhaps with an
exponent. -/
def ofDecimalText (cs : List Char) : Float :=
  let body := cs.takeWhile fun c => c ≠ 'e' && c ≠ 'E'
  let exponent := exponentValue ((cs.drop body.length).drop 1)
  let whole := body.takeWhile (· ≠ '.')
  let fraction := ((body.drop whole.length).drop 1).filter Char.isDigit
  scaled (digitsToNat (whole ++ fraction)) (exponent - fraction.length)

end Pseudonym.Number
