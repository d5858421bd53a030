import Pseudonym.Number.Binary

/-!
# The fewest digits that read back

A double is written with the fewest significant digits that still denote it, and of these with the
digits nearest to its value.
-/

namespace Pseudonym.Number

/-! ## Digits -/

/-- A decimal: `digits · 10 ^ exponent`. -/
structure Decimal where
  digits : Nat
  exponent : Int
deriving DecidableEq, Repr

/-- The order of `a · 2 ^ s` and `d · 10 ^ t`. -/
def comparePowers (a : Nat) (s : Int) (d : Nat) (t : Int) : Ordering :=
  compare (a * powerAbove 2 s * powerBelow 10 t) (d * powerAbove 10 t * powerBelow 2 s)

/-- The reals that round to a double, in units of a quarter of its last place. -/
structure Interval where
  low : Nat
  mid : Nat
  high : Nat
  exponent : Int
  closed : Bool

/-- The interval of a positive double: half a unit on each side, but half of that below a power of
two. The ends belong to it when the mantissa is even. -/
def Interval.of (b : Binary) : Interval where
  low := if b.mantissa = leadingBit ∧ b.exponent ≠ -1074 then 4 * b.mantissa - 1
    else 4 * b.mantissa - 2
  mid := 4 * b.mantissa
  high := 4 * b.mantissa + 2
  exponent := b.exponent - 2
  closed := b.mantissa % 2 = 0

/-- Whether a decimal lies in an interval. -/
def Interval.contains (i : Interval) (d : Decimal) : Bool :=
  let below := comparePowers i.low i.exponent d.digits d.exponent
  let above := comparePowers i.high i.exponent d.digits d.exponent
  (below = .lt || (i.closed && below = .eq)) && (above = .gt || (i.closed && above = .eq))

/-- The exponent of the leading decimal digit of a positive value. -/
def leadingExponent (b : Binary) : Int :=
  let whole := b.mantissa * powerAbove 2 b.exponent / powerBelow 2 b.exponent
  if 0 < whole then (toString whole).length - 1
  else match (List.range 400).find? fun (j : Nat) =>
      comparePowers b.mantissa b.exponent 1 (-(j : Int)) ≠ .lt with
    | some j => -(j : Int)
    | none => 0

/-- The nearest decimal with a given count of digits that lies in the interval of the value. -/
def decimalOfLength? (b : Binary) (lead : Int) (count : Nat) : Option Decimal :=
  let i := Interval.of b
  let t : Int := lead - (count : Int) + 1
  let down := b.mantissa * powerAbove 2 b.exponent * powerBelow 10 t /
    (powerBelow 2 b.exponent * powerAbove 10 t)
  let lower : Decimal := ⟨down, t⟩
  let upper : Decimal := ⟨down + 1, t⟩
  match i.contains lower, i.contains upper with
  | false, false => none
  | true, false => some lower
  | false, true => some upper
  | true, true =>
    match comparePowers (2 * b.mantissa) b.exponent (2 * down + 1) t with
    | .lt => some lower
    | .gt => some upper
    | .eq => some (if down % 2 = 0 then lower else upper)

/-- The shortest decimal that denotes a positive value. -/
def shortestDecimal (b : Binary) : Decimal :=
  let lead := leadingExponent b
  ((List.range 17).findSome? fun k => decimalOfLength? b lead (k + 1)).getD ⟨b.mantissa, 0⟩

/-! ## Text -/

/-- Drops the zeros that end a digit string. -/
def dropTrailingZeros (cs : List Char) : List Char :=
  (cs.reverse.dropWhile (· = '0')).reverse

/-- A decimal point after the first `point` digits, zeros filled in on either side; the part after
the point is never empty. -/
def positional (digits : List Char) (point : Int) : String :=
  if point ≤ 0 then
    "0." ++ "".pushn '0' (-point).toNat ++ String.ofList digits
  else
    let n := point.toNat
    let whole := digits.take n
    let rest := digits.drop n
    String.ofList whole ++ "".pushn '0' (n - whole.length) ++ "." ++
      (if rest.isEmpty then "0" else String.ofList rest)

/-- One digit before the point, and an exponent of at least two digits. -/
def scientific (digits : List Char) (exponent : Int) : String :=
  let body := match digits with
    | [] => "0"
    | [d] => d.toString
    | d :: rest => d.toString ++ "." ++ String.ofList rest
  let size := toString exponent.natAbs
  body ++ "e" ++ (if exponent < 0 then "-" else "+") ++
    (if size.length < 2 then "0" ++ size else size)

/-- The text of a double: positional from `1e-4` up to but not including `1e16`. -/
def shortest (x : Float) : String :=
  match classify x with
  | .notANumber => "nan"
  | .infinite negative => if negative then "-inf" else "inf"
  | .finite b =>
    let sign := if b.negative then "-" else ""
    if b.mantissa = 0 then sign ++ "0.0"
    else
      let d := shortestDecimal b
      let all := (toString d.digits).toList
      let point : Int := d.exponent + all.length
      let digits := dropTrailingZeros all
      if -4 < point ∧ point ≤ 16 then sign ++ positional digits point
      else sign ++ scientific digits (point - 1)

end Pseudonym.Number
