/-! The fewest decimal digits that still name a given floating-point number. A finite number stands
for every real that rounds to it; of the decimal grids, coarsest first, the first with a point
among those reals is taken, and on it the point nearest to the number. -/

namespace NearDup

/-- The number `digits · 10 ^ exponent`. -/
structure Decimal where
  digits : Nat
  exponent : Int
deriving DecidableEq, Repr

namespace Decimal

def digitChars (n : Nat) : List Char :=
  Nat.toDigits 10 n

def magnitude (d : Decimal) : Int :=
  d.exponent + (digitChars d.digits).length - 1

/-- The reals that round to one positive number, in units of `2 ^ exponent`: those between `low`
and `high`, together with the two ends when `closed`. -/
structure Rounding where
  low : Nat
  middle : Nat
  high : Nat
  exponent : Int
  closed : Bool

/-- What rounds to the absolute value of a finite float. Below a power of two the floats lie twice
as close. -/
def Rounding.ofFloat (x : Float) : Rounding :=
  let bits := x.toBits.toNat
  let fraction := bits % Nat.pow 2 52
  let exponent := bits / Nat.pow 2 52 % Nat.pow 2 11
  let significand := if exponent = 0 then fraction else fraction + Nat.pow 2 52
  let below := if fraction = 0 ∧ 1 < exponent then 1 else 2
  { low := 4 * significand - below
    middle := 4 * significand
    high := 4 * significand + 2
    exponent := (max exponent 1 : Nat) - 1077
    closed := significand % 2 = 0 }

def binaryFraction (n : Nat) (e : Int) : Nat × Nat :=
  (n * Nat.pow 2 e.toNat, Nat.pow 2 (-e).toNat)

/-- The exponent of the leading decimal digit of a positive fraction. -/
def leadingExponent (numerator denominator : Nat) : Int :=
  if denominator ≤ numerator then (digitChars (numerator / denominator)).length - 1
  else
    let length := (digitChars (denominator / numerator)).length
    if denominator = numerator * Nat.pow 10 (length - 1) then 1 - length else -length

/-- The point nearest to the middle among the two multiples of `10 ^ exponent` beside it, if one
of them rounds to the number. -/
def Rounding.onGrid? (r : Rounding) (exponent : Int) : Option Decimal :=
  let (unit, part) := binaryFraction 1 r.exponent
  let grid := Nat.pow 10 exponent.toNat * part
  let scale := unit * Nat.pow 10 (-exponent).toNat
  let inside (n : Nat) : Bool :=
    if r.closed then r.low * scale ≤ n * grid && n * grid ≤ r.high * scale
    else r.low * scale < n * grid && n * grid < r.high * scale
  let floor := r.middle * scale / grid
  let nearerUp := r.middle * scale - floor * grid ≥ (floor + 1) * grid - r.middle * scale
  match inside floor, inside (floor + 1) with
  | true, true => some ⟨if nearerUp then floor + 1 else floor, exponent⟩
  | true, false => some ⟨floor, exponent⟩
  | false, true => some ⟨floor + 1, exponent⟩
  | false, false => none

/-- A decimal whose digits are a power of ten has them all but the first moved to the exponent. -/
def withoutCarry (d : Decimal) : Decimal :=
  let zeros := (digitChars d.digits).length - 1
  if d.digits = Nat.pow 10 zeros then ⟨1, d.exponent + zeros⟩ else d

/-- The shortest decimal that rounds to a number, among those of at most seventeen digits. -/
def Rounding.shortest (r : Rounding) : Decimal :=
  let (numerator, denominator) := binaryFraction r.middle r.exponent
  let leading := leadingExponent numerator denominator
  match (List.range 17).findSome? fun (n : Nat) => r.onGrid? (leading - n) with
  | some d => d.withoutCarry
  | none => ⟨0, 0⟩

/-- The shortest decimal that names the absolute value of a finite float. -/
def ofFloat (x : Float) : Decimal :=
  if x == 0.0 then ⟨0, 0⟩ else (Rounding.ofFloat x).shortest

end Decimal

end NearDup
