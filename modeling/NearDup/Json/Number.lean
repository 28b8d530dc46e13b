import NearDup.Decimal.Numeral
import NearDup.Json.Error
import NearDup.Text.Utf8

/-! Numbers of JSON: their spelling, and the values that they stand for. -/

namespace NearDup.Json

open Text (Symbol)

/-- The spelling of a number: its digits, with the sign of its exponent beside the digits of that. -/
structure NumberText where
  negative : Bool
  whole : List Nat
  fraction : Option (List Nat)
  exponent : Option (Bool × List Nat)
deriving DecidableEq, Repr

inductive Number
  | natural (n : Nat)
  /-- The number `-n`. -/
  | negative (n : Nat)
  | float (x : Float)

namespace NumberText

/-- The fault of a text that ends within a number. -/
def endedWithin : Fault := ⟨.ended, .malformed⟩

/-- The digits that symbols start with, and what follows them. -/
def digits : List Symbol → List Nat × List Symbol
  | .char c :: rest =>
    match Numeral.digit? c with
    | some d => let (ds, rest) := digits rest; (d :: ds, rest)
    | none => ([], .char c :: rest)
  | rest => ([], rest)

/-- One digit or more. -/
def someDigits (input : List Symbol) : Except Fault (List Nat × List Symbol) :=
  match digits input with
  | ([], []) => .error endedWithin
  | ([], _) => .error .malformed
  | (ds, rest) => .ok (ds, rest)

/-- The digits before the point: a zero alone, or digits that start with no zero. -/
def scanWhole (input : List Symbol) : Except Fault (List Nat × List Symbol) := do
  match ← someDigits input with
  | (0 :: _ :: _, _) => .error .malformed
  | scanned => .ok scanned

/-- The digits after the point, if there is one. -/
def scanFraction : List Symbol → Except Fault (Option (List Nat) × List Symbol)
  | .char '.' :: rest => do
    let (ds, rest) ← someDigits rest
    return (some ds, rest)
  | rest => .ok (none, rest)

def scanExponent (input : List Symbol) : Except Fault (Option (Bool × List Nat) × List Symbol) :=
  match input with
  | .char 'e' :: rest | .char 'E' :: rest => do
    let (negative, rest) :=
      match rest with
      | .char '-' :: rest => (true, rest)
      | .char '+' :: rest => (false, rest)
      | rest => (false, rest)
    let (ds, rest) ← someDigits rest
    return (some (negative, ds), rest)
  | rest => .ok (none, rest)

def scan (input : List Symbol) : Except Fault (NumberText × List Symbol) := do
  let (negative, input) :=
    match input with
    | .char '-' :: rest => (true, rest)
    | rest => (false, rest)
  let (whole, input) ← scanWhole input
  let (fraction, input) ← scanFraction input
  let (exponent, input) ← scanExponent input
  return (⟨negative, whole, fraction, exponent⟩, input)

def isInteger (n : NumberText) : Bool :=
  n.fraction.isNone && n.exponent.isNone

/-- The bound of the digits that are taken into account. -/
def significandBound : Nat := UInt64.size

/-- Takes in digits while the number stays under the bound; how many were taken, and how many are
left. -/
def accumulate : Nat → List Nat → Nat × Nat × Nat
  | n, [] => (n, 0, 0)
  | n, d :: ds =>
    if 10 * n + d < significandBound then
      let (n, taken, left) := accumulate (10 * n + d) ds
      (n, taken + 1, left)
    else (n, 0, ds.length + 1)

def powerOfTen (n : Nat) : Float := Decimal.nearestFloat (Nat.pow 10 n) 1

/-- `x · 10 ^ exponent`, in steps of at most the greatest power of ten that is a float; no value
beyond the range of floats. -/
def scaled? (x : Float) (exponent : Int) : Option Float :=
  if exponent < -308 then
    if x == 0.0 then some x else scaled? (x / powerOfTen 308) (exponent + 308)
  else if exponent < 0 then some (x / powerOfTen (-exponent).toNat)
  else if exponent ≤ 308 then
    let y := x * powerOfTen exponent.toNat
    if y.isInf then none else some y
  else if x == 0.0 then some x
  else none
termination_by (-exponent).toNat

/-- The float that a number with a point, with an exponent or with too many digits stands for.
Digits beyond the bound count as zeros. -/
def float? (n : NumberText) : Option Float :=
  let (significand, _, dropped) := accumulate 0 n.whole
  let (significand, places, _) := accumulate significand (n.fraction.getD [])
  let point : Int := dropped - places
  let magnitude? : Option Float :=
    match n.exponent with
    | none => scaled? (Float.ofNat significand) point
    | some (negative, ds) =>
      let e := Numeral.ofDigits ds
      if e < UInt32.size / 2 then
        scaled? (Float.ofNat significand) (point + (if negative then -(e : Int) else e))
      else if significand = 0 ∨ negative then some 0.0
      else none
  magnitude?.map fun x => if n.negative then -x else x

/-- The value of a number, if it is in range: an integer where it is written as one and a word of
sixty-four bits has room for it, and otherwise a float. -/
def value? (n : NumberText) : Option Number :=
  let whole := Numeral.ofDigits n.whole
  if n.isInteger ∧ !n.negative ∧ whole < UInt64.size then some (.natural whole)
  else if n.isInteger ∧ n.negative ∧ 0 < whole ∧ whole ≤ UInt64.size / 2 then some (.negative whole)
  else n.float?.map .float

end NumberText

end NearDup.Json
