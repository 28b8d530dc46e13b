import NearDup.Decimal.Nearest

/-! Numbers read from text: natural numbers under a bound, and floating-point numbers by the
nearest float. -/

namespace NearDup

/-- Why a text is no number. -/
inductive NumeralFault
  | emptyInteger
  | badDigit
  | tooLarge
  | emptyFloat
  | badFloat
deriving DecidableEq, Repr

def NumeralFault.message : NumeralFault → String
  | .emptyInteger => "cannot parse integer from empty string"
  | .badDigit => "invalid digit found in string"
  | .tooLarge => "number too large to fit in target type"
  | .emptyFloat => "cannot parse float from empty string"
  | .badFloat => "invalid float literal"

namespace Numeral

def digit? (c : Char) : Option Nat :=
  if c.isDigit then some (c.toNat - '0'.toNat) else none

/-- The digits that `cs` starts with, and what follows them. -/
def digits : List Char → List Nat × List Char
  | [] => ([], [])
  | c :: cs =>
    match digit? c with
    | some d => let (ds, rest) := digits cs; (d :: ds, rest)
    | none => ([], c :: cs)

/-- The number with the given digits, first digit first. -/
def ofDigits (ds : List Nat) : Nat :=
  ds.foldl (fun n d => 10 * n + d) 0

/-- Reads digits after the number `n`, and stops at the first character that is no digit or that
takes the number to `bound`. -/
def naturalFrom (bound : Nat) : Nat → List Char → Except NumeralFault Nat
  | n, [] => .ok n
  | n, c :: cs =>
    match digit? c with
    | none => .error .badDigit
    | some d => if 10 * n + d < bound then naturalFrom bound (10 * n + d) cs else .error .tooLarge

/-- The natural number below `bound` that a text writes in decimal digits; a plus sign may stand
before them. -/
def natural (bound : Nat) (text : String) : Except NumeralFault Nat :=
  match text.toList with
  | [] => .error .emptyInteger
  | ['+'] => .error .badDigit
  | '+' :: cs => naturalFrom bound 0 cs
  | cs => naturalFrom bound 0 cs

/-- The float nearest to `n · 10 ^ exponent`. Beyond the range of floats the exact power does not
matter. -/
def nearestFloat (n : Nat) (exponent : Int) : Float :=
  let leading := exponent + (Nat.toDigits 10 n).length
  if n = 0 ∨ leading < -330 then 0.0
  else if 310 < leading then 1.0 / 0.0
  else
    Decimal.nearestFloat (n * Nat.pow 10 exponent.toNat) (Nat.pow 10 (-exponent).toNat)

/-- Takes a sign off the front: whether it is a minus, and what follows. -/
def sign : List Char → Bool × List Char
  | '-' :: cs => (true, cs)
  | '+' :: cs => (false, cs)
  | cs => (false, cs)

/-- An exponent to the end of the text: its mark, a sign or none, and digits. -/
def exponent? : List Char → Option Int
  | [] => some 0
  | c :: cs =>
    if c = 'e' ∨ c = 'E' then
      let (negative, cs) := sign cs
      match digits cs with
      | ([], _) => none
      | (ds, []) => some (if negative then -(ofDigits ds : Int) else ofDigits ds)
      | _ => none
    else none

/-- A number without sign: digits with or without a point among them, and an exponent or none. -/
def decimal? (cs : List Char) : Option Float :=
  let (whole, rest) := digits cs
  let (fraction, rest) :=
    match rest with
    | '.' :: rest => digits rest
    | rest => ([], rest)
  if whole.isEmpty && fraction.isEmpty then none
  else (exponent? rest).map fun e =>
    nearestFloat (ofDigits (whole ++ fraction)) (e - fraction.length)

/-- A number without sign, or one of the names of what is no finite number, in any case. -/
def magnitude? (cs : List Char) : Option Float :=
  match decimal? cs with
  | some x => some x
  | none =>
    let name := String.ofList (cs.map Char.toLower)
    if name = "inf" ∨ name = "infinity" then some (1.0 / 0.0)
    else if name = "nan" then some (0.0 / 0.0)
    else none

def float (text : String) : Except NumeralFault Float :=
  match text.toList with
  | [] => .error .emptyFloat
  | cs =>
    let (negative, cs) := sign cs
    match magnitude? cs with
    | some x => .ok (if negative then -x else x)
    | none => .error .badFloat

end Numeral

end NearDup
