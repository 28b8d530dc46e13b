import NearDup.Decimal.Shortest

/-! Decimals and floats as text, laid out by a record of choices. -/

namespace NearDup

namespace Decimal

/-- How a decimal is laid out: the fewest places after the point, the leading exponents that are
written out in full, and whether other exponents show a plus sign. -/
structure Layout where
  places : Nat
  inFull : Int → Bool
  plusSign : Bool

/-- Every number in full, with no more places than it needs. -/
def Layout.plain : Layout := ⟨0, fun _ => true, false⟩

/-- A fraction always shows a place; the very large and the very small go by an exponent. -/
def Layout.debugging : Layout := ⟨1, fun e => -4 ≤ e ∧ e < 16, false⟩

/-- As numbers are written in a data text: one place at least, and exponents with their sign. -/
def Layout.data : Layout := ⟨1, fun e => -5 ≤ e ∧ e < 16, true⟩

/-- A whole part and a fraction, filled up to the fewest places. -/
def Layout.pointed (layout : Layout) (whole fraction : List Char) : List Char :=
  let fraction := fraction ++ List.replicate (layout.places - fraction.length) '0'
  if fraction.isEmpty then whole else whole ++ '.' :: fraction

def Layout.full (layout : Layout) (d : Decimal) : List Char :=
  let digits := digitChars d.digits
  let point := d.magnitude + 1
  if 0 ≤ d.exponent then layout.pointed (digits ++ List.replicate d.exponent.toNat '0') []
  else if 0 < point then layout.pointed (digits.take point.toNat) (digits.drop point.toNat)
  else layout.pointed ['0'] (List.replicate (-point).toNat '0' ++ digits)

/-- One digit before the point, and the exponent. -/
def Layout.scientific (layout : Layout) (d : Decimal) : List Char :=
  let digits := digitChars d.digits
  let point := if digits.length = 1 then digits else digits.take 1 ++ '.' :: digits.drop 1
  let sign := if d.magnitude < 0 then ['-'] else if layout.plusSign then ['+'] else []
  point ++ 'e' :: sign ++ digitChars d.magnitude.natAbs

def Layout.write (layout : Layout) (d : Decimal) : List Char :=
  if d.digits = 0 ∨ layout.inFull d.magnitude then layout.full d else layout.scientific d

def Layout.writeFloat (layout : Layout) (x : Float) : String :=
  if x.isNaN then "NaN"
  else
    let sign := if x.toBits.toNat / Nat.pow 2 63 = 1 then "-" else ""
    if x.isInf then sign ++ "inf" else sign ++ String.ofList (layout.write (ofFloat x))

end Decimal

end NearDup
