import Provisioning.Decimal.Shortest

/-!
# Written numbers

How the digits of a number are set out.  `Layout` holds the choices, and there
are two of them: `Layout.report` for lines of a log, always positional and
without a point in whole numbers, and `Layout.data` for data formats, with an
exponent for very large and very small numbers.
-/

namespace Provisioning.Decimal

/-- The choices of a written form.  `isPositional` takes the place of the point
relative to the first digit; `wholeEnding` follows a whole number. -/
structure Layout where
  isPositional : Int → Bool
  wholeEnding : String

/-- Positional whatever the size; `1` for one. -/
def Layout.report : Layout where
  isPositional := fun _ => true
  wholeEnding := ""

/-- Positional from `1e-5` up to below `1e16`; `1.0` for one. -/
def Layout.data : Layout where
  isPositional := fun place => -5 < place && place ≤ 16
  wholeEnding := ".0"

/-- A row of zeros. -/
def zeros (count : Nat) : String :=
  String.ofList (List.replicate count '0')

/-- The text of a positive decimal. -/
def Layout.writeScaled (layout : Layout) (d : Scaled) : String :=
  let digits := (toString d.digits).toList
  let place : Int := digits.length + d.exponent
  if layout.isPositional place then
    if place ≤ 0 then "0." ++ zeros (-place).toNat ++ String.ofList digits
    else if digits.length ≤ place then
      String.ofList digits ++ zeros (place - digits.length).toNat ++ layout.wholeEnding
    else
      String.ofList (digits.take place.toNat) ++ "." ++ String.ofList (digits.drop place.toNat)
  else
    let fraction := digits.drop 1
    String.ofList (digits.take 1) ++
      (if fraction.isEmpty then "" else "." ++ String.ofList fraction) ++
      "e" ++ toString (place - 1)

/-- The text of a number. -/
def Layout.write (layout : Layout) (x : Float) : String :=
  if x.isNaN then "NaN"
  else
    let sign := if x.toBits >>> 63 == 1 then "-" else ""
    if x.isInf then sign ++ "inf"
    else
      let b := Binary.ofBits x.toBits
      if b.mantissa = 0 then sign ++ "0" ++ layout.wholeEnding
      else sign ++ layout.writeScaled b.shortest

end Provisioning.Decimal
