/-!
# Shortest decimals

The decimal with the fewest digits that reads back as a given binary number,
and of those the nearest.  A binary number is taken apart into `m * 2^q`; the
reals that round to it are an interval around it, whose ends belong to it when
`m` is even.  For one digit, two, and so on, the two neighbours of the number
on that decimal grid are tested in exact arithmetic.
-/

namespace Provisioning.Decimal

/-- The positive decimal `digits * 10^exponent`. -/
structure Scaled where
  digits : Nat
  exponent : Int
deriving DecidableEq, Repr

/-- The positive binary number `mantissa * 2^exponent`.  When `narrow` holds its
lower neighbour is only half as far away as its upper one. -/
structure Binary where
  mantissa : Nat
  exponent : Int
  narrow : Bool
deriving DecidableEq, Repr

/-- The magnitude of a finite number, apart from its sign. -/
def Binary.ofBits (bits : UInt64) : Binary :=
  let exponent := ((bits >>> 52) &&& 0x7ff).toNat
  let fraction := (bits &&& 0xfffffffffffff).toNat
  if exponent = 0 then ⟨fraction, -1074, false⟩
  else ⟨fraction + 0x10000000000000, (exponent : Int) - 1075, fraction == 0 && exponent > 1⟩

/-- The fraction `value * 2^binary / 10^decimal`, as a numerator for `value` and
a denominator. -/
def scale (binary decimal : Int) (value : Nat) : Nat × Nat :=
  (value * Nat.pow 2 binary.toNat * Nat.pow 10 (-decimal).toNat,
    Nat.pow 2 (-binary).toNat * Nat.pow 10 decimal.toNat)

/-- How many zeros follow the point of a fraction below one before its first
digit, tried up to `limit`. -/
def leadingZeros (numerator denominator : Nat) : Nat → Nat
  | 0 => 0
  | limit + 1 =>
    if denominator ≤ numerator * 10 then 0
    else leadingZeros (numerator * 10) denominator limit + 1

/-- The place of the point: the number is below `10^place` and not below
`10^(place - 1)`. -/
def Binary.pointPlace (b : Binary) : Int :=
  let (numerator, denominator) := scale b.exponent 0 b.mantissa
  if denominator ≤ numerator then ((toString (numerator / denominator)).length : Int)
  else -(leadingZeros numerator denominator 400 : Int)

/-- The nearest decimal with `count` digits, if it reads back as the number. -/
def Binary.nearest? (b : Binary) (count : Nat) : Option Scaled :=
  let exponent := b.pointPlace - count
  let at4 (value : Nat) := scale (b.exponent - 2) exponent value
  let (middle, one) := at4 (4 * b.mantissa)
  let low := (at4 (4 * b.mantissa - (if b.narrow then 1 else 2))).1
  let high := (at4 (4 * b.mantissa + 2)).1
  let inside (c : Nat) : Bool :=
    if b.mantissa % 2 = 0 then low ≤ c * one && c * one ≤ high
    else low < c * one && c * one < high
  let below := middle / one
  let above := below + 1
  let belowIsNearer : Bool :=
    let down := middle - below * one
    let up := above * one - middle
    down < up || (down == up && below % 2 == 0)
  match inside below, inside above with
  | true, true => some ⟨if belowIsNearer then below else above, exponent⟩
  | true, false => some ⟨below, exponent⟩
  | false, true => some ⟨above, exponent⟩
  | false, false => none

/-- A decimal without zeros at its end, looked for in at most `limit` places. -/
def Scaled.stripZeros (d : Scaled) : Nat → Scaled
  | 0 => d
  | limit + 1 =>
    if d.digits ≠ 0 ∧ d.digits % 10 = 0 then
      stripZeros ⟨d.digits / 10, d.exponent + 1⟩ limit
    else d

/-- The shortest decimal of a positive binary number.  Seventeen digits are
always enough. -/
def Binary.shortest (b : Binary) : Scaled :=
  (((List.range 17).findSome? fun i => b.nearest? (i + 1)).getD ⟨b.mantissa, b.exponent⟩).stripZeros
    20

end Provisioning.Decimal
