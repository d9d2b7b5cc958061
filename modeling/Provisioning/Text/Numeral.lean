/-!
# Decimal numerals below a bound

The numerals that this library reads where a number is typed as text: an
optional plus sign, then one or more ASCII digits, with a value below a bound
that the reader names.  Leading zeros are allowed.
-/

namespace Provisioning.Text

/-- The value of a row of decimal digits, most significant first. -/
def digitsValue (digits : List Char) : Nat :=
  digits.foldl (fun value d => 10 * value + (d.toNat - '0'.toNat)) 0

/-- The digits of a numeral, without the plus sign that may stand before them. -/
def unsigned : List Char → List Char
  | '+' :: digits => digits
  | digits => digits

/-- The number that a numeral denotes, if it is one and the number is below
`bound`. -/
def numeral? (bound : Nat) (cs : List Char) : Option Nat :=
  let digits := unsigned cs
  if digits.isEmpty || !digits.all Char.isDigit then none
  else if digitsValue digits < bound then some (digitsValue digits)
  else none

/-- The bound on identifiers, prices and spans of time: they are numbers of 64
bits. -/
def wordBound : Nat := 0x10000000000000000

/-- The bound on the numbers of 32 bits, such as counts and port speeds. -/
def halfBound : Nat := 0x100000000

end Provisioning.Text
