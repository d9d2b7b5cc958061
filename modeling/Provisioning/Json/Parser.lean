import Provisioning.Json
import Provisioning.Text.Numeral

/-!
# Reading JSON

The strict grammar: no comments, no trailing commas, no leading zeros, no bare
control characters in strings, nothing after the value.  What is well formed
but means nothing becomes `Json.unreadable`, so that it is a failure only where
someone reads it.
-/

namespace Provisioning.Json

/-! ## Strings -/

/-- What a plain character or an escape contributes to a string: a character, or
half of a surrogate pair. -/
inductive TextUnit where
  | plain (c : Char)
  | escaped (c : Char)
  | half (code : Nat)

/-- Whether a unit is a plain character. -/
def TextUnit.isPlain : TextUnit → Bool
  | plain _ => true
  | _ => false

/-- The value of a hexadecimal digit. -/
def hexValue? (c : Char) : Option Nat :=
  if c.isDigit then some (c.toNat - '0'.toNat)
  else if 'a' ≤ c ∧ c ≤ 'f' then some (c.toNat - 'a'.toNat + 10)
  else if 'A' ≤ c ∧ c ≤ 'F' then some (c.toNat - 'A'.toNat + 10)
  else none

/-- The value of a row of hexadecimal digits. -/
def hexNumber? (digits : List Char) : Option Nat :=
  digits.foldlM (fun value d => (hexValue? d).map (16 * value + ·)) 0

/-- What the four digits of an escape stand for. -/
def unitOfCode (code : Nat) : TextUnit :=
  if 0xd800 ≤ code ∧ code < 0xe000 then .half code else .escaped (Char.ofNat code)

/-- The character that a letter after a backslash stands for. -/
def shortEscape? : Char → Option Char
  | '"' => some '"'
  | '\\' => some '\\'
  | '/' => some '/'
  | 'b' => some '\x08'
  | 'f' => some '\x0c'
  | 'n' => some '\n'
  | 'r' => some '\r'
  | 't' => some '\t'
  | _ => none

/-- The units of a string up to its closing quote, in reverse, and what follows
the quote. -/
def scanString (units : List TextUnit) : List Char → Option (List TextUnit × List Char)
  | [] => none
  | '"' :: rest => some (units, rest)
  | '\\' :: 'u' :: a :: b :: c :: d :: rest =>
    match hexNumber? [a, b, c, d] with
    | some code => scanString (unitOfCode code :: units) rest
    | none => none
  | '\\' :: letter :: rest =>
    match shortEscape? letter with
    | some c => scanString (.escaped c :: units) rest
    | none => none
  | c :: rest => if c.toNat < 0x20 ∨ c = '\\' then none else scanString (.plain c :: units) rest

/-- The text of a row of units in reverse, put in front of `text`.  Each half
must belong to a pair. -/
def joinUnits (text : List Char) : List TextUnit → Option (List Char)
  | [] => some text
  | .plain c :: rest | .escaped c :: rest => joinUnits (c :: text) rest
  | .half low :: .half high :: rest =>
    if high < 0xdc00 ∧ 0xdc00 ≤ low then
      joinUnits (Char.ofNat (0x10000 + (high - 0xd800) * 0x400 + (low - 0xdc00)) :: text) rest
    else none
  | .half _ :: _ => none

/-- The name that units in reverse spell, if they spell one. -/
def nameOfUnits? (units : List TextUnit) : Option Name :=
  (joinUnits [] units).map fun text => ⟨String.ofList text, !units.all (·.isPlain)⟩

/-- A string after its opening quote.  The text is missing when it has half of a
surrogate pair. -/
def parseString (cs : List Char) : Option (Option Name × List Char) :=
  (scanString [] cs).map fun (units, rest) => (nameOfUnits? units, rest)

/-! ## Numbers -/

/-- The parts of a number: the sign, the digits before the point, those after it
and the exponent. -/
structure Literal where
  negative : Bool
  whole : List Char
  fraction : Option (List Char) := none
  exponent : Option Int := none

/-- The digits at the front, and the rest. -/
def spanDigits (cs : List Char) : List Char × List Char :=
  cs.span Char.isDigit

/-- The exponent at the front, if one begins there. -/
def parseExponent (cs : List Char) : Option (Option Int × List Char) :=
  let afterSign (sign : Int) (cs : List Char) : Option (Option Int × List Char) :=
    match spanDigits cs with
    | ([], _) => none
    | (digits, rest) => some (some (sign * Text.digitsValue digits), rest)
  match cs with
  | 'e' :: '+' :: rest | 'E' :: '+' :: rest => afterSign 1 rest
  | 'e' :: '-' :: rest | 'E' :: '-' :: rest => afterSign (-1) rest
  | 'e' :: rest | 'E' :: rest => afterSign 1 rest
  | _ => some (none, cs)

/-- The fraction at the front, if one begins there. -/
def parseFraction (cs : List Char) : Option (Option (List Char) × List Char) :=
  match cs with
  | '.' :: rest =>
    match spanDigits rest with
    | ([], _) => none
    | (digits, rest) => some (some digits, rest)
  | _ => some (none, cs)

/-- A number after its sign. -/
def parseMagnitude (negative : Bool) (cs : List Char) : Option (Literal × List Char) :=
  match spanDigits cs with
  | ([], _) => none
  | ('0' :: _ :: _, _) => none
  | (whole, rest) =>
    match parseFraction rest with
    | none => none
    | some (fraction, rest) =>
      (parseExponent rest).map fun (exponent, rest) =>
        ({ negative := negative, whole := whole, fraction := fraction, exponent := exponent }, rest)

/-- A number. -/
def parseLiteral (cs : List Char) : Option (Literal × List Char) :=
  match cs with
  | '-' :: rest => parseMagnitude true rest
  | _ => parseMagnitude false cs

/-- A number of 64 bits and a power of ten. -/
structure Significand where
  value : Nat
  exponent : Int

/-- The digits before the point: those that do not fit any more only count for
the exponent. -/
def Significand.ofWhole (digits : List Char) : Significand :=
  let (value, _, dropped) := digits.foldl (fun (value, full, dropped) d =>
    let next := 10 * value + Text.digitsValue [d]
    if full || Text.wordBound ≤ next then (value, true, dropped + 1) else (next, false, dropped))
    (0, false, 0)
  ⟨value, dropped⟩

/-- The digits after the point: those that do not fit any more are dropped. -/
def Significand.addFraction (s : Significand) : List Char → Significand
  | [] => s
  | d :: rest =>
    let next := 10 * s.value + Text.digitsValue [d]
    if Text.wordBound ≤ next then s else addFraction ⟨next, s.exponent - 1⟩ rest

/-- The power of ten, for exponents up to 308. -/
def powerOfTen (exponent : Nat) : Float :=
  OfScientific.ofScientific 1 false exponent

/-- A number times a power of ten, in steps of at most 308 places; none if it
is out of range. -/
def scaleFloat (x : Float) (exponent : Int) : Nat → Option Float
  | 0 => some 0.0
  | steps + 1 =>
    if exponent.natAbs ≤ 308 then
      let scaled :=
        if 0 ≤ exponent then x * powerOfTen exponent.natAbs else x / powerOfTen exponent.natAbs
      if scaled.isInf then none else some scaled
    else if x == 0.0 then some x
    else if 0 ≤ exponent then none
    else scaleFloat (x / powerOfTen 308) (exponent + 308) steps

/-- The number of a literal as a binary fraction. -/
def Literal.toFloat? (literal : Literal) : Option Float :=
  let s := (Significand.ofWhole literal.whole).addFraction (literal.fraction.getD [])
  (scaleFloat (Float.ofNat s.value) (s.exponent + literal.exponent.getD 0) 5).map fun x =>
    if literal.negative then -x else x

/-- The bound on the magnitudes of negative whole numbers. -/
def signBound : Nat := 0x8000000000000000

/-- The value of a literal. -/
def Literal.toJson (literal : Literal) : Json :=
  let magnitude := Text.digitsValue literal.whole
  let isWhole := literal.fraction.isNone && literal.exponent.isNone
  if isWhole && !literal.negative && magnitude < Text.wordBound then
    num (.whole magnitude)
  else if isWhole && literal.negative && 0 < magnitude && magnitude ≤ signBound then
    num (.whole (-magnitude))
  else
    match literal.toFloat? with
    | some x => num (.real x)
    | none => unreadable

/-! ## Values -/

/-- The characters that may stand between the parts of a value. -/
def isSpace (c : Char) : Bool :=
  c == ' ' || c == '\n' || c == '\r' || c == '\t'

/-- The characters without those that may stand between parts. -/
def skipSpace (cs : List Char) : List Char :=
  cs.dropWhile isSpace

/-- An object whose members are given in reverse.  It is unreadable if one of its
names is. -/
def ofMembers (members : List (Option Name × Json)) : Json :=
  match members.reverse.mapM fun (name, value) => name.map fun name => (name, value) with
  | some members => obj members
  | none => unreadable

mutual

/-- A value at the front.  Every call uses up a character before it calls again,
so the length of the text bounds the depth of the calls. -/
def parseValue : Nat → List Char → Option (Json × List Char)
  | 0, _ => none
  | fuel + 1, cs =>
    match skipSpace cs with
    | 'n' :: 'u' :: 'l' :: 'l' :: rest => some (null, rest)
    | 't' :: 'r' :: 'u' :: 'e' :: rest => some (bool true, rest)
    | 'f' :: 'a' :: 'l' :: 's' :: 'e' :: rest => some (bool false, rest)
    | '"' :: rest =>
      (parseString rest).map fun (spelled, rest) =>
        ((spelled.map fun spelled => str spelled.text).getD unreadable, rest)
    | '[' :: rest =>
      match skipSpace rest with
      | ']' :: rest => some (arr [], rest)
      | rest => parseItems fuel [] rest
    | '{' :: rest =>
      match skipSpace rest with
      | '}' :: rest => some (obj [], rest)
      | rest => parseMembers fuel [] rest
    | cs => (parseLiteral cs).map fun (literal, rest) => (literal.toJson, rest)

/-- The items of an array from the next one on; those before it are given in
reverse. -/
def parseItems : Nat → List Json → List Char → Option (Json × List Char)
  | 0, _, _ => none
  | fuel + 1, items, cs =>
    match parseValue fuel cs with
    | none => none
    | some (item, rest) =>
      match skipSpace rest with
      | ',' :: rest => parseItems fuel (item :: items) rest
      | ']' :: rest => some (arr (item :: items).reverse, rest)
      | _ => none

/-- The members of an object from the next one on; those before it are given in
reverse. -/
def parseMembers : Nat → List (Option Name × Json) → List Char → Option (Json × List Char)
  | 0, _, _ => none
  | fuel + 1, members, cs =>
    match skipSpace cs with
    | '"' :: rest =>
      match parseString rest with
      | none => none
      | some (name, rest) =>
        match skipSpace rest with
        | ':' :: rest =>
          match parseValue fuel rest with
          | none => none
          | some (value, rest) =>
            match skipSpace rest with
            | ',' :: rest => parseMembers fuel ((name, value) :: members) rest
            | '}' :: rest => some (ofMembers ((name, value) :: members), rest)
            | _ => none
        | _ => none
    | _ => none

end

/-- The value of a text that holds one value and nothing else. -/
def parse? (text : String) : Option Json :=
  let cs := text.toList
  match parseValue (cs.length + 1) cs with
  | some (value, rest) => if (skipSpace rest).isEmpty then some value else none
  | none => none

end Provisioning.Json
