import Provisioning.Json.Parser
import Provisioning.Toml

/-!
# Reading TOML texts, numbers and dates

Each reader takes the characters from the value on and gives the value with the
characters after it, or nothing where no such value stands.
-/

namespace Provisioning.Toml

/-- What a reader gives: a result and the characters after it. -/
abbrev Reader (α : Type) := List Char → Option (α × List Char)

/-- Spaces and tabs. -/
def isInlineSpace (c : Char) : Bool :=
  c == ' ' || c == '\t'

/-- Characters that a text or a comment may hold as they are. -/
def isPlain (c : Char) : Bool :=
  c == '\t' || (0x20 ≤ c.toNat && c != '\x7f')

/-- The characters without the spaces and tabs at the front. -/
def skipInlineSpace (cs : List Char) : List Char :=
  cs.dropWhile isInlineSpace

/-- What follows a line break at the front. -/
def afterNewline? : List Char → Option (List Char)
  | '\n' :: rest => some rest
  | '\r' :: '\n' :: rest => some rest
  | _ => none

/-! ## Texts -/

/-- The character of a code, if there is one. -/
def charOfCode? (code : Nat) : Option Char :=
  if code.isValidChar then some (Char.ofNat code) else none

/-- The character of a code of exactly `count` hexadecimal digits. -/
def codedChar (count : Nat) : Reader Char := fun cs =>
  let digits := cs.take count
  if digits.length < count then none
  else ((Json.hexNumber? digits).bind charOfCode?).map fun c => (c, cs.drop count)

/-- The character of an escape after its backslash. -/
def escape : Reader Char
  | 'b' :: rest => some ('\x08', rest)
  | 't' :: rest => some ('\t', rest)
  | 'n' :: rest => some ('\n', rest)
  | 'f' :: rest => some ('\x0c', rest)
  | 'r' :: rest => some ('\r', rest)
  | '"' :: rest => some ('"', rest)
  | '\\' :: rest => some ('\\', rest)
  | 'u' :: rest => codedChar 4 rest
  | 'U' :: rest => codedChar 8 rest
  | _ => none

/-- The characters without the line breaks, spaces and tabs at the front. -/
def skipLines : List Char → List Char
  | '\r' :: '\n' :: rest => skipLines rest
  | '\n' :: rest => skipLines rest
  | c :: rest => if isInlineSpace c then skipLines rest else c :: rest
  | [] => []

/-- The rest of a text in double quotes; `text` is what stands before it, in
reverse.  The length of the characters bounds the recursion. -/
def basicFrom : Nat → List Char → Reader String
  | 0, _, _ => none
  | _ + 1, _, [] => none
  | fuel + 1, text, c :: rest =>
    if c = '"' then some (String.ofList text.reverse, rest)
    else if c = '\\' then
      match escape rest with
      | some (d, rest) => basicFrom fuel (d :: text) rest
      | none => none
    else if isPlain c then basicFrom fuel (c :: text) rest
    else none

/-- The rest of a text in single quotes. -/
def literalFrom (text : List Char) : Reader String
  | [] => none
  | c :: rest =>
    if c = '\x27' then some (String.ofList text.reverse, rest)
    else if isPlain c then literalFrom (c :: text) rest
    else none

/-- The end of a text in three quotes at a row of them: three close it, and one
or two more before those belong to it.  None if the row is shorter. -/
def closeMultiline? (quote : Char) (text cs : List Char) : Option (Option (String × List Char)) :=
  let row := cs.takeWhile (· == quote)
  if row.length < 3 then none
  else if row.length ≤ 5 then
    some (some (String.ofList ((row.drop 3) ++ text).reverse, cs.drop row.length))
  else some none

/-- The rest of a text in three double quotes. -/
def multilineBasicFrom : Nat → List Char → Reader String
  | 0, _, _ => none
  | _ + 1, _, [] => none
  | fuel + 1, text, c :: rest =>
    match afterNewline? (c :: rest) with
    | some rest => multilineBasicFrom fuel ('\n' :: text) rest
    | none =>
      if c = '"' then
        match closeMultiline? '"' text (c :: rest) with
        | some result => result
        | none => multilineBasicFrom fuel (c :: text) rest
      else if c = '\\' then
        match afterNewline? (skipInlineSpace rest) with
        | some after => multilineBasicFrom fuel text (skipLines after)
        | none =>
          match escape rest with
          | some (d, rest) => multilineBasicFrom fuel (d :: text) rest
          | none => none
      else if isPlain c then multilineBasicFrom fuel (c :: text) rest
      else none

/-- The rest of a text in three single quotes. -/
def multilineLiteralFrom : Nat → List Char → Reader String
  | 0, _, _ => none
  | _ + 1, _, [] => none
  | fuel + 1, text, c :: rest =>
    match afterNewline? (c :: rest) with
    | some rest => multilineLiteralFrom fuel ('\n' :: text) rest
    | none =>
      if c = '\x27' then
        match closeMultiline? '\x27' text (c :: rest) with
        | some result => result
        | none => multilineLiteralFrom fuel (c :: text) rest
      else if isPlain c then multilineLiteralFrom fuel (c :: text) rest
      else none

/-- The characters without a line break at the front. -/
def dropNewline (cs : List Char) : List Char :=
  (afterNewline? cs).getD cs

/-- A text that may stand as a key: one in a single pair of quotes. -/
def lineText : Reader String
  | '"' :: rest => basicFrom rest.length.succ [] rest
  | '\x27' :: rest => literalFrom [] rest
  | _ => none

/-- A text. -/
def text : Reader String
  | '"' :: '"' :: '"' :: rest =>
    multilineBasicFrom rest.length.succ [] (dropNewline rest)
  | '\x27' :: '\x27' :: '\x27' :: rest =>
    multilineLiteralFrom rest.length.succ [] (dropNewline rest)
  | cs => lineText cs

/-! ## Numbers -/

/-- Whether a character is a digit of the base. -/
def isDigitOf (base : Nat) (c : Char) : Bool :=
  match Json.hexValue? c with
  | some value => value < base
  | none => false

/-- The digits of a base at the front, at least one; between two of them one
underscore may stand, and none anywhere else.  `digits` is what stands before,
in reverse. -/
def digitsFrom (base : Nat) (digits : List Char) : Reader (List Char)
  | [] => if digits.isEmpty then none else some (digits.reverse, [])
  | '_' :: c :: rest =>
    if digits.isEmpty || !isDigitOf base c then none
    else digitsFrom base (c :: digits) rest
  | ['_'] => none
  | c :: rest =>
    if isDigitOf base c then digitsFrom base (c :: digits) rest
    else if digits.isEmpty then none
    else some (digits.reverse, c :: rest)

/-- The value of a row of digits of a base. -/
def valueIn (base : Nat) (digits : List Char) : Nat :=
  digits.foldl (fun value d => base * value + (Json.hexValue? d).getD 0) 0

/-- The sign at the front: whether it is a minus. -/
def sign : List Char → Bool × List Char
  | '-' :: rest => (true, rest)
  | '+' :: rest => (false, rest)
  | cs => (false, cs)

/-- The digits of a decimal number at the front; after a zero there are no more. -/
def decimalDigits : Reader (List Char)
  | '0' :: rest => some (['0'], rest)
  | cs => digitsFrom 10 [] cs

/-- A whole number in range. -/
def inRange (value : Int) : Option Toml :=
  if minInt ≤ value ∧ value ≤ maxInt then some (int value) else none

/-- A whole number of a base after its mark. -/
def basedInt (base : Nat) : Reader Toml := fun cs =>
  match digitsFrom base [] cs with
  | none => none
  | some (digits, rest) => (inRange (valueIn base digits)).map (·, rest)

/-- A whole number. -/
def wholeNumber : Reader Toml
  | '0' :: 'x' :: rest => basedInt 16 rest
  | '0' :: 'o' :: rest => basedInt 8 rest
  | '0' :: 'b' :: rest => basedInt 2 rest
  | cs =>
    let (negative, rest) := sign cs
    match decimalDigits rest with
    | none => none
    | some (digits, rest) =>
      let value : Int := valueIn 10 digits
      (inRange (if negative then -value else value)).map (·, rest)

/-- The fraction of a number at the front, empty if there is none. -/
def fraction : Reader (List Char)
  | '.' :: rest => digitsFrom 10 [] rest
  | cs => some ([], cs)

/-- The exponent of a number at the front, if there is one. -/
def exponent : Reader (Option Int)
  | c :: rest =>
    if c = 'e' ∨ c = 'E' then
      let (negative, rest) := sign rest
      (digitsFrom 10 [] rest).map fun (digits, rest) =>
        let value : Int := valueIn 10 digits
        (some (if negative then -value else value), rest)
    else some (none, c :: rest)
  | [] => some (none, [])

/-- The number `digits * 10^exponent`; one that is far out of range is infinite
or zero without being worked out. -/
def floatOf (digits : List Char) (exponent : Int) : Float :=
  let value := valueIn 10 digits
  let size : Int := (digits.dropWhile (· == '0')).length + exponent
  if value = 0 then 0.0
  else if 400 < size then 1.0 / 0.0
  else if size < -400 then 0.0
  else if 0 ≤ exponent then OfScientific.ofScientific value false exponent.toNat
  else OfScientific.ofScientific value true exponent.natAbs

/-- A number that is written with a fraction or an exponent.  None if no such
number stands here; `some none` if one does and it is malformed or too large. -/
def fractional? (cs : List Char) : Option (Option (Toml × List Char)) :=
  let (negative, rest) := sign cs
  match decimalDigits rest with
  | none => none
  | some (whole, rest) =>
    match rest with
    | c :: _ =>
      if c = '.' ∨ c = 'e' ∨ c = 'E' then
        some <|
          match fraction rest with
          | none => none
          | some (digits, rest) =>
            match exponent rest with
            | none => none
            | some (power, rest) =>
              let x := floatOf (whole ++ digits) (power.getD 0 - digits.length)
              if x.isInf && !negative then none
              else some (float (if negative then -x else x), rest)
      else none
    | [] => none

/-- Infinity and the number that is none, with or without a sign. -/
def specialFloat (cs : List Char) : Option (Toml × List Char) :=
  let (negative, rest) := sign cs
  match rest with
  | 'i' :: 'n' :: 'f' :: rest =>
    some (float (if negative then -1.0 / 0.0 else 1.0 / 0.0), rest)
  | 'n' :: 'a' :: 'n' :: rest => some (float (0.0 / 0.0), rest)
  | _ => none

/-! ## Dates and times -/

/-- A number of exactly `count` digits. -/
def fixedDigits (count : Nat) : Reader Nat := fun cs =>
  let digits := cs.take count
  if digits.length = count ∧ digits.all Char.isDigit then
    some (Text.digitsValue digits, cs.drop count)
  else none

/-- The days of a month. -/
def daysIn (year month : Nat) : Nat :=
  if month = 2 then
    if year % 4 = 0 ∧ (year % 100 ≠ 0 ∨ year % 400 = 0) then 29 else 28
  else if month = 4 ∨ month = 6 ∨ month = 9 ∨ month = 11 then 30
  else 31

/-- A number of two digits up to a limit, after a mark. -/
def marked (mark : Char) (limit : Nat) (cs : List Char) : Option (Nat × List Char) :=
  match cs with
  | c :: rest =>
    if c = mark then (fixedDigits 2 rest).filter (·.1 ≤ limit) else none
  | [] => none

/-- A date.  `some none` if one begins here and is no date of the calendar. -/
def fullDate? (cs : List Char) : Option (Option (List Char)) :=
  match fixedDigits 4 cs with
  | some (year, '-' :: rest) =>
    some <|
      match fixedDigits 2 rest with
      | none => none
      | some (month, rest) =>
        match marked '-' 31 rest with
        | none => none
        | some (day, rest) =>
          if 1 ≤ month ∧ month ≤ 12 ∧ 1 ≤ day ∧ day ≤ daysIn year month then some rest else none
  | _ => none

/-- The characters after a fraction of a second. -/
def skipFraction (cs : List Char) : Option (List Char) :=
  match cs with
  | '.' :: rest =>
    if (rest.takeWhile Char.isDigit).isEmpty then some cs else some (rest.dropWhile Char.isDigit)
  | _ => some cs

/-- A time of day.  `some none` if one begins here and there is no such time. -/
def partialTime? (cs : List Char) : Option (Option (List Char)) :=
  match fixedDigits 2 cs with
  | some (hour, ':' :: rest) =>
    if 23 < hour then none
    else
      some <|
        match (fixedDigits 2 rest).filter (·.1 ≤ 59) with
        | none => none
        | some (_, rest) =>
          match marked ':' 60 rest with
          | none => none
          | some (_, rest) => skipFraction rest
  | _ => none

/-- The characters after an offset from universal time, if one stands here. -/
def skipOffset (cs : List Char) : Option (List Char) :=
  match cs with
  | 'Z' :: rest | 'z' :: rest => some rest
  | '+' :: rest | '-' :: rest =>
    match (fixedDigits 2 rest).filter (·.1 ≤ 23) with
    | none => none
    | some (_, rest) => (marked ':' 59 rest).map (·.2)
  | _ => some cs

/-- A date, a time, or both.  `some none` if one begins here and is wrong. -/
def dateTime? (cs : List Char) : Option (Option (Toml × List Char)) :=
  let finish (after : Option (List Char)) : Option (Toml × List Char) :=
    after.map fun rest => (date (String.ofList (cs.take (cs.length - rest.length))), rest)
  match fullDate? cs with
  | some none => some none
  | some (some rest) =>
    match rest with
    | c :: afterMark =>
      if c = 'T' ∨ c = 't' ∨ c = ' ' then
        match partialTime? afterMark with
        | some (some rest) => some (finish (skipOffset rest))
        | some none => some none
        | none => some (finish (some rest))
      else some (finish (some rest))
    | [] => some (finish (some rest))
  | none => (partialTime? cs).map finish

/-- A number or a date. -/
def numberOrDate (cs : List Char) : Option (Toml × List Char) :=
  match dateTime? cs with
  | some result => result
  | none =>
    match fractional? cs with
    | some result => result
    | none =>
      match specialFloat cs with
      | some result => some result
      | none => wholeNumber cs

end Provisioning.Toml
