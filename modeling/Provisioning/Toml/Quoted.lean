import Provisioning.Toml

/-!
# Writing TOML texts

A text is written in the first of four styles that shows it as it is: in double
quotes, in single quotes, in three double quotes, in three single quotes.  A
text that none of them can show is written with escapes, over several lines if
it has several.
-/

namespace Provisioning.Toml

/-- What decides the style of a text. -/
structure TextTraits where
  maxSingleQuotes : Nat := 0
  maxDoubleQuotes : Nat := 0
  hasControl : Bool := false
  hasBackslash : Bool := false
  hasNewline : Bool := false
deriving DecidableEq, Repr

/-- The length of the longest run of a character; `current` is the length of the
run that has just been seen. -/
def longestRun (c : Char) (current : Nat) : List Char → Nat
  | [] => current
  | d :: rest => if d = c then longestRun c (current + 1) rest else max current (longestRun c 0 rest)

/-- Control characters other than the tab and the line break. -/
def isControl (c : Char) : Bool :=
  (c.toNat < 0x20 && c != '\t' && c != '\n') || c == '\x7f'

/-- The traits of a text. -/
def TextTraits.ofChars (cs : List Char) : TextTraits where
  maxSingleQuotes := longestRun '\x27' 0 cs
  maxDoubleQuotes := longestRun '"' 0 cs
  hasControl := cs.any isControl
  hasBackslash := cs.contains '\\'
  hasNewline := cs.contains '\n'

/-- The styles of a text. -/
inductive TextStyle where
  | basic
  | literal
  | multilineBasic
  | multilineLiteral
deriving DecidableEq, Repr

/-- The style that a text is written in. -/
def TextTraits.style (t : TextTraits) : TextStyle :=
  if !t.hasControl && !t.hasBackslash && t.maxDoubleQuotes == 0 && !t.hasNewline then .basic
  else if !t.hasControl && t.maxSingleQuotes == 0 && !t.hasNewline then .literal
  else if !t.hasControl && !t.hasBackslash && t.maxDoubleQuotes ≤ 2 then .multilineBasic
  else if !t.hasControl && t.maxSingleQuotes ≤ 2 then .multilineLiteral
  else if t.hasNewline then .multilineBasic
  else .basic

/-- The hexadecimal digit of a number below sixteen, in upper case. -/
def upperHexDigit (n : Nat) : Char :=
  if n < 10 then Char.ofNat ('0'.toNat + n) else Char.ofNat ('A'.toNat + (n - 10))

/-- A text between double quotes.  `allowedQuotes` is how many of them may stand
in a row as they are, and `breaks` whether lines may break; `quotes` counts the
ones that have just been written. -/
def escapeChars (allowedQuotes : Nat) (breaks : Bool) (quotes : Nat) : List Char → List Char
  | [] => []
  | c :: rest =>
    if c = '"' then
      if quotes < allowedQuotes then '"' :: escapeChars allowedQuotes breaks (quotes + 1) rest
      else '\\' :: '"' :: escapeChars allowedQuotes breaks 0 rest
    else
      let written : List Char :=
        if c = '\\' then ['\\', '\\']
        else if c = '\n' then if breaks then ['\n'] else ['\\', 'n']
        else if c = '\t' then ['\\', 't']
        else if c = '\r' then ['\\', 'r']
        else if c = '\x08' then ['\\', 'b']
        else if c = '\x0c' then ['\\', 'f']
        else if isControl c then
          ['\\', 'u', '0', '0', upperHexDigit (c.toNat / 16), upperHexDigit (c.toNat % 16)]
        else [c]
      written ++ escapeChars allowedQuotes breaks 0 rest

/-- A text in a style. -/
def quoteAs (style : TextStyle) (cs : List Char) : List Char :=
  let opening := if cs.contains '\n' then ['\n'] else []
  match style with
  | .basic => ['"'] ++ escapeChars 0 false 0 cs ++ ['"']
  | .literal => ['\x27'] ++ cs ++ ['\x27']
  | .multilineBasic =>
    ['"', '"', '"'] ++ opening ++ escapeChars 2 true 0 cs ++ ['"', '"', '"']
  | .multilineLiteral =>
    ['\x27', '\x27', '\x27'] ++ opening ++ cs ++ ['\x27', '\x27', '\x27']

/-- A text as a TOML string. -/
def quote (text : String) : String :=
  let cs := text.toList
  String.ofList (quoteAs (TextTraits.ofChars cs).style cs)

end Provisioning.Toml
