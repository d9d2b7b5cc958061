import Provisioning.Text.Columns.Zero
import Provisioning.Text.Columns.Wide
import Provisioning.Text.Columns.Emoji
import Provisioning.Text.Columns.Script

/-!
# Columns on a terminal

How many columns of a fixed-width terminal a text takes.  A character alone
takes none, one, two or three; beside some others it is drawn together with
them, and then the pair takes less.  So a text is read from its end: each
character sees what stands right of it, adds its columns, and leaves what the
character before it sees.
-/

namespace Provisioning.Text.Columns

/-- What stands right of a character, as far as the two can be drawn as one.
`linked` names have the zero-width joiner before them. -/
inductive Neighbour where
  | plain
  | lineFeed
  | tone
  | flagLetter
  | flagLetters
  | pictograph
  | linkedPictograph
  | linkedKeycap
  | linkedFlagLetter
  | linkedFlag
  | linkedFlagAndLetter
  | tagEnd
  | tagLetters (count : Nat)
  | tagDigits (count : Nat)
  | alef
  | lamed (linked : Bool)
  | coengLetter
  | ya (linked : Bool)
  | vowelYa
  | tifinagh (linked : Bool)
  | tifinaghJoiner
  | lisuTone
  | orkhonI (linked : Bool)
  | kiratE
  | kiratAi
deriving DecidableEq, Repr

/-- How a selector asks the character before it to be drawn. -/
inductive Selector where
  | pictograph
  | text
  | fullWidth
deriving DecidableEq, Repr

/-- All that a character sees on its right. -/
structure Context where
  neighbour : Neighbour
  selector : Option Selector
deriving DecidableEq, Repr

/-- Whether joiners and ignorable marks may stand between the neighbour and the
character that joins with it. -/
def Neighbour.reachesAcross : Neighbour → Bool
  | lamed _ | coengLetter | ya _ | vowelYa | tifinagh _ | tifinaghJoiner | lisuTone | orkhonI _
  | kiratE | kiratAi => true
  | _ => false

/-- Whether the neighbour is a pictograph or a keycap with a joiner before it. -/
def Neighbour.isLinked : Neighbour → Bool
  | linkedPictograph | linkedKeycap => true
  | _ => false

/-- The neighbour with the zero-width joiner before it. -/
def Neighbour.linked : Neighbour → Neighbour
  | lamed _ => lamed true
  | ya _ => ya true
  | tifinagh _ => tifinagh true
  | orkhonI _ => orkhonI true
  | other => other

namespace Context

/-- A neighbour and no selector. -/
def beside (neighbour : Neighbour) : Context :=
  ⟨neighbour, none⟩

/-- Nothing to join with. -/
def plain : Context :=
  beside .plain

/-- A selector put before what stands there; most neighbours are cut off by it. -/
def select (right : Context) (selector : Selector) : Context :=
  if right.neighbour.reachesAcross || (selector == .pictograph && right.neighbour.isLinked) then
    ⟨right.neighbour, some selector⟩
  else ⟨.plain, some selector⟩

/-- What is left when the selector has no effect on the character before it. -/
def unselect (right : Context) : Context :=
  if right.neighbour.reachesAcross then beside right.neighbour else plain

end Context

/-- The columns of a character that joins with nothing. -/
def columnsAlone (n : Nat) : Nat :=
  if isZero n then 0
  else if isPictograph n || isTone n || isWide n then 2
  else if n == 0x17d8 then 3
  else 1

/-- What a character is to the one before it. -/
def neighbourOf (n : Nat) : Neighbour :=
  if isTone n then .tone
  else if isFlagLetter n then .flagLetter
  else if isPictograph n then .pictograph
  else if isAlef n then .alef
  else if n == 0x5dc then .lamed false
  else if isCoengLetter n then .coengLetter
  else if n == 0x1a10 then .ya false
  else if isTifinagh n then .tifinagh false
  else if isSecondLisuTone n then .lisuTone
  else if n == 0x10c03 then .orkhonI false
  else if n == 0x16d67 then .kiratE
  else if n == 0x16d68 then .kiratAi
  else .plain

/-- The selector that a character is. -/
def selectorOf? (n : Nat) : Option Selector :=
  if n == 0xfe0f then some .pictograph
  else if n == 0xfe0e then some .text
  else if n == 0xfe01 then some .fullWidth
  else none

/-- A character that spells the name of a region inside a flag, before the
letters and digits that are there already.  A name has up to six letters, or
up to four letters and three digits. -/
def tag? (right : Neighbour) (n : Nat) : Option Neighbour :=
  if 0xe0061 ≤ n && n ≤ 0xe007a then
    match right with
    | .tagEnd => some (.tagLetters 1)
    | .tagLetters count => if count < 6 then some (.tagLetters (count + 1)) else none
    | _ => none
  else if 0xe0030 ≤ n && n ≤ 0xe0039 then
    match right with
    | .tagEnd => some (.tagDigits 1)
    | .tagLetters count => if count < 5 then some (.tagDigits 1) else none
    | .tagDigits count => if count < 3 then some (.tagDigits (count + 1)) else none
    | _ => none
  else if n == 0x1f3f4 then
    match right with
    | .tagLetters count => if 3 ≤ count then some .pictograph else none
    | .tagDigits count => if count == 3 then some .pictograph else none
    | _ => none
  else none

/-- What a character with a joiner after it makes of the pictograph there. -/
def link? (n : Nat) : Option (Int × Neighbour) :=
  if n == 0x20e3 then some (0, .linkedKeycap)
  else if isFlagLetter n then some (1, .linkedFlagLetter)
  else if isTone n then some (0, .tone)
  else if n == 0xe007f then some (0, .tagEnd)
  else if isPictograph n then some (0, .pictograph)
  else none

/-- The columns that a character adds when it joins with its neighbour, and
what the two are to the character before them. -/
def join? (right : Neighbour) (n : Nat) : Option (Int × Neighbour) :=
  let gives (joins : Bool) (columns : Int) (neighbour : Neighbour) :=
    if joins then some (columns, neighbour) else none
  match right with
  | .alef => gives (isLam n) 0 .plain <|> gives (isTransparentMark n) 0 .alef
  | .lamed linked => gives (linked && n == 0x5d0) 0 .plain
  | .coengLetter => gives (n == 0x17d2) (-1) .plain
  | .ya linked => gives (linked && n == 0x1a17) 0 .vowelYa
  | .vowelYa => gives (n == 0x1a15) 0 .plain
  | .tifinagh linked =>
    gives (n == 0x2d7f) 1 .tifinaghJoiner <|> gives (linked && isTifinagh n) 0 .plain
  | .tifinaghJoiner => gives (isTifinagh n) (-1) .plain
  | .lisuTone => gives (isFirstLisuTone n) 0 .plain
  | .orkhonI linked => gives (linked && n == 0x10c32) 0 .plain
  | .kiratE =>
    gives (n == 0x16d63 || n == 0x16d69) 0 .plain <|> gives (n == 0x16d67) 0 .kiratAi <|>
      gives (n == 0x16d68) 1 .kiratE
  | .kiratAi => gives (n == 0x16d63) 0 .plain
  | .tone => gives (isToneBase n) 0 .pictograph <|> gives (n == 0x200d) 0 .linkedPictograph
  | .pictograph => gives (n == 0x200d) 0 .linkedPictograph
  | .flagLetter => gives (isFlagLetter n) 1 .flagLetters
  | .flagLetters =>
    gives (isFlagLetter n) 1 .flagLetters <|> gives (n == 0x200d) 0 .linkedPictograph
  | .linkedPictograph => link? n
  | .linkedFlagLetter => gives (isFlagLetter n) (-1) .linkedFlag
  | .linkedFlag =>
    gives (isFlagLetter n) 3 .linkedFlagAndLetter <|> gives (n == 0x200d) 0 .linkedPictograph
  | .linkedFlagAndLetter =>
    gives (isFlagLetter n) (-1) .linkedFlag <|> gives (n == 0x200d) 0 .linkedPictograph
  | .tagEnd | .tagLetters _ | .tagDigits _ => (tag? right n).map fun neighbour => (0, neighbour)
  | .plain | .lineFeed | .linkedKeycap => none

/-- One of the curly quotes, which a selector makes as wide as an ideograph. -/
def isCurlyQuote (n : Nat) : Bool :=
  n == 0x2018 || n == 0x2019 || n == 0x201c || n == 0x201d

/-- The columns that a character takes because of the selector after it. -/
def selected? (selector : Selector) (right : Neighbour) (n : Nat) : Option (Int × Neighbour) :=
  match selector with
  | .pictograph =>
    if isVariationBase n then some (if right.isLinked then 0 else 2, .pictograph) else none
  | .text => if isTextBase n then some (1, .plain) else none
  | .fullWidth => if isCurlyQuote n then some (2, .plain) else none

/-- The columns of a character, none of them a selector, and what it is to the
one before it. -/
def unselected (right : Neighbour) (n : Nat) : Int × Context :=
  if n == 0x0a then (1, .beside .lineFeed)
  else if n == 0x0d && right == .lineFeed then (0, .plain)
  else if n ≤ 0xa0 then (1, .plain)
  else if right.reachesAcross && n == 0x200d then (0, .beside right.linked)
  else if right.reachesAcross && isIgnorableMark n then (0, .beside right)
  else
    match join? right n with
    | some (columns, neighbour) => (columns, .beside neighbour)
    | none => (columnsAlone n, .beside (neighbourOf n))

/-- The columns that a character adds to what stands right of it, and what it
leaves for the character before it. -/
def step (c : Char) (right : Context) : Int × Context :=
  let n := c.toNat
  match right.selector.bind fun selector => selected? selector right.neighbour n with
  | some (columns, neighbour) => (columns, .beside neighbour)
  | none =>
    let right := if right.selector.isSome then right.unselect else right
    match selectorOf? n with
    | some selector => (0, right.select selector)
    | none => unselected right.neighbour n

/-- The columns of the characters, and what they leave for one before them. -/
def ofChars (cs : List Char) : Int × Context :=
  cs.foldr
    (fun c right =>
      let (columns, left) := step c right.2
      (columns + right.1, left))
    (0, .plain)

end Columns

/-- The columns of a text. -/
def columns (text : String) : Nat :=
  (Columns.ofChars text.toList).1.toNat

example : columns "" = 0 := by decide +kernel
example : columns "\r\n" = 1 := by decide +kernel

end Provisioning.Text
