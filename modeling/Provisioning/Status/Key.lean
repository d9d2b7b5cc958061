import Provisioning.Text.Blank

/-!
# Spellings of a vendor key

The vendor spells one key in several ways: `PendingApproval`,
`pending_approval`, `PENDING-APPROVAL`.  `normalizeKey` brings them to one
spelling, upper case with underscores between the words.
-/

namespace Provisioning

/-- The characters that separate words, besides the underscore itself. -/
def isWordGap (c : Char) : Bool :=
  c == '-' || c == ' '

/-- Characters after which a capital begins a new word. -/
def endsWord (c : Char) : Bool :=
  c.isLower || c.isDigit

/-- The key in upper case: a gap becomes an underscore, and so does the seam
before a capital when `afterWord` says that a word has just ended.  Only ASCII
letters have cases here. -/
def normalizeChars (afterWord : Bool) : List Char → List Char
  | [] => []
  | c :: rest =>
    if isWordGap c then '_' :: normalizeChars false rest
    else if c.isUpper && afterWord then '_' :: c.toUpper :: normalizeChars (endsWord c) rest
    else c.toUpper :: normalizeChars (endsWord c) rest

/-- The one spelling of a key, whatever blanks surround it. -/
def normalizeKey (text : String) : String :=
  String.ofList (normalizeChars false (Text.trimmed text.toList))

end Provisioning
