import Provisioning.Text.Ranges

/-!
# Letters that join in their script

The classes of letters that some scripts draw together with a neighbour, so
that the two take less room than each by itself.
-/

namespace Provisioning.Text.Columns

/-- An Arabic letter with the Unicode property Joining_Group Alef. -/
def isAlef (n : Nat) : Bool :=
  inRanges [(0x622, 0x623), (0x625, 0x625), (0x627, 0x627), (0x671, 0x673), (0x675, 0x675),
    (0x773, 0x774), (0x870, 0x882)] n

/-- An Arabic letter with the Unicode property Joining_Group Lam. -/
def isLam (n : Nat) : Bool :=
  inRanges [(0x644, 0x644), (0x6b5, 0x6b8), (0x76a, 0x76a), (0x8a6, 0x8a6), (0x8c7, 0x8c7)] n

/-- A Khmer letter that is drawn below the one before it when the sign U+17D2
stands between them. -/
def isCoengLetter (n : Nat) : Bool :=
  inRanges [(0x1780, 0x1782), (0x1784, 0x1787), (0x1789, 0x178c), (0x178e, 0x1793),
    (0x1795, 0x1798), (0x179b, 0x179d), (0x17a0, 0x17a0), (0x17a2, 0x17a2), (0x17a7, 0x17a7),
    (0x17ab, 0x17ac), (0x17af, 0x17af)] n

/-- A consonant of Tifinagh. -/
def isTifinagh (n : Nat) : Bool :=
  (0x2d31 ≤ n && n ≤ 0x2d65) || n == 0x2d6f

/-- A second tone letter of Lisu. -/
def isSecondLisuTone (n : Nat) : Bool :=
  0xa4fc ≤ n && n ≤ 0xa4fd

/-- A first tone letter of Lisu. -/
def isFirstLisuTone (n : Nat) : Bool :=
  0xa4f8 ≤ n && n ≤ 0xa4fb

end Provisioning.Text.Columns
