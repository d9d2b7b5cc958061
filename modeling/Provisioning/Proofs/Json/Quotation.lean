import Mathlib.Data.List.Induction
import Provisioning.Json.Parser
import Provisioning.Json.Printer

/-!
# Strings in a text

What the printer writes for a string, the parser reads up to its closing quote,
whatever comes after it in the text: each character is read as one unit
(`scanString_escapeChar`), and the units are joined to the text again.  A reader
also learns whether a name was spelled with escapes, which is `Name.spelled`.
-/

namespace Provisioning.Json

/-- Whether a character stands in a string as an escape. -/
def isEscaped (c : Char) : Bool :=
  c.toNat < 0x20 || c == '"' || c == '\\'

/-- Digits stand in a string as they are. -/
theorem isEscaped_of_isDigit {c : Char} (h : c.isDigit = true) : isEscaped c = false := by
  have hrange : 48 ≤ c.toNat := by
    simp only [Char.isDigit, Bool.and_eq_true, decide_eq_true_eq] at h
    exact UInt32.le_iff_toNat_le.mp h.1
  have hquote : c ≠ '"' := by
    rintro rfl
    exact absurd h (by decide)
  have hslash : c ≠ '\\' := by
    rintro rfl
    exact absurd h (by decide)
  have hcontrol : ¬c.toNat < 0x20 := by omega
  simp [isEscaped, hquote, hslash, hcontrol]
/-- What a character is read as when it was written. -/
def spellUnit (c : Char) : TextUnit :=
  if isEscaped c then .escaped c else .plain c

/-- The characters of a text as they stand between the quotes. -/
def quoted (cs : List Char) : List Char :=
  cs.flatMap fun c => (escapeChar c).toList

theorem toList_quote (text : String) :
    (quote text).toList = '"' :: quoted text.toList ++ ['"'] := by
  have written : ∀ (cs : List Char) (front : String),
      (cs.foldl (fun written c => written ++ escapeChar c) front).toList =
        front.toList ++ quoted cs := by
    intro cs
    induction cs with
    | nil => simp [quoted]
    | cons c rest ih =>
      intro front
      rw [List.foldl_cons, ih]
      simp [quoted]
  rw [quote, String.toList_append, String.foldl_eq_foldl_toList, written]
  rfl

/-- The codes of control characters are read from two digits. -/
theorem hexNumber?_control :
    ∀ n < 0x20, hexNumber? ['0', '0', hexDigit (n / 16), hexDigit (n % 16)] = some n := by
  decide

/-- A control character that has no letter of its own is read from its code. -/
theorem scanString_code {c : Char} (control : c.toNat < 0x20) (units : List TextUnit)
    (rest : List Char) :
    scanString units ('\\' :: 'u' :: '0' :: '0' :: hexDigit (c.toNat / 16) ::
      hexDigit (c.toNat % 16) :: rest) = scanString (.escaped c :: units) rest := by
  have below : ¬(0xd800 ≤ c.toNat ∧ c.toNat < 0xe000) := by omega
  rw [scanString, hexNumber?_control c.toNat control]
  simp only [unitOfCode, if_neg below, Char.ofNat_toNat]

/-- A character that is not escaped is read as it is. -/
theorem scanString_plain {c : Char} (plain : isEscaped c = false) (units : List TextUnit)
    (rest : List Char) :
    scanString units (c :: rest) = scanString (.plain c :: units) rest := by
  simp only [isEscaped, Bool.or_eq_false_iff, decide_eq_false_iff_not, beq_eq_false_iff_ne] at plain
  obtain ⟨⟨visible, notQuote⟩, notSlash⟩ := plain
  rw [scanString]
  · rw [if_neg (by simp [visible, notSlash])]
  · exact notQuote
  · intro _ _ _ _ _ h
    exact absurd h notSlash
  · intro _ _ h
    exact absurd h notSlash

/-- Whatever stands for a character is read as that character. -/
theorem scanString_escapeChar (c : Char) (units : List TextUnit) (rest : List Char) :
    scanString units ((escapeChar c).toList ++ rest) =
      scanString (spellUnit c :: units) rest := by
  by_cases hquote : c = '"'
  · subst hquote
    rfl
  by_cases hslash : c = '\\'
  · subst hslash
    rfl
  by_cases hline : c = '\n'
  · subst hline
    rfl
  by_cases hreturn : c = '\r'
  · subst hreturn
    rfl
  by_cases htab : c = '\t'
  · subst htab
    rfl
  by_cases hback : c = '\x08'
  · subst hback
    rfl
  by_cases hfeed : c = '\x0c'
  · subst hfeed
    rfl
  by_cases hcontrol : c.toNat < 0x20
  · have hescape : (escapeChar c).toList =
        ['\\', 'u', '0', '0', hexDigit (c.toNat / 16), hexDigit (c.toNat % 16)] := by
      simp [escapeChar, *]
    have hunit : spellUnit c = .escaped c := by
      simp [spellUnit, isEscaped, hcontrol]
    rw [hescape, hunit]
    exact scanString_code hcontrol units rest
  · have hescape : (escapeChar c).toList = [c] := by
      simp [escapeChar, *]
    have hplain : isEscaped c = false := by
      simp [isEscaped, *]
    rw [hescape, spellUnit, if_neg (by simp [hplain])]
    exact scanString_plain hplain units rest

/-- A string is read up to its closing quote. -/
theorem scanString_quoted (cs : List Char) (units : List TextUnit) (rest : List Char) :
    scanString units (quoted cs ++ '"' :: rest) =
      some ((cs.map spellUnit).reverse ++ units, rest) := by
  induction cs generalizing units with
  | nil => rfl
  | cons c cs ih =>
    have hquoted : quoted (c :: cs) ++ '"' :: rest =
        (escapeChar c).toList ++ (quoted cs ++ '"' :: rest) := by
      simp [quoted]
    rw [hquoted, scanString_escapeChar, ih]
    simp

/-- Units of characters are joined to the text of these characters. -/
theorem joinUnits_spelled (cs text : List Char) :
    joinUnits text (cs.map spellUnit).reverse = some (cs ++ text) := by
  induction cs using List.reverseRecOn generalizing text with
  | nil => rfl
  | append_singleton cs c ih =>
    have hunits : ((cs ++ [c]).map spellUnit).reverse =
        spellUnit c :: (cs.map spellUnit).reverse := by
      simp
    have hjoin : ∀ units, joinUnits text (spellUnit c :: units) = joinUnits (c :: text) units := by
      intro units
      unfold spellUnit
      split <;> rfl
    rw [hunits, hjoin, ih]
    simp

/-- The name as a reader finds it, with the escapes that its spelling has. -/
def Name.spelled (name : Name) : Name :=
  ⟨name.text, name.text.toList.any isEscaped⟩

/-- The characters of a text between quotes are read as that text. -/
theorem parseString_quoted (text : String) (rest : List Char) :
    parseString (quoted text.toList ++ '"' :: rest) =
      some (some (Name.spelled ⟨text, false⟩), rest) := by
  have hplain : ∀ c, (spellUnit c).isPlain = !isEscaped c := by
    intro c
    unfold spellUnit
    cases isEscaped c <;> rfl
  have hescapes : (!(text.toList.map spellUnit).reverse.all (·.isPlain)) =
      text.toList.any isEscaped := by
    rw [List.all_reverse, List.all_map]
    simp only [Function.comp_def, hplain, ← List.not_any_eq_all_not, Bool.not_not]
  unfold parseString
  rw [scanString_quoted, List.append_nil, Option.map_some]
  dsimp only [nameOfUnits?]
  rw [joinUnits_spelled, List.append_nil, Option.map_some, hescapes]
  simp [Name.spelled]

end Provisioning.Json
