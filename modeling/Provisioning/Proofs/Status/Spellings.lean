import Mathlib.Data.List.Basic
import Provisioning.Order
import Provisioning.Proofs.Status.Normalization
import Provisioning.Status

/-!
# Spellings of one key

A key is made of words, and there are several ways to spell the words in a row.
`Spelling.write` spells them, and `normalizeKey_write` says that normalizing takes every
spelling, whatever blanks surround it, to `normalKey`.

There are four groups.

* Rows of characters.  `normalizeChars_append` takes a row apart; all that passes from one
  part to the next is whether a word has ended there.
* Words.  Each form of a word is normalized to the word in upper case, and a capitalized
  word leaves behind that a word has ended.
* Spellings.  Separators and capitals are turned into the same underscores
  (`normalizeChars_row`).
* Blanks.  No spelling begins or ends with one, so just those around it are trimmed.

A word has two letters at least: a capital is told from the one before it only by a
lower-case letter or a digit between them.
-/

namespace Provisioning

/-! ## Rows of characters -/

/-- Whether a word has ended after these characters. -/
def wordEnded (afterWord : Bool) (cs : List Char) : Bool :=
  cs.foldl (fun _ c => endsWord c) afterWord

theorem normalizeChars_append (afterWord : Bool) (before after : List Char) :
    normalizeChars afterWord (before ++ after) =
      normalizeChars afterWord before ++ normalizeChars (wordEnded afterWord before) after := by
  induction before generalizing afterWord with
  | nil => rfl
  | cons c before ih =>
    rw [List.cons_append, normalizeChars_cons, normalizeChars_cons, ih, List.append_assoc,
      List.cons_append]
    rfl

/-- Without capitals there are no seams. -/
theorem normalizeChars_of_no_upper {cs : List Char} (afterWord : Bool)
    (h : ∀ c ∈ cs, c.isUpper = false) : normalizeChars afterWord cs = cs.map keyMark := by
  induction cs generalizing afterWord with
  | nil => rfl
  | cons c rest ih =>
    obtain ⟨hfirst, hrest⟩ := List.forall_mem_cons.mp h
    rw [normalizeChars_cons, ih _ hrest, seam, hfirst, Bool.and_false]
    rfl

theorem wordEnded_of_endsWord {cs : List Char} (afterWord : Bool) (some : cs ≠ [])
    (h : ∀ c ∈ cs, endsWord c = true) : wordEnded afterWord cs = true := by
  obtain ⟨before, last, rfl⟩ := (List.eq_nil_or_concat cs).resolve_left some
  rw [wordEnded, List.concat_eq_append, List.foldl_append]
  exact h last (by simp)

/-! ## Words -/

/-- A word of a key: lower-case letters, two at least, and digits behind them. -/
structure Word where
  letters : List Char
  digits : List Char
  two_le : 2 ≤ letters.length
  lower : ∀ c ∈ letters, c.isLower = true
  digit : ∀ c ∈ digits, c.isDigit = true

namespace Word

def lowercase (w : Word) : List Char :=
  w.letters ++ w.digits

def uppercase (w : Word) : List Char :=
  w.lowercase.map Char.toUpper

def capitalized (w : Word) : List Char :=
  w.lowercase.modifyHead Char.toUpper

theorem mem_lowercase (w : Word) {c : Char} (h : c ∈ w.lowercase) :
    c.isLower = true ∨ c.isDigit = true :=
  (List.mem_append.mp h).imp (w.lower c) (w.digit c)

theorem endsWord_of_mem (w : Word) {c : Char} (h : c ∈ w.lowercase) : endsWord c = true :=
  Bool.or_eq_true_iff.mpr (w.mem_lowercase h)

theorem isUpper_of_mem (w : Word) {c : Char} (h : c ∈ w.lowercase) : c.isUpper = false := by
  rcases w.mem_lowercase h with hlower | hdigit
  · exact Bool.eq_false_iff.mpr (Char.not_isUpper_of_isLower hlower)
  · exact isUpper_of_isDigit hdigit

theorem isBlank_of_mem (w : Word) {c : Char} (h : c ∈ w.lowercase) : Text.isBlank c = false := by
  rw [Bool.eq_false_iff]
  intro hblank
  rcases w.mem_lowercase h with hlower | hdigit
  · rw [isLower_of_isBlank hblank] at hlower
    exact Bool.false_ne_true hlower
  · rw [isDigit_of_isBlank hblank] at hdigit
    exact Bool.false_ne_true hdigit

theorem map_keyMark (w : Word) : w.lowercase.map keyMark = w.uppercase :=
  List.map_congr_left fun _ h => keyMark_of_endsWord (w.endsWord_of_mem h)

/-- No letter of a word follows a digit of it. -/
theorem digitsEndWords (w : Word) : DigitsEndWords w.lowercase := by
  have hletters : ∀ c ∈ w.letters, c.isDigit = false :=
    fun c hc => isDigit_of_isLower (w.lower c hc)
  refine List.isChain_append.mpr ⟨digitsEndWords_of_no_digit hletters,
    digitsEndWords_of_no_lower fun c hc => isLower_of_isDigit (w.digit c hc), ?_⟩
  intro c hc _ _ hdigit
  rw [hletters c (List.mem_of_getLast? hc)] at hdigit
  exact absurd hdigit Bool.false_ne_true

theorem normalizeChars_lowercase (w : Word) (afterWord : Bool) :
    normalizeChars afterWord w.lowercase = w.uppercase := by
  rw [normalizeChars_of_no_upper afterWord fun _ => w.isUpper_of_mem, w.map_keyMark]

/-- A word in upper case is left as it is, since its digits come last. -/
theorem normalizeChars_uppercase (w : Word) : normalizeChars false w.uppercase = w.uppercase := by
  have again := (normalizeChars_again_eq_iff w.lowercase false false id).mpr
    ⟨fun _ _ h => absurd h Bool.false_ne_true, w.digitsEndWords⟩
  rwa [w.normalizeChars_lowercase] at again

/-- There is more to a word than the letter that is made a capital. -/
theorem exists_lowercase (w : Word) :
    ∃ c rest, w.lowercase = c :: rest ∧ c.isLower = true ∧ rest ≠ [] ∧
      ∀ e ∈ rest, e ∈ w.lowercase := by
  obtain ⟨letters, digits, two_le, lower, digit⟩ := w
  match letters, two_le with
  | c :: d :: more, _ =>
    exact ⟨c, d :: (more ++ digits), rfl, lower c List.mem_cons_self, List.cons_ne_nil _ _,
      fun e he => List.mem_cons_of_mem c he⟩

/-- The capital of a word opens a seam behind another word. -/
theorem normalizeChars_capitalized (w : Word) (afterWord : Bool) :
    normalizeChars afterWord w.capitalized =
      (if afterWord then ['_'] else []) ++ w.uppercase := by
  obtain ⟨c, rest, hlowercase, hlower, -, hrest⟩ := w.exists_lowercase
  have hmark : keyMark c.toUpper = c.toUpper := by
    rw [← keyMark_of_isLower hlower, keyMark_keyMark]
  have huppercase : w.uppercase = c.toUpper :: rest.map keyMark := by
    rw [← w.map_keyMark, hlowercase, List.map_cons, keyMark_of_isLower hlower]
  rw [capitalized, huppercase, hlowercase, List.modifyHead_cons, normalizeChars_cons, seam,
    isUpper_toUpper hlower, Bool.and_true, hmark,
    normalizeChars_of_no_upper _ fun e he => w.isUpper_of_mem (hrest e he)]

/-- And the letters behind the capital end the word, whether or not digits follow. -/
theorem wordEnded_capitalized (w : Word) (afterWord : Bool) :
    wordEnded afterWord w.capitalized = true := by
  obtain ⟨c, rest, hlowercase, -, some, hrest⟩ := w.exists_lowercase
  rw [capitalized, hlowercase]
  apply wordEnded_of_endsWord (endsWord c.toUpper) some
  intro e he
  exact w.endsWord_of_mem (hrest e he)

end Word

/-! ## Spellings -/

/-- The ways to spell the words of a key in a row. -/
inductive Spelling where
  | upperCamel
  | lowerSnake
  | upperUnderscore
  | lowerHyphen
  | spaced
deriving DecidableEq, Repr

namespace Spelling

/-- The form of the words. -/
def form : Spelling → Word → List Char
  | upperCamel => Word.capitalized
  | upperUnderscore => Word.uppercase
  | lowerSnake | lowerHyphen | spaced => Word.lowercase

/-- What stands between them. -/
def separator : Spelling → List Char
  | upperCamel => []
  | lowerSnake | upperUnderscore => ['_']
  | lowerHyphen => ['-']
  | spaced => [' ']

def row (s : Spelling) (words : List Word) : List Char :=
  s.separator.intercalate (words.map s.form)

/-- The key that is made of these words. -/
def write (s : Spelling) (words : List Word) : String :=
  String.ofList (s.row words)

end Spelling

/-- What all spellings are normalized to: the words in upper case, joined by underscores. -/
def normalKey (words : List Word) : List Char :=
  ['_'].intercalate (words.map Word.uppercase)

/-- A separator becomes an underscore, and a word begins behind it. -/
theorem normalizeChars_separator {c : Char} (h : c = '_' ∨ isWordGap c = true) (afterWord : Bool)
    (rest : List Char) :
    normalizeChars afterWord (c :: rest) = '_' :: normalizeChars false rest := by
  have hcases : c = '_' ∨ c = '-' ∨ c = ' ' := h.imp_right isWordGap_iff.mp
  rcases hcases with rfl | rfl | rfl
  all_goals
    rw [normalizeChars_cons]
    cases afterWord <;> rfl

/-- Words with separators between them are normalized one by one. -/
theorem normalizeChars_separated {c : Char} (h : c = '_' ∨ isWordGap c = true)
    {form : Word → List Char} (hform : ∀ w, normalizeChars false (form w) = w.uppercase)
    (words : List Word) :
    normalizeChars false ([c].intercalate (words.map form)) = normalKey words := by
  rw [normalKey]
  induction words with
  | nil => rfl
  | cons w words ih =>
    cases words with
    | nil => simp only [List.map_cons, List.map_nil, List.intercalate_singleton, hform]
    | cons next words =>
      simp only [List.map_cons] at ih ⊢
      rw [List.intercalate_cons_cons, List.intercalate_cons_cons, List.append_assoc,
        normalizeChars_append, hform, List.singleton_append, normalizeChars_separator h, ih,
        List.append_assoc, List.singleton_append]

/-- Without separators, each capital opens the seam behind the word before it. -/
theorem normalizeChars_capitals (w : Word) (words : List Word) (afterWord : Bool) :
    normalizeChars afterWord ([].intercalate ((w :: words).map Word.capitalized)) =
      (if afterWord then ['_'] else []) ++ normalKey (w :: words) := by
  rw [normalKey]
  induction words generalizing w afterWord with
  | nil =>
    simp only [List.map_cons, List.map_nil, List.intercalate_singleton, w.normalizeChars_capitalized]
  | cons next words ih =>
    have hnext := ih next true
    simp only [List.map_cons] at hnext ⊢
    rw [List.intercalate_cons_cons, List.intercalate_cons_cons, List.append_nil,
      normalizeChars_append, w.normalizeChars_capitalized, w.wordEnded_capitalized, hnext,
      List.append_assoc, List.append_assoc]
    rfl

theorem normalizeChars_row (s : Spelling) (words : List Word) :
    normalizeChars false (s.row words) = normalKey words := by
  cases s with
  | upperCamel =>
    cases words with
    | nil => rfl
    | cons w words => exact normalizeChars_capitals w words false
  | lowerSnake => exact normalizeChars_separated (.inl rfl) (·.normalizeChars_lowercase false) words
  | upperUnderscore => exact normalizeChars_separated (.inl rfl) Word.normalizeChars_uppercase words
  | lowerHyphen => exact normalizeChars_separated (.inr rfl) (·.normalizeChars_lowercase false) words
  | spaced => exact normalizeChars_separated (.inr rfl) (·.normalizeChars_lowercase false) words

/-! ## Blanks around a key -/

/-- Spelling a word changes the case of its letters at most. -/
theorem exists_of_mem_form {s : Spelling} {w : Word} {c : Char} (h : c ∈ s.form w) :
    ∃ d ∈ w.lowercase, c = d ∨ c = keyMark d := by
  cases s with
  | upperCamel =>
    obtain ⟨first, rest, hlowercase, hlower, -, hrest⟩ := w.exists_lowercase
    rw [Spelling.form, Word.capitalized, hlowercase, List.modifyHead_cons, List.mem_cons] at h
    rcases h with rfl | h
    · refine ⟨first, ?_, .inr (keyMark_of_isLower hlower).symm⟩
      rw [hlowercase]
      exact List.mem_cons_self
    · exact ⟨c, hrest c h, .inl rfl⟩
  | upperUnderscore =>
    rw [Spelling.form, ← w.map_keyMark, List.mem_map] at h
    obtain ⟨d, hd, rfl⟩ := h
    exact ⟨d, hd, .inr rfl⟩
  | lowerSnake | lowerHyphen | spaced => exact ⟨c, h, .inl rfl⟩

theorem isBlank_of_mem_form {s : Spelling} {w : Word} {c : Char} (h : c ∈ s.form w) :
    Text.isBlank c = false := by
  obtain ⟨d, hd, rfl | rfl⟩ := exists_of_mem_form h
  · exact w.isBlank_of_mem hd
  · exact isBlank_keyMark (w.isBlank_of_mem hd)

theorem form_ne_nil (s : Spelling) (w : Word) : s.form w ≠ [] := by
  obtain ⟨c, rest, hlowercase, -⟩ := w.exists_lowercase
  cases s <;> simp [Spelling.form, Word.capitalized, Word.uppercase, hlowercase]

theorem form_prefix_row (s : Spelling) (w : Word) (words : List Word) :
    s.form w <+: s.row (w :: words) := by
  cases words with
  | nil => simp [Spelling.row]
  | cons next words =>
    simp only [Spelling.row, List.map_cons, List.intercalate_cons_cons, List.append_assoc]
    exact List.prefix_append _ _

theorem exists_form_suffix_row (s : Spelling) (w : Word) (words : List Word) :
    ∃ last, s.form last <:+ s.row (w :: words) := by
  induction words generalizing w with
  | nil => exact ⟨w, by simp [Spelling.row]⟩
  | cons next words ih =>
    obtain ⟨last, hlast⟩ := ih next
    refine ⟨last, hlast.trans ?_⟩
    simp only [Spelling.row, List.map_cons, List.intercalate_cons_cons]
    exact List.suffix_append _ _

theorem trimmed_row (s : Spelling) (words : List Word) {before after : List Char}
    (hbefore : ∀ c ∈ before, Text.isBlank c = true) (hafter : ∀ c ∈ after, Text.isBlank c = true) :
    Text.trimmed (before ++ s.row words ++ after) = s.row words := by
  cases words with
  | nil => exact Text.trimmed_append_of_ends hbefore nofun nofun hafter
  | cons w words =>
    apply Text.trimmed_append_of_ends hbefore ?_ ?_ hafter
    · obtain ⟨rest, heq⟩ := form_prefix_row s w words
      intro c hc
      rw [← heq, List.head?_append_of_ne_nil _ (form_ne_nil s w)] at hc
      exact isBlank_of_mem_form (List.mem_of_head? hc)
    · obtain ⟨last, rest, heq⟩ := exists_form_suffix_row s w words
      intro c hc
      rw [← heq, List.getLast?_append_of_ne_nil _ (form_ne_nil s last)] at hc
      exact isBlank_of_mem_form (List.mem_of_getLast? hc)

/-! ## Keys -/

/-- Blanks around a key and the way its words are spelled do not matter. -/
theorem normalizeKey_write (s : Spelling) (words : List Word) {before after : String}
    (hbefore : Text.isBlankText before = true) (hafter : Text.isBlankText after = true) :
    normalizeKey (before ++ s.write words ++ after) = String.ofList (normalKey words) := by
  rw [normalizeKey, String.toList_append, String.toList_append, Spelling.write,
    String.toList_ofList, trimmed_row s words (List.all_eq_true.mp hbefore)
      (List.all_eq_true.mp hafter), normalizeChars_row]

/-- The key itself is the spelling in upper case with underscores. -/
theorem normalizeKey_normalKey (words : List Word) :
    normalizeKey (String.ofList (normalKey words)) = String.ofList (normalKey words) := by
  have hnone : Text.isBlankText "" = true := rfl
  have hwrite := normalizeKey_write .upperUnderscore words hnone hnone
  rwa [String.empty_append, String.append_empty] at hwrite

/-- All spellings of a key are normalized to the same one, so they name the same status. -/
theorem spellings_agree (s : Spelling) (words : List Word) (before after : String)
    (hbefore : Text.isBlankText before = true) (hafter : Text.isBlankText after = true) :
    let text := before ++ s.write words ++ after
    let key := String.ofList (['_'].intercalate (words.map Word.uppercase))
    normalizeKey text = key ∧
      OrderStatus.ofKey text = OrderStatus.ofKey key ∧
      HardwareStatus.ofKey text = HardwareStatus.ofKey key ∧
      PowerState.ofKey text = PowerState.ofKey key := by
  intro text key
  have hsame : normalizeKey text = normalizeKey key :=
    (normalizeKey_write s words hbefore hafter).trans (normalizeKey_normalKey words).symm
  refine ⟨normalizeKey_write s words hbefore hafter, ?_, ?_, ?_⟩
  · rw [OrderStatus.ofKey, hsame, OrderStatus.ofKey]
  · rw [HardwareStatus.ofKey, hsame, HardwareStatus.ofKey]
  · rw [PowerState.ofKey, hsame, PowerState.ofKey]

/-- The words of an inventory status. -/
def macWait : List Word :=
  [⟨['m', 'a', 'c'], [], by decide, by simp, nofun⟩,
    ⟨['w', 'a', 'i', 't'], [], by decide, by simp, nofun⟩]

theorem mac_wait_in_camels :
    let text := "\t " ++ Spelling.upperCamel.write macWait ++ "\n"
    Text.isBlankText "\t " = true ∧ Text.isBlankText "\n" = true ∧ text = "\t MacWait\n" ∧
      normalizeKey text = "MAC_WAIT" ∧ HardwareStatus.ofKey text = .macWait := by
  have agree := spellings_agree .upperCamel macWait "\t " "\n" (by decide) (by decide)
  have hkey : String.ofList (['_'].intercalate (macWait.map Word.uppercase)) = "MAC_WAIT" := by
    decide
  rw [hkey] at agree
  exact ⟨by decide, by decide, by decide, agree.1, agree.2.2.1.trans (by decide)⟩

end Provisioning
