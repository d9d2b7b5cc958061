import Mathlib
import Provisioning.Proofs.Text.Numeral
import Provisioning.Status.Key

/-!
# Keys that are normalized again

A key is normalized one character at a time: each is marked (`keyMark`), and a seam opens
before a capital that begins a word.  `normalizeChars_cons` is this step, and the rest of
the file uses it in place of the definition.

Normal keys have no gaps and no lower case.  They still have seams to open, though, where
a lower-case letter stood right behind a digit: digits end words, and the letter is a
capital now.  `normalizeKey_again_eq_iff` says that this is all that a second pass does, so
that a key is left as it is if no such letter occurs in it, and a third pass changes
nothing any more.
-/

namespace Provisioning

/-! ## Marks and seams -/

/-- How a character is spelled in a normal key. -/
def keyMark (c : Char) : Char :=
  if isWordGap c then '_' else c.toUpper

/-- The underscore before a capital that begins a word. -/
def seam (afterWord : Bool) (c : Char) : List Char :=
  if afterWord && c.isUpper then ['_'] else []

theorem isWordGap_iff {c : Char} : isWordGap c = true ↔ c = '-' ∨ c = ' ' := by
  simp [isWordGap]

/-- One character is normalized. -/
theorem normalizeChars_cons (afterWord : Bool) (c : Char) (rest : List Char) :
    normalizeChars afterWord (c :: rest) =
      seam afterWord c ++ keyMark c :: normalizeChars (endsWord c) rest := by
  by_cases hgap : isWordGap c = true
  · rcases isWordGap_iff.mp hgap with rfl | rfl
    all_goals cases afterWord <;> rfl
  · rw [normalizeChars, if_neg hgap, keyMark, if_neg hgap, seam, Bool.and_comm]
    split <;> rfl

/-! ## Marks -/

theorem isLower_iff {c : Char} : c.isLower = true ↔ 97 ≤ c.toNat ∧ c.toNat ≤ 122 := by
  simp [Char.isLower, UInt32.le_iff_toNat_le, ← Char.toNat_val]

theorem isUpper_iff {c : Char} : c.isUpper = true ↔ 65 ≤ c.toNat ∧ c.toNat ≤ 90 := by
  simp [Char.isUpper, UInt32.le_iff_toNat_le, ← Char.toNat_val]

theorem isDigit_iff {c : Char} : c.isDigit = true ↔ 48 ≤ c.toNat ∧ c.toNat ≤ 57 := by
  simp [Char.isDigit, UInt32.le_iff_toNat_le, ← Char.toNat_val]

theorem isDigit_of_isLower {c : Char} (h : c.isLower = true) : c.isDigit = false := by
  rw [← Bool.not_eq_true, isDigit_iff]
  rw [isLower_iff] at h
  omega

theorem isLower_of_isDigit {c : Char} (h : c.isDigit = true) : c.isLower = false := by
  rw [← Bool.not_eq_true, isLower_iff]
  rw [isDigit_iff] at h
  omega

theorem isUpper_of_isDigit {c : Char} (h : c.isDigit = true) : c.isUpper = false := by
  rw [← Bool.not_eq_true, isUpper_iff]
  rw [isDigit_iff] at h
  omega

theorem isWordGap_of_endsWord {c : Char} (h : endsWord c = true) : isWordGap c = false := by
  rw [← Bool.not_eq_true, isWordGap_iff]
  rintro (rfl | rfl) <;> exact absurd h (by decide)

theorem isUpper_toUpper {c : Char} (h : c.isLower = true) : c.toUpper.isUpper = true := by
  rw [Char.isUpper_toUpper_eq_isAlpha, Char.isAlpha, h, Bool.or_true]

/-- A lower-case letter is marked by its capital, and a digit by itself. -/
theorem keyMark_of_endsWord {c : Char} (h : endsWord c = true) : keyMark c = c.toUpper := by
  rw [keyMark, isWordGap_of_endsWord h]
  rfl

theorem keyMark_of_isLower {c : Char} (h : c.isLower = true) : keyMark c = c.toUpper :=
  keyMark_of_endsWord (by rw [endsWord, h, Bool.true_or])

/-- Besides gaps and lower-case letters, each character marks itself. -/
theorem keyMark_of_not_isLower {c : Char} (hgap : isWordGap c = false) (h : c.isLower = false) :
    keyMark c = c := by
  rw [keyMark, hgap]
  exact Char.toUpper_eq_of_not_isLower (by rw [h]; exact Bool.false_ne_true)

theorem keyMark_cases (c : Char) :
    (isWordGap c = true ∧ keyMark c = '_') ∨ (c.isLower = true ∧ keyMark c = c.toUpper) ∨
      (isWordGap c = false ∧ c.isLower = false ∧ keyMark c = c) := by
  cases hgap : isWordGap c with
  | true => exact .inl ⟨rfl, by rw [keyMark, hgap]; rfl⟩
  | false =>
    cases hlower : c.isLower with
    | true => exact .inr (.inl ⟨rfl, keyMark_of_isLower hlower⟩)
    | false => exact .inr (.inr ⟨rfl, rfl, keyMark_of_not_isLower hgap hlower⟩)

/-- A mark is no gap. -/
theorem isWordGap_keyMark (c : Char) : isWordGap (keyMark c) = false := by
  rcases keyMark_cases c with ⟨-, heq⟩ | ⟨hlower, heq⟩ | ⟨hgap, -, heq⟩
  · rw [heq]; rfl
  · rw [heq, ← Bool.not_eq_true, isWordGap_iff]
    have hupper := isUpper_toUpper hlower
    rintro (h | h) <;> rw [h] at hupper <;> exact absurd hupper (by decide)
  · rw [heq, hgap]

/-- And no lower-case letter. -/
theorem isLower_keyMark (c : Char) : (keyMark c).isLower = false := by
  rcases keyMark_cases c with ⟨-, heq⟩ | ⟨-, heq⟩ | ⟨-, hlower, heq⟩
  · rw [heq]; rfl
  · rw [heq, Char.isLower_toUpper_eq_false]
  · rw [heq, hlower]

theorem keyMark_keyMark (c : Char) : keyMark (keyMark c) = keyMark c :=
  keyMark_of_not_isLower (isWordGap_keyMark c) (isLower_keyMark c)

/-- Only a digit still ends a word once it is marked. -/
theorem endsWord_keyMark (c : Char) : endsWord (keyMark c) = c.isDigit := by
  rw [endsWord, isLower_keyMark, Bool.false_or]
  rcases keyMark_cases c with ⟨hgap, heq⟩ | ⟨hlower, heq⟩ | ⟨-, -, heq⟩
  · rcases isWordGap_iff.mp hgap with rfl | rfl <;> rfl
  · rw [heq, isDigit_of_isLower hlower, ← Bool.not_eq_true]
    intro hdigit
    exact absurd (isUpper_toUpper hlower) (by rw [isUpper_of_isDigit hdigit]; exact Bool.false_ne_true)
  · rw [heq]

/-- A letter is marked by a capital. -/
theorem isUpper_keyMark (c : Char) : (keyMark c).isUpper = c.isAlpha := by
  rcases keyMark_cases c with ⟨hgap, heq⟩ | ⟨hlower, heq⟩ | ⟨-, hlower, heq⟩
  · rcases isWordGap_iff.mp hgap with rfl | rfl <;> rfl
  · rw [heq, Char.isUpper_toUpper_eq_isAlpha]
  · rw [heq, Char.isAlpha, hlower, Bool.or_false]

/-- What is visible has a visible mark. -/
theorem isBlank_keyMark {c : Char} (h : Text.isBlank c = false) :
    Text.isBlank (keyMark c) = false := by
  rcases keyMark_cases c with ⟨-, heq⟩ | ⟨hlower, heq⟩ | ⟨-, -, heq⟩
  · rw [heq]; rfl
  · have hupper := isUpper_iff.mp (isUpper_toUpper hlower)
    rw [heq]
    simp only [Text.isBlank, Bool.or_eq_false_iff, Bool.and_eq_false_iff, decide_eq_false_iff_not,
      beq_eq_false_iff_ne]
    omega
  · rw [heq, h]

/-! ## Normal keys -/

theorem seam_cases (afterWord : Bool) (c : Char) :
    (afterWord = true ∧ c.isUpper = true ∧ seam afterWord c = ['_']) ∨
      (¬(afterWord = true ∧ c.isUpper = true) ∧ seam afterWord c = []) := by
  cases afterWord <;> cases hupper : c.isUpper <;> simp [seam, hupper]

/-- A text is normalized from its first character to its last. -/
theorem head?_normalizeChars (cs : List Char) :
    (normalizeChars false cs).head? = cs.head?.map keyMark := by
  cases cs with
  | nil => rfl
  | cons c rest => rw [normalizeChars_cons]; rfl

theorem getLast?_normalizeChars (afterWord : Bool) (cs : List Char) :
    (normalizeChars afterWord cs).getLast? = cs.getLast?.map keyMark := by
  induction cs generalizing afterWord with
  | nil => rfl
  | cons c rest ih =>
    rw [normalizeChars_cons, List.getLast?_append, List.getLast?_cons, List.getLast?_cons, ih]
    cases rest.getLast? <;> rfl

/-- There is nothing to trim from a key that is normalized. -/
theorem trimmed_normalizeChars (cs : List Char) :
    Text.trimmed (normalizeChars false (Text.trimmed cs)) =
      normalizeChars false (Text.trimmed cs) := by
  have hfirst : ∀ c ∈ (normalizeChars false (Text.trimmed cs)).head?, Text.isBlank c = false := by
    intro c hc
    rw [head?_normalizeChars, Option.mem_map] at hc
    obtain ⟨d, hd, rfl⟩ := hc
    exact isBlank_keyMark (Text.isBlank_head?_trimmed hd)
  have hlast : ∀ c ∈ (normalizeChars false (Text.trimmed cs)).getLast?, Text.isBlank c = false := by
    intro c hc
    rw [getLast?_normalizeChars, Option.mem_map] at hc
    obtain ⟨d, hd, rfl⟩ := hc
    exact isBlank_keyMark (Text.isBlank_getLast?_trimmed hd)
  have hnone : ∀ c ∈ ([] : List Char), Text.isBlank c = true := nofun
  have ends := Text.trimmed_append_of_ends hnone hfirst hlast hnone
  rwa [List.nil_append, List.append_nil] at ends

theorem normalizeKey_normalizeKey (key : String) :
    normalizeKey (normalizeKey key) =
      String.ofList (normalizeChars false (normalizeChars false (Text.trimmed key.toList))) := by
  simp only [normalizeKey, String.toList_ofList, trimmed_normalizeChars]

/-! ## The second pass -/

/-- No lower-case letter stands right behind a digit. -/
def DigitsEndWords (cs : List Char) : Prop :=
  cs.IsChain fun c next => c.isDigit = true → next.isLower = false

/-- What the second pass makes of a character that the first one has normalized: it opens a
seam before a letter that was a lower-case one, and changes nothing else. -/
theorem normalizeChars_again (again afterWord : Bool) (c : Char) (rest : List Char)
    (hafter : again = true → afterWord = true) :
    normalizeChars again (seam afterWord c ++ keyMark c :: rest) =
      (if again && c.isLower then ['_'] else []) ++
        (seam afterWord c ++ keyMark c :: normalizeChars c.isDigit rest) := by
  rcases seam_cases afterWord c with ⟨-, hupper, heq⟩ | ⟨hnone, heq⟩
  · have hlower : c.isLower = false := Bool.eq_false_iff.mpr (Char.not_isLower_of_isUpper hupper)
    have hgap : normalizeChars again ('_' :: keyMark c :: rest) =
        seam again '_' ++ '_' :: normalizeChars false (keyMark c :: rest) :=
      normalizeChars_cons again '_' _
    have hseam : seam again '_' = [] := by cases again <;> rfl
    rw [heq, hlower, Bool.and_false, List.singleton_append, hgap, hseam, normalizeChars_cons,
      keyMark_keyMark, endsWord_keyMark]
    rfl
  · have hseam : seam again (keyMark c) = if again && c.isLower then ['_'] else [] := by
      cases again with
      | false => rfl
      | true =>
        have hupper : c.isUpper = false := by
          rw [Bool.eq_false_iff]
          intro hupper
          exact hnone ⟨hafter rfl, hupper⟩
        rw [seam, isUpper_keyMark, Char.isAlpha, hupper, Bool.false_or]
    rw [heq, List.nil_append, List.nil_append, normalizeChars_cons, keyMark_keyMark,
      endsWord_keyMark, hseam]

/-- No underscore stands where the first pass has put a lower-case letter. -/
theorem head?_of_isLower {c : Char} (h : c.isLower = true) (afterWord : Bool) (rest : List Char) :
    (seam afterWord c ++ keyMark c :: rest).head? ≠ some '_' := by
  have hupper := isUpper_toUpper h
  have hseam : seam afterWord c = [] := by
    rw [seam, Bool.eq_false_iff.mpr (Char.not_isUpper_of_isLower h), Bool.and_false]
    rfl
  rw [hseam, keyMark_of_isLower h, List.nil_append, List.head?_cons]
  intro heq
  rw [Option.some.inj heq] at hupper
  exact absurd hupper (by decide)

theorem digitsEndWords_cons {c : Char} {rest : List Char} :
    DigitsEndWords (c :: rest) ↔
      (∀ next ∈ rest.head?, c.isDigit = true → next.isLower = false) ∧ DigitsEndWords rest :=
  List.isChain_cons

/-- A second pass over normalized characters changes nothing just when digits end words. -/
theorem normalizeChars_again_eq_iff (cs : List Char) (again afterWord : Bool)
    (hafter : again = true → afterWord = true) :
    normalizeChars again (normalizeChars afterWord cs) = normalizeChars afterWord cs ↔
      (∀ c ∈ cs.head?, again = true → c.isLower = false) ∧ DigitsEndWords cs := by
  induction cs generalizing again afterWord with
  | nil => exact iff_of_true rfl ⟨nofun, .nil⟩
  | cons c rest ih =>
    have hword : c.isDigit = true → endsWord c = true := by
      intro hdigit
      rw [endsWord, hdigit, Bool.or_true]
    rw [normalizeChars_cons, normalizeChars_again again afterWord c _ hafter, digitsEndWords_cons,
      ← ih c.isDigit (endsWord c) hword]
    cases hopens : again && c.isLower with
    | true =>
      obtain ⟨hagain, hlower⟩ := Bool.and_eq_true_iff.mp hopens
      refine iff_of_false ?_ ?_
      · intro heq
        apply head?_of_isLower hlower afterWord (normalizeChars (endsWord c) rest)
        rw [← heq]
        rfl
      · rintro ⟨hhead, -⟩
        have hnot := hhead c rfl hagain
        rw [hlower] at hnot
        exact absurd hnot (by decide)
    | false =>
      have hhead : ∀ d ∈ (c :: rest).head?, again = true → d.isLower = false := by
        rintro d ⟨⟩ hagain
        rwa [hagain, Bool.true_and] at hopens
      constructor
      · intro heq
        exact ⟨hhead, (List.cons.inj (List.append_cancel_left heq)).2⟩
      · rintro ⟨-, heq⟩
        rw [heq]
        rfl

/-! ## Keys -/

theorem isDigit_of_isBlank {c : Char} (h : Text.isBlank c = true) : c.isDigit = false := by
  rw [Bool.eq_false_iff]
  intro hdigit
  rw [Text.isBlank_of_isDigit hdigit] at h
  exact Bool.false_ne_true h

theorem isLower_of_isBlank {c : Char} (h : Text.isBlank c = true) : c.isLower = false := by
  rw [Bool.eq_false_iff]
  intro hlower
  rw [isLower_iff] at hlower
  simp only [Text.isBlank, Bool.or_eq_true, Bool.and_eq_true, decide_eq_true_eq, beq_iff_eq] at h
  omega

theorem digitsEndWords_of_no_lower {cs : List Char} (h : ∀ c ∈ cs, c.isLower = false) :
    DigitsEndWords cs := by
  apply List.Pairwise.isChain
  apply List.pairwise_of_forall_mem_list
  intro _ _ next hnext _
  exact h next hnext

theorem digitsEndWords_of_no_digit {cs : List Char} (h : ∀ c ∈ cs, c.isDigit = false) :
    DigitsEndWords cs := by
  apply List.Pairwise.isChain
  apply List.pairwise_of_forall_mem_list
  intro c hc _ _ hdigit
  rw [h c hc] at hdigit
  exact absurd hdigit Bool.false_ne_true

/-- Blanks are neither digits nor letters, so it does not matter here if they are trimmed. -/
theorem digitsEndWords_trimmed (cs : List Char) :
    DigitsEndWords (Text.trimmed cs) ↔ DigitsEndWords cs := by
  obtain ⟨before, after, heq, hbefore, hafter⟩ := Text.exists_eq_append_trimmed cs
  generalize Text.trimmed cs = word at heq ⊢
  subst heq
  rw [DigitsEndWords, DigitsEndWords, List.append_assoc, List.isChain_append, List.isChain_append]
  constructor
  · intro hword
    refine ⟨digitsEndWords_of_no_lower fun c hc => isLower_of_isBlank (hbefore c hc),
      ⟨hword, digitsEndWords_of_no_lower fun c hc => isLower_of_isBlank (hafter c hc), ?_⟩, ?_⟩
    · intro _ _ next hnext _
      exact isLower_of_isBlank (hafter next (List.mem_of_head? hnext))
    · intro c hc _ _ hdigit
      rw [isDigit_of_isBlank (hbefore c (List.mem_of_getLast? hc))] at hdigit
      exact absurd hdigit Bool.false_ne_true
  · rintro ⟨-, ⟨hword, -⟩, -⟩
    exact hword

/-- A normal key has no lower-case letters. -/
theorem isLower_of_mem_normalizeChars {afterWord : Bool} {cs : List Char} {c : Char}
    (h : c ∈ normalizeChars afterWord cs) : c.isLower = false := by
  induction cs generalizing afterWord with
  | nil => exact absurd h List.not_mem_nil
  | cons d rest ih =>
    rw [normalizeChars_cons, List.mem_append, List.mem_cons] at h
    rcases h with hseam | rfl | hrest
    · rcases seam_cases afterWord d with ⟨-, -, heq⟩ | ⟨-, heq⟩
      · rw [heq, List.mem_singleton] at hseam
        rw [hseam]
        rfl
      · rw [heq] at hseam
        exact absurd hseam List.not_mem_nil
    · exact isLower_keyMark d
    · exact ih hrest

/-- A second pass over a key changes nothing just when digits end words in it. -/
theorem normalizeKey_again_eq_iff (key : String) :
    normalizeKey (normalizeKey key) = normalizeKey key ↔ DigitsEndWords key.toList := by
  rw [normalizeKey_normalizeKey, normalizeKey, String.ofList_inj, ← digitsEndWords_trimmed,
    normalizeChars_again_eq_iff _ false false id]
  exact ⟨fun h => h.2, fun h => ⟨fun _ _ hfalse => absurd hfalse Bool.false_ne_true, h⟩⟩

/-- A key that is normalized is left as it is by a second pass just when no lower-case
letter stands right behind a digit in it, and by a third pass always. -/
theorem normalizeKey_settles (key : String) :
    (normalizeKey (normalizeKey key) = normalizeKey key ↔
      ∀ before digit letter after, key.toList = before ++ digit :: letter :: after →
        digit.isDigit = true → letter.isLower = false) ∧
    normalizeKey (normalizeKey (normalizeKey key)) = normalizeKey (normalizeKey key) := by
  constructor
  · rw [normalizeKey_again_eq_iff, DigitsEndWords, List.isChain_iff_forall_rel_of_append_cons_cons]
    exact ⟨fun h _ _ _ _ heq => h heq, fun h _ _ _ _ heq => h _ _ _ _ heq⟩
  · rw [normalizeKey_again_eq_iff]
    apply digitsEndWords_of_no_lower
    intro c hc
    rw [normalizeKey, String.toList_ofList] at hc
    exact isLower_of_mem_normalizeChars hc

/-- A lower-case letter right behind a digit is a capital after the first pass, and the
second one takes it to begin a word. -/
theorem normalized_key_changes :
    normalizeKey "deploy2x" = "DEPLOY2X" ∧ normalizeKey "DEPLOY2X" = "DEPLOY2_X" := by
  decide

end Provisioning
