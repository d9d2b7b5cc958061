import Provisioning.Proofs.Status.Normalization
import Provisioning.Status

/-!
# Keys that are recognized

Normalizing a key puts separators between its words and replaces those that are there, and
it writes the letters in upper case.  Nothing else happens to a character, so the letters of
a normal key are those of the key (`keyLetters_normalizeKey`), and keys that are normalized
alike had the same letters before.

A status is recognized by its normal key.  `bareKey_eq_of_normalizeKey` takes this back to
the key itself, and `normalization_keeps_letters` says of every text that is recognized
which of the vendor's keys it spells.  The converse fails, since a separator may stand
within a word.
-/

namespace Provisioning

/-! ## Separators -/

/-- A character that only separates words, in a normal key or before. -/
def isSeparator (c : Char) : Bool :=
  c == '_' || isWordGap c

/-- What a key consists of besides its separators. -/
def keyLetters (cs : List Char) : List Char :=
  cs.filter fun c => !isSeparator c

theorem isSeparator_iff {c : Char} : isSeparator c = true ↔ c = '_' ∨ c = '-' ∨ c = ' ' := by
  simp [isSeparator, isWordGap]

theorem isSeparator_of_isAlpha {c : Char} (h : c.isAlpha = true) : isSeparator c = false := by
  rw [Bool.eq_false_iff]
  intro hseparator
  rcases isSeparator_iff.mp hseparator with rfl | rfl | rfl
  all_goals exact absurd h (by decide)

/-- A character stays what it is when it is marked: a separator or none. -/
theorem isSeparator_keyMark (c : Char) : isSeparator (keyMark c) = isSeparator c := by
  rcases keyMark_cases c with ⟨hgap, heq⟩ | ⟨hlower, heq⟩ | ⟨-, -, heq⟩
  · rw [heq, isSeparator, isSeparator, hgap, Bool.or_true]
    rfl
  · have hupper : (c.toUpper).isAlpha = true := by
      rw [Char.isAlpha, isUpper_toUpper hlower, Bool.true_or]
    have halpha : c.isAlpha = true := by
      rw [Char.isAlpha, hlower, Bool.or_true]
    rw [heq, isSeparator_of_isAlpha hupper, isSeparator_of_isAlpha halpha]
  · rw [heq]

theorem keyMark_of_not_isSeparator {c : Char} (h : isSeparator c = false) :
    keyMark c = c.toUpper := by
  have hgap : isWordGap c = false := (Bool.or_eq_false_iff.mp h).2
  rw [keyMark, hgap]
  rfl

/-! ## Letters -/

theorem keyLetters_append (cs ds : List Char) :
    keyLetters (cs ++ ds) = keyLetters cs ++ keyLetters ds :=
  List.filter_append cs ds

theorem keyLetters_cons_of_isSeparator {c : Char} (h : isSeparator c = true) (cs : List Char) :
    keyLetters (c :: cs) = keyLetters cs :=
  List.filter_cons_of_neg (by simp [h])

theorem keyLetters_cons_of_not_isSeparator {c : Char} (h : isSeparator c = false)
    (cs : List Char) : keyLetters (c :: cs) = c :: keyLetters cs :=
  List.filter_cons_of_pos (by simp [h])

/-- A seam is made of separators. -/
theorem keyLetters_seam (afterWord : Bool) (c : Char) : keyLetters (seam afterWord c) = [] := by
  rcases seam_cases afterWord c with ⟨-, -, heq⟩ | ⟨-, heq⟩
  · rw [heq]
    rfl
  · rw [heq]
    rfl

/-- Normalizing keeps the letters in their order and makes them capitals. -/
theorem keyLetters_normalizeChars (afterWord : Bool) (cs : List Char) :
    keyLetters (normalizeChars afterWord cs) = (keyLetters cs).map Char.toUpper := by
  induction cs generalizing afterWord with
  | nil => rfl
  | cons c rest ih =>
    rw [normalizeChars_cons, keyLetters_append, keyLetters_seam, List.nil_append]
    -- a separator is dropped before and after, and what is no separator is a letter in both
    cases hseparator : isSeparator c with
    | true =>
      have hmark : isSeparator (keyMark c) = true := by rw [isSeparator_keyMark, hseparator]
      rw [keyLetters_cons_of_isSeparator hmark, keyLetters_cons_of_isSeparator hseparator, ih]
    | false =>
      have hmark : isSeparator (keyMark c) = false := by rw [isSeparator_keyMark, hseparator]
      rw [keyLetters_cons_of_not_isSeparator hmark,
        keyLetters_cons_of_not_isSeparator hseparator, ih, List.map_cons,
        keyMark_of_not_isSeparator hseparator]

theorem keyLetters_normalizeKey (text : String) :
    keyLetters (normalizeKey text).toList =
      (keyLetters (Text.trimmed text.toList)).map Char.toUpper := by
  rw [normalizeKey, String.toList_ofList, keyLetters_normalizeChars]

/-- A key reduced to its letters: trimmed, without separators and in upper case. -/
def bareKey (text : String) : String :=
  String.ofList ((keyLetters (Text.trimmed text.toList)).map Char.toUpper)

/-- The normal key tells the letters. -/
theorem bareKey_eq_of_normalizeKey {text key : String} (h : normalizeKey text = key) :
    bareKey text = String.ofList (keyLetters key.toList) := by
  rw [bareKey, ← keyLetters_normalizeKey, h]

/-! ## Statuses -/

/-- The vendor's keys for the states of a resource, and the statuses that they stand for.
The state `MACWAIT` has a second normal key, with a separator in it. -/
def ResourceKind.vendorKeys : ResourceKind → List (String × CanonicalStatus)
  | .bareMetal =>
    [("ACTIVE", .running), ("DEPLOY", .pending), ("DEPLOY2", .pending), ("MACWAIT", .pending),
      ("RECLAIM", .suspended)]
  | .virtualGuest => [("HALTED", .pending), ("PAUSED", .suspended), ("RUNNING", .running)]

/-- The inventory statuses of servers. -/
theorem HardwareStatus.mem_vendorKeys {text : String}
    (recognized : HardwareStatus.ofKey text ≠ .unrecognized) :
    (bareKey text, (HardwareStatus.ofKey text).canonical) ∈ ResourceKind.bareMetal.vendorKeys := by
  revert recognized
  unfold HardwareStatus.ofKey
  split
  case h_7 => exact fun recognized => absurd rfl recognized
  all_goals
    rename_i hkey
    intro _
    rw [bareKey_eq_of_normalizeKey hkey]
    decide

/-- The power states of guests. -/
theorem PowerState.mem_vendorKeys {text : String}
    (recognized : PowerState.ofKey text ≠ .unrecognized) :
    (bareKey text, (PowerState.ofKey text).canonical) ∈ ResourceKind.virtualGuest.vendorKeys := by
  revert recognized
  unfold PowerState.ofKey
  split
  case h_4 => exact fun recognized => absurd rfl recognized
  all_goals
    rename_i hkey
    intro _
    rw [bareKey_eq_of_normalizeKey hkey]
    decide

theorem mem_vendorKeys_of_recognized {kind : ResourceKind} {text : String}
    (recognized : CanonicalStatus.ofKey kind (some text) ≠ .unrecognized) :
    (bareKey text, CanonicalStatus.ofKey kind (some text)) ∈ kind.vendorKeys := by
  cases kind with
  | bareMetal =>
    apply HardwareStatus.mem_vendorKeys
    intro hunknown
    exact recognized (by rw [CanonicalStatus.ofKey, hunknown]; rfl)
  | virtualGuest =>
    apply PowerState.mem_vendorKeys
    intro hunknown
    exact recognized (by rw [CanonicalStatus.ofKey, hunknown]; rfl)

/-- Each key of the vendor stands for its status. -/
theorem ofKey_of_mem_vendorKeys {kind : ResourceKind} {key : String} {status : CanonicalStatus}
    (h : (key, status) ∈ kind.vendorKeys) : CanonicalStatus.ofKey kind (some key) = status := by
  have all : ∀ entry ∈ kind.vendorKeys, CanonicalStatus.ofKey kind (some entry.1) = entry.2 := by
    cases kind <;> decide
  exact all (key, status) h

/-- Normalizing loses, adds and moves no letter.  A text is recognized only if its letters
are those of one of the vendor's keys, and then its status is the status of that key. -/
theorem normalization_keeps_letters (text : String) :
    keyLetters (normalizeKey text).toList =
      (keyLetters (Text.trimmed text.toList)).map Char.toUpper ∧
    ∀ kind, CanonicalStatus.ofKey kind (some text) ≠ .unrecognized →
      ∃ key status, (key, status) ∈ kind.vendorKeys ∧ bareKey text = key ∧
        CanonicalStatus.ofKey kind (some key) = status ∧
        CanonicalStatus.ofKey kind (some text) = status := by
  refine ⟨keyLetters_normalizeKey text, fun kind recognized => ?_⟩
  have spelled := mem_vendorKeys_of_recognized recognized
  exact ⟨bareKey text, _, spelled, rfl, ofKey_of_mem_vendorKeys spelled, rfl⟩

/-- A separator in the place where the second normal key of `MACWAIT` has its own. -/
theorem hyphenated_mac_wait_keeps_letters :
    CanonicalStatus.ofKey .bareMetal (some "\tMac-wait ") ≠ .unrecognized ∧
      ∃ key status, (key, status) ∈ ResourceKind.bareMetal.vendorKeys ∧
        bareKey "\tMac-wait " = key ∧ CanonicalStatus.ofKey .bareMetal (some key) = status ∧
        CanonicalStatus.ofKey .bareMetal (some "\tMac-wait ") = status :=
  have recognized : CanonicalStatus.ofKey .bareMetal (some "\tMac-wait ") ≠ .unrecognized := by
    decide
  ⟨recognized, (normalization_keeps_letters "\tMac-wait ").2 .bareMetal recognized⟩

/-- The letters alone do not make a status: a separator within a word is kept. -/
example : bareKey "AC-TIVE" = "ACTIVE" ∧
    CanonicalStatus.ofKey .bareMetal (some "AC-TIVE") = .unrecognized := by
  decide

end Provisioning
