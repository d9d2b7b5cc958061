import Provisioning.Text.Blank
import Provisioning.Text.Numeral
import Mathlib.Data.List.TakeWhile

/-!
# Numerals that are read

A numeral is a row of decimal digits, and a plus sign may stand before it (`Numeral`).
The reader takes the numerals below its bound and nothing else
(`numeral?_eq_some_iff`).  Where blank characters may stand around the numeral they are
trimmed first, and then it takes the texts that denote a number (`Denotes`).

A number is written in decimal, without a sign and without leading zeros.  Such a
text is a numeral of the number, so the number is read back (`numeral?_toString`).
-/

namespace Provisioning.Text

theorem toList_toString (n : Nat) : (toString n).toList = Nat.toDigits 10 n := by
  have hrepr : toString n = Nat.repr n := rfl
  rw [hrepr, Nat.repr_eq_ofList_toDigits, String.toList_ofList]

/-- The integer of a natural number is written as the number. -/
theorem toList_intRepr (n : Nat) : (Int.repr n).toList = Nat.toDigits 10 n := by
  rw [Int.repr_eq_if, if_pos (Int.natCast_nonneg n), Int.toNat_natCast,
    Nat.repr_eq_ofList_toDigits, String.toList_ofList]

theorem isDigit_of_mem_toString {n : Nat} {c : Char} (h : c ∈ (toString n).toList) :
    c.isDigit = true := by
  rw [toList_toString] at h
  exact Nat.isDigit_of_mem_toDigits (by decide) (by decide) h

theorem toList_toString_ne_nil (n : Nat) : (toString n).toList ≠ [] := by
  rw [toList_toString]
  exact Nat.toDigits_ne_nil

/-! ## Numerals -/

/-- The number that a row of digits denotes, with or without a plus sign before it. -/
inductive Numeral : List Char → Nat → Prop where
  | plain {digits : List Char} (some : digits ≠ []) (digit : ∀ c ∈ digits, c.isDigit = true) :
    Numeral digits (Nat.ofDigitChars 10 digits 0)
  | signed {digits : List Char} (some : digits ≠ []) (digit : ∀ c ∈ digits, c.isDigit = true) :
    Numeral ('+' :: digits) (Nat.ofDigitChars 10 digits 0)

theorem unsigned_cases (cs : List Char) :
    (∃ digits, cs = '+' :: digits) ∨ unsigned cs = cs := by
  unfold unsigned
  split
  · exact .inl ⟨_, rfl⟩
  · exact .inr rfl

/-- A digit is no sign, so there is nothing to take off. -/
theorem unsigned_of_isDigit {digits : List Char} (h : ∀ c ∈ digits, c.isDigit = true) :
    unsigned digits = digits := by
  rcases unsigned_cases digits with ⟨_, rfl⟩ | heq
  · exact absurd (h '+' List.mem_cons_self) (by decide)
  · exact heq

/-- A numeral is told by what stands after its sign. -/
theorem numeral_iff {cs : List Char} {n : Nat} :
    Numeral cs n ↔ unsigned cs ≠ [] ∧ (∀ c ∈ unsigned cs, c.isDigit = true) ∧
      digitsValue (unsigned cs) = n := by
  constructor
  · intro h
    cases h with
    | plain some digit =>
      rw [unsigned_of_isDigit digit]
      exact ⟨some, digit, rfl⟩
    | signed some digit => exact ⟨some, digit, rfl⟩
  · rintro ⟨some, digit, rfl⟩
    rcases unsigned_cases cs with ⟨digits, rfl⟩ | heq
    · exact .signed some digit
    · rw [heq] at some digit ⊢
      exact .plain some digit

/-- The reader takes the numerals below its bound. -/
theorem numeral?_eq_some_iff {bound n : Nat} {cs : List Char} :
    numeral? bound cs = some n ↔ Numeral cs n ∧ n < bound := by
  simp only [numeral?, numeral_iff]
  generalize unsigned cs = digits
  split
  · rename_i h
    rw [Bool.or_eq_true, List.isEmpty_iff, Bool.not_eq_true', List.all_eq_false] at h
    simp only [reduceCtorEq, false_iff]
    rintro ⟨⟨some, digit, -⟩, -⟩
    rcases h with hnil | ⟨c, hc, hdigit⟩
    · exact some hnil
    · exact hdigit (digit c hc)
  · rename_i h
    rw [Bool.or_eq_true, not_or, List.isEmpty_iff, Bool.not_eq_true', Bool.not_eq_false,
      List.all_eq_true] at h
    simp only [Option.ite_none_right_eq_some, Option.some.injEq]
    constructor
    · rintro ⟨hbound, rfl⟩
      exact ⟨⟨h.1, h.2, rfl⟩, hbound⟩
    · rintro ⟨⟨-, -, rfl⟩, hbound⟩
      exact ⟨hbound, rfl⟩

theorem ofDigitChars_toString (n : Nat) : Nat.ofDigitChars 10 (toString n).toList 0 = n := by
  rw [toList_toString]
  exact Nat.ofDigitChars_ten_toDigits

/-- No two numbers are written alike. -/
theorem toList_toString_injective : Function.Injective fun n : Nat => (toString n).toList :=
  fun m n same => by
    rw [← ofDigitChars_toString m, ← ofDigitChars_toString n]
    exact congrArg (Nat.ofDigitChars 10 · 0) same

/-- A written number is a numeral of the number. -/
theorem numeral_toString (n : Nat) : Numeral (toString n).toList n := by
  have plain := Numeral.plain (toList_toString_ne_nil n) fun _ => isDigit_of_mem_toString
  rwa [ofDigitChars_toString] at plain

/-- A written number below the bound is read back. -/
theorem numeral?_toString {n bound : Nat} (h : n < bound) :
    numeral? bound (toString n).toList = some n :=
  numeral?_eq_some_iff.mpr ⟨numeral_toString n, h⟩

/-- What is read is below the bound. -/
theorem lt_of_numeral? {n bound : Nat} {cs : List Char} (h : numeral? bound cs = some n) :
    n < bound :=
  (numeral?_eq_some_iff.mp h).2

/-! ## Blanks around a numeral -/

/-- No digit is blank. -/
theorem isBlank_of_isDigit {c : Char} (h : c.isDigit = true) : isBlank c = false := by
  simp only [Char.isDigit, Bool.and_eq_true, decide_eq_true_eq] at h
  obtain ⟨hlow, hhigh⟩ := h
  have hlow : 48 ≤ c.toNat := hlow
  have hhigh : c.toNat ≤ 57 := hhigh
  simp only [isBlank, Bool.or_eq_false_iff, Bool.and_eq_false_iff, decide_eq_false_iff_not,
    beq_eq_false_iff_ne]
  omega

theorem Numeral.ne_nil {cs : List Char} {n : Nat} (h : Numeral cs n) : cs ≠ [] := by
  cases h with
  | plain some _ => exact some
  | signed _ _ => exact List.cons_ne_nil _ _

/-- No character of a numeral is blank. -/
theorem Numeral.visible {cs : List Char} {n : Nat} (h : Numeral cs n) :
    ∀ c ∈ cs, isBlank c = false := by
  cases h with
  | plain _ digit => exact fun c hc => isBlank_of_isDigit (digit c hc)
  | signed _ digit =>
    refine List.forall_mem_cons.mpr ⟨by decide, fun c hc => isBlank_of_isDigit (digit c hc)⟩

theorem dropWhile_isBlank {cs : List Char} (hfirst : ∀ c ∈ cs.head?, isBlank c = false) :
    cs.dropWhile isBlank = cs := by
  cases cs with
  | nil => rfl
  | cons c rest => rw [List.dropWhile_cons_of_neg]; simp [hfirst c rfl]

/-- The blanks around a text that itself neither begins nor ends with one are trimmed. -/
theorem trimmed_append_of_ends {before text after : List Char}
    (hbefore : ∀ c ∈ before, isBlank c = true) (hfirst : ∀ c ∈ text.head?, isBlank c = false)
    (hlast : ∀ c ∈ text.getLast?, isBlank c = false) (hafter : ∀ c ∈ after, isBlank c = true) :
    trimmed (before ++ text ++ after) = text := by
  have hback : ∀ c ∈ after.reverse, isBlank c = true :=
    fun c hc => hafter c (List.mem_reverse.mp hc)
  have hend : text.reverse.dropWhile isBlank = text.reverse := by
    apply dropWhile_isBlank
    rwa [List.head?_reverse]
  have hrow : (before ++ text ++ after).dropWhile isBlank = (text ++ after).dropWhile isBlank := by
    rw [List.append_assoc, List.dropWhile_append_of_pos hbefore]
  rw [trimmed, hrow]
  cases text with
  | nil =>
    have hnil : after.dropWhile isBlank = [] := List.dropWhile_eq_nil_iff.mpr hafter
    rw [List.nil_append, hnil]
    rfl
  | cons c rest =>
    have hbegin : ((c :: rest) ++ after).dropWhile isBlank = (c :: rest) ++ after :=
      dropWhile_isBlank hfirst
    rw [hbegin, List.reverse_append, List.dropWhile_append_of_pos hback, hend, List.reverse_reverse]

/-- The blanks around a word are trimmed. -/
theorem trimmed_append {before word after : List Char} (hbefore : ∀ c ∈ before, isBlank c = true)
    (hword : ∀ c ∈ word, isBlank c = false) (hafter : ∀ c ∈ after, isBlank c = true) :
    trimmed (before ++ word ++ after) = word :=
  trimmed_append_of_ends hbefore (fun c hc => hword c (List.mem_of_head? hc))
    (fun c hc => hword c (List.mem_of_getLast? hc)) hafter

theorem isBlank_head?_dropWhile {cs : List Char} {c : Char}
    (h : c ∈ (cs.dropWhile isBlank).head?) : isBlank c = false := by
  have hnot := List.head?_dropWhile_not isBlank cs
  rw [Option.mem_def.mp h] at hnot
  exact hnot

/-- What is left after trimming ends with no blank. -/
theorem isBlank_getLast?_trimmed {cs : List Char} {c : Char} (h : c ∈ (trimmed cs).getLast?) :
    isBlank c = false := by
  rw [trimmed, List.getLast?_reverse] at h
  exact isBlank_head?_dropWhile h

theorem trimmed_append_takeWhile (cs : List Char) :
    trimmed cs ++ ((cs.dropWhile isBlank).reverse.takeWhile isBlank).reverse =
      cs.dropWhile isBlank := by
  rw [trimmed, ← List.reverse_append, List.takeWhile_append_dropWhile, List.reverse_reverse]

/-- And it begins with none. -/
theorem isBlank_head?_trimmed {cs : List Char} {c : Char} (h : c ∈ (trimmed cs).head?) :
    isBlank c = false := by
  have hwhole : c ∈ (cs.dropWhile isBlank).head? := by
    rw [← trimmed_append_takeWhile, List.head?_append, Option.mem_def.mp h]
    rfl
  exact isBlank_head?_dropWhile hwhole

/-- Only blanks are trimmed. -/
theorem exists_eq_append_trimmed (cs : List Char) :
    ∃ before after, cs = before ++ trimmed cs ++ after ∧ (∀ c ∈ before, isBlank c = true) ∧
      ∀ c ∈ after, isBlank c = true := by
  refine ⟨cs.takeWhile isBlank, ((cs.dropWhile isBlank).reverse.takeWhile isBlank).reverse, ?_,
    fun c hc => List.mem_takeWhile_imp hc,
    fun c hc => List.mem_takeWhile_imp (List.mem_reverse.mp hc)⟩
  rw [List.append_assoc, trimmed_append_takeWhile, List.takeWhile_append_dropWhile]

/-- The text denotes a number below the bound: it is a numeral of the number, with blank
characters around it. -/
def Denotes (bound : Nat) (cs : List Char) (n : Nat) : Prop :=
  ∃ before numeral after, cs = before ++ numeral ++ after ∧
    (∀ c ∈ before, isBlank c = true) ∧ (∀ c ∈ after, isBlank c = true) ∧
    Numeral numeral n ∧ n < bound

/-- A written number below the bound denotes the number. -/
theorem denotes_toString {bound n : Nat} (h : n < bound) : Denotes bound (toString n).toList n :=
  ⟨[], (toString n).toList, [], (List.append_nil _).symm, fun _ h => absurd h List.not_mem_nil,
    fun _ h => absurd h List.not_mem_nil, numeral_toString n, h⟩

/-- A text that denotes a number is not blank. -/
theorem Denotes.exists_visible {bound n : Nat} {cs : List Char} (h : Denotes bound cs n) :
    ∃ c ∈ cs, isBlank c = false := by
  obtain ⟨before, numeral, after, rfl, -, -, numeral, -⟩ := h
  obtain ⟨c, hc⟩ := List.exists_mem_of_ne_nil _ numeral.ne_nil
  exact ⟨c, List.mem_append_left _ (List.mem_append_right _ hc), numeral.visible c hc⟩

/-- What is read after trimming is the number that the text denotes. -/
theorem numeral?_trimmed_eq_some_iff {bound n : Nat} {cs : List Char} :
    numeral? bound (trimmed cs) = some n ↔ Denotes bound cs n := by
  rw [numeral?_eq_some_iff]
  constructor
  · rintro ⟨numeral, hbound⟩
    obtain ⟨before, after, heq, hbefore, hafter⟩ := exists_eq_append_trimmed cs
    exact ⟨before, trimmed cs, after, heq, hbefore, hafter, numeral, hbound⟩
  · rintro ⟨before, word, after, rfl, hbefore, hafter, numeral, hbound⟩
    rw [trimmed_append hbefore numeral.visible hafter]
    exact ⟨numeral, hbound⟩

end Provisioning.Text
