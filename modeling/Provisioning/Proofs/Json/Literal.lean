import Mathlib.Data.List.TakeDrop
import Mathlib.Data.List.TakeWhile
import Provisioning.Json.Parser
import Provisioning.Json.Printer
import Provisioning.Proofs.Text.Numeral

/-!
# Numbers in a text

A number has no end of its own: it is over where a character comes that cannot go
on with it.  So what the parser makes of a number does not depend on what follows
if that is `Delimited` (`parseLiteral_append`).

A number is `Legible` if its text is read as the number.  Whole numbers of 64 bits
are (`legible_ofNat`).  A binary fraction is written with its shortest digits; that
they are read as the same fraction is `carries`, which can be checked for each of
them.
-/

namespace Provisioning.Json

/-! ## Parts of a number -/

/-- No number goes on here. -/
def Delimited (rest : List Char) : Prop :=
  ∀ c ∈ rest.head?, c.isDigit = false ∧ c ≠ '.' ∧ c ≠ 'e' ∧ c ≠ 'E'

theorem delimited_nil : Delimited [] :=
  nofun

variable {cs rest : List Char}

theorem spanDigits_append (h : Delimited rest) :
    spanDigits (cs ++ rest) = ((spanDigits cs).1, (spanDigits cs).2 ++ rest) := by
  unfold spanDigits
  simp only [List.span_eq_takeWhile_dropWhile]
  induction cs with
  | nil =>
    cases rest with
    | nil => rfl
    | cons c rest => simp [(h c rfl).1]
  | cons c cs ih =>
    cases hc : c.isDigit with
    | true => simpa [hc] using ih
    | false => simp [hc]

theorem isDigit_of_spanDigits {d : Char} {digits left : List Char}
    (h : spanDigits cs = (d :: digits, left)) : ∃ tail, cs = d :: tail ∧ d.isDigit = true := by
  unfold spanDigits at h
  rw [List.span_eq_takeWhile_dropWhile] at h
  have htake : cs.takeWhile Char.isDigit = d :: digits := congrArg Prod.fst h
  cases cs with
  | nil => cases htake
  | cons c cs =>
    cases hc : c.isDigit with
    | false => simp [hc] at htake
    | true =>
      simp only [List.takeWhile_cons, hc, if_true] at htake
      obtain ⟨rfl, -⟩ := List.cons.inj htake
      exact ⟨cs, rfl, hc⟩

/-- The digits of an exponent after its sign. -/
def exponentDigits (sign : Int) (cs : List Char) : Option (Option Int × List Char) :=
  match spanDigits cs with
  | ([], _) => none
  | (digits, rest) => some (some (sign * Text.digitsValue digits), rest)

theorem exponentDigits_append (h : Delimited rest) {sign : Int} {exponent : Option Int}
    {left : List Char} (read : exponentDigits sign cs = some (exponent, left)) :
    exponentDigits sign (cs ++ rest) = some (exponent, left ++ rest) := by
  unfold exponentDigits at read ⊢
  rw [spanDigits_append h]
  generalize spanDigits cs = spanned at read ⊢
  obtain ⟨digits, left'⟩ := spanned
  cases digits with
  | nil => cases read
  | cons d digits =>
    cases read
    rfl

/-- An exponent is read in the same way whatever comes after it. -/
theorem parseExponent_append (h : Delimited rest) {exponent : Option Int} {left : List Char}
    (read : parseExponent cs = some (exponent, left)) :
    parseExponent (cs ++ rest) = some (exponent, left ++ rest) := by
  have unsigned : ∀ s tail, s ≠ '+' → s ≠ '-' →
      parseExponent ('e' :: s :: tail) = exponentDigits 1 (s :: tail) ∧
      parseExponent ('E' :: s :: tail) = exponentDigits 1 (s :: tail) := by
    intro s tail hplus hminus
    have notPlus : ∀ more, s :: tail = '+' :: more → False :=
      fun _ h => hplus (List.cons.inj h).1
    have notMinus : ∀ more, s :: tail = '-' :: more → False :=
      fun _ h => hminus (List.cons.inj h).1
    constructor
    · rw [parseExponent]
      · rfl
      · exact notPlus
      · exact notMinus
    · rw [parseExponent]
      · rfl
      · exact notPlus
      · exact notMinus
  have absent : ∀ c tail, c ≠ 'e' → c ≠ 'E' →
      parseExponent (c :: tail) = some (none, c :: tail) := by
    intro c tail hlower hupper
    simp [parseExponent, hlower, hupper]
  cases cs with
  | nil =>
    cases read
    cases rest with
    | nil => rfl
    | cons c rest =>
      obtain ⟨-, -, hlower, hupper⟩ := h c rfl
      exact absent c rest hlower hupper
  | cons c cs =>
    by_cases hc : c = 'e' ∨ c = 'E'
    · cases cs with
      | nil => rcases hc with rfl | rfl <;> cases read
      | cons s cs =>
        simp only [List.cons_append]
        by_cases hplus : s = '+'
        · subst hplus
          rcases hc with rfl | rfl
          · exact exponentDigits_append h read
          · exact exponentDigits_append h read
        by_cases hminus : s = '-'
        · subst hminus
          rcases hc with rfl | rfl
          · exact exponentDigits_append h read
          · exact exponentDigits_append h read
        rcases hc with rfl | rfl
        · rw [(unsigned s cs hplus hminus).1] at read
          rw [(unsigned s (cs ++ rest) hplus hminus).1]
          exact exponentDigits_append h read
        · rw [(unsigned s cs hplus hminus).2] at read
          rw [(unsigned s (cs ++ rest) hplus hminus).2]
          exact exponentDigits_append h read
    · obtain ⟨hlower, hupper⟩ := not_or.mp hc
      rw [absent c cs hlower hupper] at read
      cases read
      exact absent c (cs ++ rest) hlower hupper

/-- A fraction is read in the same way whatever comes after it. -/
theorem parseFraction_append (h : Delimited rest) {fraction : Option (List Char)}
    {left : List Char} (read : parseFraction cs = some (fraction, left)) :
    parseFraction (cs ++ rest) = some (fraction, left ++ rest) := by
  have absent : ∀ c tail, c ≠ '.' → parseFraction (c :: tail) = some (none, c :: tail) := by
    intro c tail hpoint
    simp [parseFraction, hpoint]
  cases cs with
  | nil =>
    cases read
    cases rest with
    | nil => rfl
    | cons c rest => exact absent c rest (h c rfl).2.1
  | cons c cs =>
    by_cases hpoint : c = '.'
    · subst hpoint
      simp only [parseFraction, List.cons_append, spanDigits_append h] at read ⊢
      generalize spanDigits cs = spanned at read ⊢
      obtain ⟨digits, left'⟩ := spanned
      cases digits with
      | nil => cases read
      | cons d digits =>
        cases read
        rfl
    · rw [absent c cs hpoint] at read
      cases read
      exact absent c (cs ++ rest) hpoint

/-- The fraction and the exponent after the digits before the point. -/
def afterWhole (negative : Bool) (whole cs : List Char) : Option (Literal × List Char) :=
  match parseFraction cs with
  | none => none
  | some (fraction, rest) =>
    (parseExponent rest).map fun (exponent, rest) =>
      ({ negative := negative, whole := whole, fraction := fraction, exponent := exponent }, rest)

theorem afterWhole_append (h : Delimited rest) {negative : Bool} {whole : List Char}
    {literal : Literal} {left : List Char}
    (read : afterWhole negative whole cs = some (literal, left)) :
    afterWhole negative whole (cs ++ rest) = some (literal, left ++ rest) := by
  unfold afterWhole at read ⊢
  cases hfraction : parseFraction cs with
  | none =>
    rw [hfraction] at read
    cases read
  | some found =>
    obtain ⟨fraction, cs'⟩ := found
    rw [hfraction] at read
    obtain ⟨⟨exponent, left'⟩, hexponent, heq⟩ := Option.map_eq_some_iff.mp read
    cases heq
    rw [parseFraction_append h hfraction]
    dsimp only
    rw [parseExponent_append h hexponent]
    rfl

/-- The digits before the point are some, and without a zero in front. -/
theorem parseMagnitude_eq {negative : Bool} {d : Char} {digits after : List Char}
    (h : spanDigits cs = (d :: digits, after)) :
    parseMagnitude negative cs =
      if d = '0' ∧ digits ≠ [] then none else afterWhole negative (d :: digits) after := by
  unfold parseMagnitude
  rw [h]
  by_cases hzero : d = '0'
  · subst hzero
    cases digits <;> rfl
  · rw [if_neg (by simp [hzero])]
    simp only [afterWhole]
    split
    · rename_i heq
      cases heq
    · rename_i heq
      cases heq
      exact absurd rfl hzero
    · rename_i heq
      cases heq
      rfl

theorem parseMagnitude_append (h : Delimited rest) {negative : Bool} {literal : Literal}
    {left : List Char} (read : parseMagnitude negative cs = some (literal, left)) :
    parseMagnitude negative (cs ++ rest) = some (literal, left ++ rest) := by
  obtain ⟨whole, after, hspan⟩ : ∃ whole after, spanDigits cs = (whole, after) := ⟨_, _, rfl⟩
  cases whole with
  | nil =>
    unfold parseMagnitude at read
    rw [hspan] at read
    cases read
  | cons d digits =>
    have hspan' : spanDigits (cs ++ rest) = (d :: digits, after ++ rest) := by
      rw [spanDigits_append h, hspan]
    rw [parseMagnitude_eq hspan] at read
    rw [parseMagnitude_eq hspan']
    split at read
    · cases read
    · rename_i hdigits
      rw [if_neg hdigits]
      exact afterWhole_append h read

/-- What a number begins with. -/
def OpensNumber (c : Char) : Prop :=
  c.isDigit = true ∨ c = '-'

theorem parseLiteral_of_ne {c : Char} (h : c ≠ '-') :
    parseLiteral (c :: cs) = parseMagnitude false (c :: cs) := by
  simp [parseLiteral, h]

/-- A number is read in the same way whatever comes after it. -/
theorem parseLiteral_append (h : Delimited rest) {literal : Literal} {left : List Char}
    (read : parseLiteral cs = some (literal, left)) :
    parseLiteral (cs ++ rest) = some (literal, left ++ rest) := by
  cases cs with
  | nil => cases read
  | cons c cs =>
    by_cases hsign : c = '-'
    · subst hsign
      exact parseMagnitude_append h read
    · rw [parseLiteral_of_ne hsign] at read
      rw [List.cons_append, parseLiteral_of_ne hsign]
      exact parseMagnitude_append h read

theorem opensNumber_of_parseLiteral {found : Literal × List Char}
    (read : parseLiteral cs = some found) : ∃ c tail, cs = c :: tail ∧ OpensNumber c := by
  cases cs with
  | nil => cases read
  | cons c cs =>
    refine ⟨c, cs, rfl, ?_⟩
    by_cases hsign : c = '-'
    · exact .inr hsign
    · rw [parseLiteral_of_ne hsign] at read
      obtain ⟨whole, after, hspan⟩ : ∃ whole after, spanDigits (c :: cs) = (whole, after) :=
        ⟨_, _, rfl⟩
      cases whole with
      | nil =>
        unfold parseMagnitude at read
        rw [hspan] at read
        cases read
      | cons d digits =>
        obtain ⟨tail, heq, hdigit⟩ := isDigit_of_spanDigits hspan
        obtain ⟨rfl, -⟩ := List.cons.inj heq
        exact .inl hdigit

/-! ## Numbers that are read as they were written -/

/-- The value that the text of a number stands for, if it is one number and
nothing else. -/
def readNumber? (cs : List Char) : Option Json :=
  match parseLiteral cs with
  | some (literal, []) => some literal.toJson
  | _ => none

/-- The text of a number is read as that number. -/
def Number.Legible (value : Number) : Prop :=
  readNumber? value.write.toList = some (num value)

theorem Number.Legible.parse {value : Number} (legible : value.Legible) (h : Delimited rest) :
    (∃ c tail, value.write.toList = c :: tail ∧ OpensNumber c) ∧
      ∃ literal, parseLiteral (value.write.toList ++ rest) = some (literal, rest) ∧
        literal.toJson = num value := by
  unfold Number.Legible readNumber? at legible
  split at legible
  · rename_i literal read
    exact ⟨opensNumber_of_parseLiteral read, literal, parseLiteral_append h read,
      Option.some.inj legible⟩
  · cases legible

/-- Only the digits of zero begin with a zero. -/
theorem toDigits_eq_zero_cons {n : Nat} {digits : List Char}
    (h : Nat.toDigits 10 n = '0' :: digits) : digits = [] := by
  induction n using Nat.strongRecOn generalizing digits with
  | ind n ih =>
    rw [Nat.toDigits_eq_if (by decide)] at h
    split at h
    · exact (List.cons.inj h).2.symm
    · rename_i hlarge
      cases hfront : Nat.toDigits 10 (n / 10) with
      | nil => exact absurd hfront Nat.toDigits_ne_nil
      | cons d front =>
        rw [hfront] at h
        obtain ⟨rfl, -⟩ := List.cons.inj h
        rw [ih (n / 10) (by omega) hfront] at hfront
        have hzero : Nat.ofDigitChars 10 (Nat.toDigits 10 (n / 10)) 0 = 0 := by
          rw [hfront]
          rfl
        rw [Nat.ofDigitChars_ten_toDigits] at hzero
        omega

theorem toList_write_ofNat (n : Nat) : (Number.write (.whole n)).toList = Nat.toDigits 10 n :=
  Text.toList_intRepr n

/-- Whole numbers of 64 bits are read as they are. -/
theorem legible_ofNat {n : Nat} (h : n < Text.wordBound) : Number.Legible (.whole n) := by
  have hdigit : ∀ c ∈ Nat.toDigits 10 n, c.isDigit = true :=
    fun c hc => Nat.isDigit_of_mem_toDigits (by decide) (by decide) hc
  have hspan : spanDigits (Nat.toDigits 10 n) = (Nat.toDigits 10 n, []) := by
    unfold spanDigits
    rw [List.span_eq_takeWhile_dropWhile, List.takeWhile_eq_self_iff.mpr hdigit,
      List.dropWhile_eq_nil_iff.mpr hdigit]
  have hvalue : Text.digitsValue (Nat.toDigits 10 n) = n := Nat.ofDigitChars_ten_toDigits
  unfold Number.Legible readNumber?
  rw [toList_write_ofNat]
  cases hdigits : Nat.toDigits 10 n with
  | nil => exact absurd hdigits Nat.toDigits_ne_nil
  | cons d digits =>
    have hsign : d ≠ '-' := by
      intro heq
      have hd := hdigit d (by rw [hdigits]; exact List.mem_cons_self)
      rw [heq] at hd
      exact absurd hd (by decide)
    have hzero : ¬(d = '0' ∧ digits ≠ []) := by
      rintro ⟨rfl, hmore⟩
      exact hmore (toDigits_eq_zero_cons hdigits)
    rw [hdigits] at hspan hvalue
    have hread : afterWhole false (d :: digits) [] =
        some ({ negative := false, whole := d :: digits }, []) := rfl
    rw [parseLiteral_of_ne hsign, parseMagnitude_eq hspan, if_neg hzero, hread]
    simp [Literal.toJson, hvalue, h]

/-- The text of a binary fraction is read as that fraction. -/
def carries (x : Float) : Bool :=
  match readNumber? (Number.write (.real x)).toList with
  | some (num (.real y)) => decide (y = x)
  | _ => false

theorem legible_of_carries {x : Float} (h : carries x = true) : Number.Legible (.real x) := by
  unfold carries at h
  split at h
  · rename_i y read
    rw [of_decide_eq_true h] at read
    exact read
  · cases h

end Provisioning.Json
