import Mathlib.Data.List.Basic
import Provisioning.Proofs.Json.Literal
import Provisioning.Proofs.Toml.Quotation
import Provisioning.Toml.Parser
import Provisioning.Toml.Printer

/-!
# Values on a line

The values that a document holds under its keys, apart from tables: texts, whole
numbers from zero on, and arrays of these.  Each is read up to its end, which is a
line break, a comma or a closing bracket (`Ends`).

A row of digits may also begin a date, a time, a fraction or a number of another
base.  None of them goes on at such an end, so `numberOrDate` finds a whole number
there (`numberOrDate_toDigits`).
-/

namespace Provisioning.Toml

variable {cs digits rest : List Char} {c : Char}

/-- A value ends before these characters. -/
def Ends (rest : List Char) : Prop :=
  ∃ c more, rest = c :: more ∧ (c = '\n' ∨ c = ',' ∨ c = ']')

/-! ## Digits -/

/-- Digits with no zero in front, but for zero itself. -/
structure Digits (digits : List Char) : Prop where
  digit : ∀ c ∈ digits, c.isDigit = true
  some : digits ≠ []
  lead : ∀ more, digits = '0' :: more → more = []

theorem digits_toDigits (n : Nat) : Digits (Nat.toDigits 10 n) where
  digit _ hc := Nat.isDigit_of_mem_toDigits (by decide) (by decide) hc
  some := Nat.toDigits_ne_nil
  lead _ h := Json.toDigits_eq_zero_cons h

theorem isDigitOf_of_isDigit (h : c.isDigit = true) : isDigitOf 10 c = true := by
  have hvalue : Json.hexValue? c = some (c.toNat - '0'.toNat) := if_pos h
  have hle : c.toNat ≤ '9'.toNat := by
    simp only [Char.isDigit, Bool.and_eq_true, decide_eq_true_eq] at h
    exact UInt32.le_iff_toNat_le.mp h.2
  have hnine : '9'.toNat = 57 := rfl
  have hzero : '0'.toNat = 48 := rfl
  rw [isDigitOf, hvalue]
  exact decide_eq_true (by omega)

/-- What stands at the front of digits and an end. -/
theorem head_digits (hdigits : ∀ c ∈ digits, c.isDigit = true) (ends : Ends rest)
    {more : List Char} (h : digits ++ rest = c :: more) :
    c.isDigit = true ∨ c = '\n' ∨ c = ',' ∨ c = ']' := by
  cases digits with
  | nil =>
    obtain ⟨d, more', rfl, hd⟩ := ends
    cases h
    exact .inr hd
  | cons d digits =>
    cases h
    exact .inl (hdigits _ List.mem_cons_self)

theorem ne_of_true {p : Char → Bool} {d : Char} (hc : p c = true) (hd : p d = false) : c ≠ d := by
  rintro rfl
  rw [hc] at hd
  cases hd

/-- No sign, point, exponent, mark of a base or mark of a date stands there. -/
theorem ne_of_digit_or_end {d : Char} (h : c.isDigit = true ∨ c = '\n' ∨ c = ',' ∨ c = ']')
    (hd : (d.isDigit || d == '\n' || d == ',' || d == ']') = false) : c ≠ d := by
  refine ne_of_true (p := fun c => c.isDigit || c == '\n' || c == ',' || c == ']') ?_ hd
  rcases h with h | rfl | rfl | rfl
  · simp [h]
  · rfl
  · rfl
  · rfl

/-- A row of digits is read up to its end. -/
theorem digitsFrom_append (before : List Char) (hdigits : ∀ c ∈ digits, c.isDigit = true)
    (hsome : before ++ digits ≠ []) (ends : Ends rest) :
    digitsFrom 10 before (digits ++ rest) = some (before.reverse ++ digits, rest) := by
  induction digits generalizing before with
  | nil =>
    obtain ⟨c, more, rfl, hc⟩ := ends
    have hother : isDigitOf 10 c = false := by
      rcases hc with rfl | rfl | rfl <;> decide
    have hmark : c ≠ '_' := ne_of_digit_or_end (.inr hc) (by decide)
    have hbefore : before.isEmpty = false := by simpa using hsome
    rw [List.nil_append, digitsFrom.eq_4 _ _ _ _ (fun _ _ h => absurd h hmark)
      (fun h => absurd h hmark), hother, hbefore]
    simp
  | cons d digits ih =>
    have hd := hdigits d List.mem_cons_self
    have hmark : d ≠ '_' := ne_of_digit_or_end (.inl hd) (by decide)
    rw [List.cons_append, digitsFrom.eq_4 _ _ _ _ (fun _ _ h => absurd h hmark)
      (fun h => absurd h hmark), isDigitOf_of_isDigit hd, if_pos rfl,
      ih (d :: before) (fun c hc => hdigits c (List.mem_cons_of_mem _ hc)) (by simp)]
    simp

theorem valueIn_eq_digitsValue (hdigits : ∀ c ∈ digits, c.isDigit = true) :
    valueIn 10 digits = Text.digitsValue digits := by
  refine List.foldl_ext _ _ _ fun value d hd => ?_
  have hvalue : Json.hexValue? d = some (d.toNat - '0'.toNat) := if_pos (hdigits d hd)
  rw [hvalue]
  rfl

/-- A number of so many digits leaves the other digits and the end. -/
theorem fixedDigits_append {count value : Nat} {left : List Char} (ends : Ends rest)
    (h : fixedDigits count (digits ++ rest) = some (value, left)) :
    left = digits.drop count ++ rest := by
  unfold fixedDigits at h
  dsimp only at h
  split at h
  · rename_i hfixed
    obtain ⟨hlength, hall⟩ := hfixed
    cases h
    have hcount : count ≤ digits.length := by
      by_contra hmore
      obtain ⟨c, more, rfl, hc⟩ := ends
      have hmem : c ∈ (digits ++ c :: more).take count := by
        rw [List.take_append, List.mem_append]
        refine .inr ?_
        obtain ⟨k, hk⟩ : ∃ k, count - digits.length = k + 1 :=
          ⟨count - digits.length - 1, by omega⟩
        rw [hk, List.take_succ_cons]
        exact List.mem_cons_self
      have hdigit := List.all_eq_true.mp hall c hmem
      rcases hc with rfl | rfl | rfl <;> exact absurd hdigit (by decide)
    exact List.drop_append_of_le_length hcount
  · cases h

/-! ## Whole numbers -/

/-- Neither a date nor a time begins with digits that end there. -/
theorem dateTime?_digits (hdigits : ∀ c ∈ digits, c.isDigit = true) (ends : Ends rest) :
    dateTime? (digits ++ rest) = none := by
  have other : ∀ {count value : Nat} {c : Char} {more : List Char},
      fixedDigits count (digits ++ rest) = some (value, c :: more) →
        c.isDigit = true ∨ c = '\n' ∨ c = ',' ∨ c = ']' := by
    intro count value c more h
    have hleft := fixedDigits_append ends h
    exact head_digits (fun c hc => hdigits c (List.mem_of_mem_drop hc)) ends hleft.symm
  have hdate : fullDate? (digits ++ rest) = none := by
    unfold fullDate?
    split
    · rename_i heq
      exact absurd rfl (ne_of_digit_or_end (other heq) (by decide))
    · rfl
  have htime : partialTime? (digits ++ rest) = none := by
    unfold partialTime?
    split
    · rename_i heq
      exact absurd rfl (ne_of_digit_or_end (other heq) (by decide))
    · rfl
  unfold dateTime?
  rw [hdate, htime]
  rfl

theorem sign_digits (h : Digits digits) (rest : List Char) :
    sign (digits ++ rest) = (false, digits ++ rest) := by
  obtain ⟨d, more, rfl⟩ := List.exists_cons_of_ne_nil h.some
  have hd := h.digit d List.mem_cons_self
  refine sign.eq_3 _ ?_ ?_
  · intro _ heq
    exact ne_of_digit_or_end (.inl hd) (by decide) (List.cons.inj heq).1
  · intro _ heq
    exact ne_of_digit_or_end (.inl hd) (by decide) (List.cons.inj heq).1

theorem decimalDigits_digits (h : Digits digits) (ends : Ends rest) :
    decimalDigits (digits ++ rest) = some (digits, rest) := by
  by_cases hzero : ∃ more, digits = '0' :: more
  · obtain ⟨more, rfl⟩ := hzero
    rw [h.lead more rfl]
    rfl
  · have hlead : ∀ more, digits ++ rest ≠ '0' :: more := by
      intro more heq
      obtain ⟨d, more', rfl⟩ := List.exists_cons_of_ne_nil h.some
      exact hzero ⟨more', by rw [(List.cons.inj heq).1]⟩
    rw [decimalDigits.eq_2 _ hlead]
    exact digitsFrom_append [] h.digit (by simpa using h.some) ends

theorem fractional?_digits (h : Digits digits) (ends : Ends rest) :
    fractional? (digits ++ rest) = none := by
  unfold fractional?
  rw [sign_digits h]
  dsimp only
  rw [decimalDigits_digits h ends]
  obtain ⟨c, more, rfl, hc⟩ := ends
  have hother : ¬(c = '.' ∨ c = 'e' ∨ c = 'E') := by
    rcases hc with rfl | rfl | rfl <;> decide
  exact if_neg hother

theorem specialFloat_digits (h : Digits digits) (rest : List Char) :
    specialFloat (digits ++ rest) = none := by
  obtain ⟨d, more, rfl⟩ := List.exists_cons_of_ne_nil h.some
  have hd := h.digit d List.mem_cons_self
  unfold specialFloat
  rw [sign_digits h]
  dsimp only
  split
  · rename_i heq
    exact absurd (List.cons.inj heq).1 (ne_of_digit_or_end (.inl hd) (by decide))
  · rename_i heq
    exact absurd (List.cons.inj heq).1 (ne_of_digit_or_end (.inl hd) (by decide))
  · rfl

/-- No base other than ten has its mark there. -/
theorem wholeNumber_digits (h : Digits digits) (ends : Ends rest)
    (hrange : ((valueIn 10 digits : Nat) : Int) ≤ maxInt) :
    wholeNumber (digits ++ rest) = some (int (valueIn 10 digits), rest) := by
  have unmarked : ∀ {d : Char} {more : List Char},
      (d.isDigit || d == '\n' || d == ',' || d == ']') = false →
        digits ++ rest ≠ '0' :: d :: more := by
    intro d more hd heq
    obtain ⟨first, others, rfl⟩ := List.exists_cons_of_ne_nil h.some
    obtain ⟨rfl, htail⟩ := List.cons.inj heq
    rw [h.lead others rfl] at htail
    obtain ⟨c, more', rfl, hc⟩ := ends
    exact ne_of_digit_or_end (.inr hc) hd (List.cons.inj htail).1
  rw [wholeNumber.eq_4 _ (fun _ => unmarked (by decide)) (fun _ => unmarked (by decide))
    (fun _ => unmarked (by decide)), sign_digits h]
  dsimp only
  rw [decimalDigits_digits h ends]
  have hin : minInt ≤ ((valueIn 10 digits : Nat) : Int) ∧
      ((valueIn 10 digits : Nat) : Int) ≤ maxInt := ⟨by unfold minInt; omega, hrange⟩
  simp only [inRange, Bool.false_eq_true, if_false, if_pos hin, Option.map_some]

/-- The digits of a number are read as the number. -/
theorem numberOrDate_toDigits {n : Nat} (hrange : (n : Int) ≤ maxInt) (ends : Ends rest) :
    numberOrDate (Nat.toDigits 10 n ++ rest) = some (int n, rest) := by
  have h := digits_toDigits n
  have hvalue : valueIn 10 (Nat.toDigits 10 n) = n :=
    (valueIn_eq_digitsValue h.digit).trans Nat.ofDigitChars_ten_toDigits
  unfold numberOrDate
  rw [dateTime?_digits h.digit ends, fractional?_digits h ends, specialFloat_digits h,
    wholeNumber_digits h ends (by rw [hvalue]; exact hrange), hvalue]

/-! ## Texts and numbers -/

/-- Texts, and whole numbers from zero on. -/
inductive Atom : Toml → Prop where
  | str (s : String) : Atom (str s)
  | int {n : Nat} (h : (n : Int) ≤ maxInt) : Atom (int n)

/-- Atoms and arrays of atoms. -/
inductive OnLine : Toml → Prop where
  | atom {v : Toml} (h : Atom v) : OnLine v
  | arr {items : List Toml} (h : ∀ item ∈ items, Atom item) : OnLine (arr items)

variable {v : Toml}

theorem toList_writeValue_int (n : Nat) : (writeValue (int n)).toList = Nat.toDigits 10 n := by
  have hwrite : writeValue (int n) = Int.repr n := by
    rw [writeValue]
    rfl
  rw [hwrite, Text.toList_intRepr]

/-- What may stand at the front of an atom. -/
def Begins (c : Char) : Prop :=
  c.isDigit = true ∨ c = '"' ∨ c = '\x27'

theorem Begins.ne {d : Char} (h : Begins c) (hd : (d.isDigit || d == '"' || d == '\x27') = false) :
    c ≠ d := by
  refine ne_of_true (p := fun c => c.isDigit || c == '"' || c == '\x27') ?_ hd
  rcases h with h | rfl | rfl
  · simp [h]
  · rfl
  · rfl

theorem head_quoteAs (style : TextStyle) (cs : List Char) :
    ∃ d ds, quoteAs style cs = d :: ds ∧ (d = '"' ∨ d = '\x27') := by
  cases style with
  | basic => exact ⟨_, _, rfl, .inl rfl⟩
  | literal => exact ⟨_, _, rfl, .inr rfl⟩
  | multilineBasic => exact ⟨_, _, rfl, .inl rfl⟩
  | multilineLiteral => exact ⟨_, _, rfl, .inr rfl⟩

/-- The text of an atom begins with a digit or a quote. -/
theorem Atom.head (h : Atom v) : ∃ d ds, (writeValue v).toList = d :: ds ∧ Begins d := by
  cases h with
  | str s =>
    obtain ⟨d, ds, hquoted, hd⟩ := head_quoteAs (TextTraits.ofChars s.toList).style s.toList
    refine ⟨d, ds, ?_, .inr hd⟩
    rw [writeValue, quote, String.toList_ofList]
    exact hquoted
  | @int n h =>
    have digits := digits_toDigits n
    obtain ⟨d, ds, hdigits⟩ := List.exists_cons_of_ne_nil digits.some
    refine ⟨d, ds, (toList_writeValue_int n).trans hdigits, .inl (digits.digit d ?_)⟩
    rw [hdigits]
    exact List.mem_cons_self

/-- The text of an array begins with its bracket. -/
theorem head_array (items : List Toml) : ∃ ds, (writeValue (arr items)).toList = '[' :: ds := by
  rw [writeValue]
  split
  · exact ⟨_, rfl⟩
  · exact ⟨_, by simp only [String.toList_append]; rfl⟩
  · exact ⟨_, by simp only [String.toList_append]; rfl⟩

/-- What begins with a quote is read as a text, and with a digit as a number. -/
theorem value_begins {d : Char} (hd : Begins d) (depth fuel : Nat) (cs : List Char) :
    value depth (fuel + 1) (d :: cs) =
      if d = '"' ∨ d = '\x27' then (text (d :: cs)).map fun (s, rest) => (str s, rest)
      else numberOrDate (d :: cs) :=
  value.eq_6 depth fuel d cs (hd.ne (by decide)) (hd.ne (by decide))
    (fun _ heq => absurd heq (hd.ne (by decide))) fun _ heq => absurd heq (hd.ne (by decide))

/-- An atom is read up to its end. -/
theorem value_atom (h : Atom v) (ends : Ends rest) (depth fuel : Nat) :
    value depth (fuel + 1) ((writeValue v).toList ++ rest) = some (v, rest) := by
  obtain ⟨d, ds, htext, hd⟩ := h.head
  have hstep := value_begins hd depth fuel (ds ++ rest)
  rw [← List.cons_append, ← htext] at hstep
  rw [hstep]
  cases h with
  | str s =>
    have apart : ∀ c ∈ rest.head?, c ≠ '"' ∧ c ≠ '\x27' := by
      obtain ⟨c, more, rfl, hc⟩ := ends
      rintro _ ⟨⟩
      exact ⟨ne_of_digit_or_end (.inr hc) (by decide), ne_of_digit_or_end (.inr hc) (by decide)⟩
    have hquote : d = '"' ∨ d = '\x27' := by
      obtain ⟨d', ds', hquoted, hd'⟩ := head_quoteAs (TextTraits.ofChars s.toList).style s.toList
      rw [writeValue, quote, String.toList_ofList, hquoted] at htext
      cases htext
      exact hd'
    rw [if_pos hquote, writeValue, text_quote s apart]
    rfl
  | @int n h =>
    have digit : d.isDigit = true := by
      refine (digits_toDigits n).digit d ?_
      rw [← toList_writeValue_int, htext]
      exact List.mem_cons_self
    have hquote : ¬(d = '"' ∨ d = '\x27') := by
      rintro (rfl | rfl) <;> exact absurd digit (by decide)
    rw [if_neg hquote, toList_writeValue_int]
    exact numberOrDate_toDigits h ends

/-! ## Arrays -/

theorem writeItems_eq_map (items : List Toml) : writeItems items = items.map writeValue := by
  induction items with
  | nil => rfl
  | cons item items ih => rw [writeItems, ih, List.map_cons]

/-- Nothing is skipped before a character that is no space, line break or comment. -/
theorem skipTrivia_visible (hreturn : c ≠ '\r') (hline : c ≠ '\n') (hcomment : c ≠ '#')
    (hspace : isInlineSpace c = false) (cs : List Char) : skipTrivia false (c :: cs) = c :: cs := by
  rw [skipTrivia.eq_3 _ _ _ (fun _ heq => absurd heq hreturn) hline, if_neg (by decide),
    if_neg hcomment, if_neg (by simp [hspace])]

theorem skipTrivia_begins (h : Begins c) (cs : List Char) :
    skipTrivia false (c :: cs) = c :: cs := by
  refine skipTrivia_visible (h.ne (by decide)) (h.ne (by decide)) (h.ne (by decide)) ?_ cs
  have hblank : c ≠ ' ' := h.ne (by decide)
  have htab : c ≠ '\t' := h.ne (by decide)
  simp [isInlineSpace, hblank, htab]

/-- What separates the items of an array. -/
def separator : String := ",\n    "

theorem toList_intercalate_cons (between a b : String) (more : List String) :
    (between.intercalate (a :: b :: more)).toList =
      a.toList ++ (between.toList ++ (between.intercalate (b :: more)).toList) := by
  simp [String.toList_intercalate, List.intercalate]

theorem head_items (atom : Atom v) (more : List Toml) (rest : List Char) :
    ∃ d tail, (separator.intercalate ((v :: more).map writeValue)).toList ++ rest = d :: tail ∧
      Begins d := by
  obtain ⟨d, ds, htext, hd⟩ := atom.head
  cases more with
  | nil =>
    refine ⟨d, ds ++ rest, ?_, hd⟩
    rw [← List.cons_append, ← htext]
    simp
  | cons next more =>
    rw [List.map_cons, List.map_cons, toList_intercalate_cons, htext]
    exact ⟨d, _, rfl, hd⟩

/-- The items of an array of several lines are read up to its bracket. -/
theorem items_lines (more : List Toml) (before : List Toml) (depth : Nat) (rest : List Char)
    (atom : Atom v) (atoms : ∀ item ∈ more, Atom item) :
    ∀ fuel, more.length + 1 < fuel →
      items depth fuel before ((separator.intercalate ((v :: more).map writeValue)).toList ++
        (",\n]".toList ++ rest)) = some (arr (before.reverse ++ v :: more), rest) := by
  induction more generalizing v before with
  | nil =>
    intro fuel hfuel
    obtain ⟨fuel, rfl⟩ : ∃ n, fuel = n + 2 := ⟨fuel - 2, by omega⟩
    have ends : Ends (',' :: '\n' :: ']' :: rest) := ⟨',', _, rfl, .inr (.inl rfl)⟩
    have hitem := value_atom atom ends depth fuel
    have hcomma : ∀ cs, skipTrivia false (',' :: cs) = ',' :: cs :=
      skipTrivia_visible (by decide) (by decide) (by decide) rfl
    have hbracket : skipTrivia false ('\n' :: ']' :: rest) = ']' :: rest := rfl
    show items depth (fuel + 2) before ((writeValue v).toList ++ ',' :: '\n' :: ']' :: rest) = _
    rw [items, hitem]
    simp [hcomma, hbracket]
  | cons next more ih =>
    intro fuel hfuel
    obtain ⟨fuel, rfl⟩ : ∃ n, fuel = n + 2 := ⟨fuel - 2, by omega⟩
    have hnext := atoms next List.mem_cons_self
    have hmore := ih (v :: before) hnext (fun item h => atoms item (List.mem_cons_of_mem _ h))
      (fuel + 1) (by rw [List.length_cons] at hfuel; omega)
    obtain ⟨d, tail, htail, hd⟩ := head_items hnext more (",\n]".toList ++ rest)
    rw [htail] at hmore
    have ends : Ends (',' :: '\n' :: ' ' :: ' ' :: ' ' :: ' ' :: d :: tail) :=
      ⟨',', _, rfl, .inr (.inl rfl)⟩
    have hitem := value_atom atom ends depth fuel
    have hcomma : ∀ cs, skipTrivia false (',' :: cs) = ',' :: cs :=
      skipTrivia_visible (by decide) (by decide) (by decide) rfl
    have hlead : skipTrivia false ('\n' :: ' ' :: ' ' :: ' ' :: ' ' :: d :: tail) = d :: tail :=
      skipTrivia_begins hd tail
    rw [List.map_cons, List.map_cons, toList_intercalate_cons, List.append_assoc,
      List.append_assoc, ← List.map_cons, htail]
    show items depth (fuel + 2) before
      ((writeValue v).toList ++ ',' :: '\n' :: ' ' :: ' ' :: ' ' :: ' ' :: d :: tail) = _
    rw [items, hitem]
    simp only [hcomma, hlead]
    split
    · rename_i heq
      exact absurd (List.cons.inj heq).1 (hd.ne (by decide))
    · simpa using hmore

/-- Every item takes up a character. -/
theorem length_le_items (more : List Toml) (atom : Atom v) (atoms : ∀ item ∈ more, Atom item) :
    more.length < (separator.intercalate ((v :: more).map writeValue)).toList.length := by
  induction more generalizing v with
  | nil =>
    obtain ⟨d, tail, htail, -⟩ := head_items atom [] []
    rw [List.append_nil] at htail
    rw [htail]
    exact Nat.succ_pos _
  | cons next more ih =>
    have hle := ih (atoms next List.mem_cons_self)
      fun item h => atoms item (List.mem_cons_of_mem _ h)
    have hseparator : separator.toList.length = 6 := rfl
    rw [List.map_cons, List.map_cons, toList_intercalate_cons, ← List.map_cons,
      List.length_append, List.length_append, List.length_cons]
    omega

/-- An array that is not empty is read from its first item on. -/
theorem value_array {d : Char} {tail : List Char} (hskip : skipTrivia false cs = d :: tail)
    (hd : Begins d) (fuel : Nat) :
    value 0 (fuel + 1) ('[' :: cs) = items 1 fuel [] (d :: tail) := by
  rw [value.eq_2, if_neg (by decide), hskip]
  split
  · rename_i heq
    exact absurd (List.cons.inj heq).1 (hd.ne (by decide))
  · rfl

/-- A value on a line is read up to its end. -/
theorem value_onLine (h : OnLine v) (ends : Ends rest) {fuel : Nat}
    (hfuel : (writeValue v).toList.length < fuel) :
    value 0 fuel ((writeValue v).toList ++ rest) = some (v, rest) := by
  obtain ⟨fuel, rfl⟩ : ∃ n, fuel = n + 1 := ⟨fuel - 1, by omega⟩
  cases h with
  | atom h => exact value_atom h ends 0 fuel
  | @arr all h =>
    cases all with
    | nil => rfl
    | cons first more =>
      have hfirst := h first List.mem_cons_self
      cases more with
      | nil =>
        have htext : (writeValue (arr [first])).toList =
            '[' :: ((writeValue first).toList ++ [']']) := by
          simp [writeValue, writeItems]
        rw [htext, List.length_cons, List.length_append, List.length_singleton] at hfuel
        obtain ⟨fuel, rfl⟩ : ∃ n, fuel = n + 2 := ⟨fuel - 2, by omega⟩
        obtain ⟨d, ds, hwritten, hd⟩ := hfirst.head
        have bracket : Ends (']' :: rest) := ⟨']', _, rfl, .inr (.inr rfl)⟩
        have hitem := value_atom hfirst bracket 1 fuel
        have hbracket : skipTrivia false (']' :: rest) = ']' :: rest :=
          skipTrivia_visible (by decide) (by decide) (by decide) rfl rest
        have hskip := skipTrivia_begins hd (ds ++ ']' :: rest)
        rw [htext, List.cons_append, List.append_assoc, value_array ?_ hd, ← List.cons_append,
          ← hwritten, items, hitem]
        · simp [hbracket]
        · rw [hwritten]
          exact hskip
      | cons second more =>
        have htext : (writeValue (arr (first :: second :: more))).toList = '[' :: '\n' :: ' ' ::
            ' ' :: ' ' :: ' ' :: ((separator.intercalate
              ((first :: second :: more).map writeValue)).toList ++ ",\n]".toList) := by
          rw [writeValue, writeItems_eq_map]
          simp [separator]
        have hmore : ∀ item ∈ second :: more, Atom item :=
          fun item h' => h item (List.mem_cons_of_mem _ h')
        have hlength := length_le_items (second :: more) hfirst hmore
        obtain ⟨d, tail, htail, hd⟩ := head_items hfirst (second :: more) (",\n]".toList ++ rest)
        have hskip : skipTrivia false ('\n' :: ' ' :: ' ' :: ' ' :: ' ' :: d :: tail) = d :: tail :=
          skipTrivia_begins hd tail
        have hread := items_lines (second :: more) [] 1 rest hfirst hmore fuel (by
          rw [htext] at hfuel
          simp only [List.length_cons, List.length_append] at hfuel hlength ⊢
          omega)
        rw [htail] at hread
        have hwhole : (writeValue (arr (first :: second :: more))).toList ++ rest =
            '[' :: '\n' :: ' ' :: ' ' :: ' ' :: ' ' :: d :: tail := by
          rw [htext, ← htail]
          simp
        rw [hwhole, value_array hskip hd]
        exact hread

end Provisioning.Toml
