import Mathlib.Data.List.TakeWhile
import Mathlib.Tactic.SplitIfs
import Provisioning.Toml.Quoted
import Provisioning.Toml.Scalar

/-!
# Texts in quotes

A text is written in one of four styles, and each style has its own reader.
`text_quote` says that whatever the style, the text is read back up to its closing
quotes, if no quote comes right after them.

Between double quotes a character stands as it is, as an escape or, over several
lines, as a line break (`Written`).  Between three quotes the reader has to tell
quotes of the text from those that close it.  It looks at a whole row of them, and
`closeMultiline?_append` says what it finds: rows within the text are short.
-/

namespace Provisioning.Toml

variable {breaks : Bool} {c : Char} {cs rest : List Char}

/-! ## One character -/

/-- A character other than a double quote, as it stands between double quotes. -/
def writtenChar (breaks : Bool) (c : Char) : List Char :=
  if c = '\\' then ['\\', '\\']
  else if c = '\n' then if breaks then ['\n'] else ['\\', 'n']
  else if c = '\t' then ['\\', 't']
  else if c = '\r' then ['\\', 'r']
  else if c = '\x08' then ['\\', 'b']
  else if c = '\x0c' then ['\\', 'f']
  else if isControl c then
    ['\\', 'u', '0', '0', upperHexDigit (c.toNat / 16), upperHexDigit (c.toNat % 16)]
  else [c]

theorem escapeChars_cons_of_ne (h : c ≠ '"') (allowed quotes : Nat) :
    escapeChars allowed breaks quotes (c :: cs) =
      writtenChar breaks c ++ escapeChars allowed breaks 0 cs := by
  rw [escapeChars, if_neg h]
  rfl

/-- How a character may stand between double quotes: as an escape, as a line break
where lines may break, or as it is. -/
inductive Written (breaks : Bool) (c : Char) : List Char → Prop where
  | escaped (mark : Char) (code : List Char) (visible : isInlineSpace mark = false)
    (inLine : ∀ rest, afterNewline? (mark :: rest) = none)
    (read : ∀ rest, escape (mark :: (code ++ rest)) = some (c, rest)) :
    Written breaks c ('\\' :: mark :: code)
  | line (h : breaks = true) (newline : c = '\n') : Written breaks c ['\n']
  | plain (h : isPlain c = true) (notSlash : c ≠ '\\') : Written breaks c [c]

/-- The codes of control characters are read from two digits. -/
theorem hexNumber?_control : ∀ n < 0x80, Json.hexNumber?
    ['0', '0', upperHexDigit (n / 16), upperHexDigit (n % 16)] = some n := by
  decide +kernel

theorem escape_code (control : c.toNat < 0x80) (rest : List Char) :
    escape ('u' :: '0' :: '0' :: upperHexDigit (c.toNat / 16) :: upperHexDigit (c.toNat % 16) ::
      rest) = some (c, rest) := by
  have valid : c.toNat.isValidChar := c.valid
  have hcode := hexNumber?_control c.toNat control
  simp only [escape, codedChar, List.take_succ_cons, List.take_zero, List.length_cons,
    List.length_nil, hcode, Option.bind_some, charOfCode?, if_pos valid, Char.ofNat_toNat]
  rfl

theorem lt_of_isControl (h : isControl c = true) : c.toNat < 0x80 := by
  simp only [isControl, Bool.or_eq_true, Bool.and_eq_true, decide_eq_true_eq, beq_iff_eq] at h
  rcases h with ⟨⟨h, -⟩, -⟩ | rfl
  · omega
  · decide

/-- What is no control character may stand as it is. -/
theorem isPlain_of_not_isControl (h : isControl c = false) (newline : c ≠ '\n') :
    isPlain c = true := by
  simp only [isControl, Bool.or_eq_false_iff, beq_eq_false_iff_ne] at h
  obtain ⟨hcontrol, hdelete⟩ := h
  by_cases htab : c = '\t'
  · simp [isPlain, htab]
  · have hvisible : 0x20 ≤ c.toNat := by simpa [htab, newline] using hcontrol
    simp [isPlain, hvisible, hdelete]

theorem afterNewline?_of_isPlain (h : isPlain c = true) (rest : List Char) :
    afterNewline? (c :: rest) = none := by
  refine afterNewline?.eq_3 _ ?_ ?_
  · rintro _ ⟨⟩
    exact absurd h (by decide)
  · rintro _ ⟨⟩
    exact absurd h (by decide)

theorem written_char (breaks : Bool) (c : Char) : Written breaks c (writtenChar breaks c) := by
  unfold writtenChar
  split_ifs with hslash hline hbreaks htab hreturn hback hfeed hcontrol
  · subst hslash
    exact .escaped '\\' [] rfl (fun _ => rfl) fun _ => rfl
  · exact .line hbreaks hline
  · subst hline
    exact .escaped 'n' [] rfl (fun _ => rfl) fun _ => rfl
  · subst htab
    exact .escaped 't' [] rfl (fun _ => rfl) fun _ => rfl
  · subst hreturn
    exact .escaped 'r' [] rfl (fun _ => rfl) fun _ => rfl
  · subst hback
    exact .escaped 'b' [] rfl (fun _ => rfl) fun _ => rfl
  · subst hfeed
    exact .escaped 'f' [] rfl (fun _ => rfl) fun _ => rfl
  · exact .escaped 'u' _ rfl (fun _ => rfl) fun rest => escape_code (lt_of_isControl hcontrol) rest
  · exact .plain (isPlain_of_not_isControl (Bool.eq_false_iff.mpr hcontrol) hline) hslash

/-- A character other than a double quote does not begin with one, and begins with a
line break only if it is one. -/
theorem head_writtenChar (breaks : Bool) (h : c ≠ '"') :
    ∃ d ds, writtenChar breaks c = d :: ds ∧ d ≠ '"' ∧ (c ≠ '\n' → isPlain d = true) := by
  have written := written_char breaks c
  generalize writtenChar breaks c = cs at written ⊢
  cases written with
  | escaped mark code => exact ⟨_, _, rfl, by decide, fun _ => by decide⟩
  | line _ newline => exact ⟨_, _, rfl, by decide, fun hne => absurd newline hne⟩
  | plain plain => exact ⟨_, _, rfl, h, fun _ => plain⟩

theorem length_le_escapeChars (allowed : Nat) (breaks : Bool) (quotes : Nat) (cs : List Char) :
    cs.length ≤ (escapeChars allowed breaks quotes cs).length := by
  induction cs generalizing quotes with
  | nil => exact Nat.le_refl 0
  | cons c cs ih =>
    by_cases h : c = '"'
    · rw [escapeChars, if_pos h]
      split
      · exact Nat.succ_le_succ (ih _)
      · exact Nat.succ_le_succ (Nat.le_succ_of_le (ih _))
    · obtain ⟨d, ds, hwritten, -, -⟩ := head_writtenChar breaks h
      have hle := ih 0
      rw [escapeChars_cons_of_ne h, hwritten, List.length_append, List.length_cons,
        List.length_cons]
      omega

/-! ## Texts within a line -/

/-- The characters between double quotes are read up to the closing one. -/
theorem basicFrom_escapeChars (cs : List Char) (quotes : Nat) (before rest : List Char) :
    ∀ fuel, cs.length < fuel →
      basicFrom fuel before (escapeChars 0 false quotes cs ++ '"' :: rest) =
        some (String.ofList (before.reverse ++ cs), rest) := by
  induction cs generalizing quotes before with
  | nil =>
    rintro (_ | fuel) hfuel
    · cases hfuel
    · simp [escapeChars, basicFrom]
  | cons c cs ih =>
    rintro (_ | fuel) hfuel
    · cases hfuel
    have next := fun quotes => ih quotes (c :: before) fuel (Nat.lt_of_succ_lt_succ hfuel)
    have hresult : (c :: before).reverse ++ cs = before.reverse ++ c :: cs := by simp
    rw [hresult] at next
    by_cases h : c = '"'
    · subst h
      exact next 0
    · have written := written_char false c
      rw [escapeChars_cons_of_ne h]
      generalize writtenChar false c = front at written
      cases written with
      | escaped mark code visible inLine read =>
        show basicFrom (fuel + 1) before
          ('\\' :: mark :: ((code ++ escapeChars 0 false 0 cs) ++ '"' :: rest)) = _
        rw [basicFrom, if_neg (by decide), if_pos rfl, List.append_assoc, read]
        exact next 0
      | line h => cases h
      | plain plain notSlash =>
        show basicFrom (fuel + 1) before (c :: (escapeChars 0 false 0 cs ++ '"' :: rest)) = _
        rw [basicFrom, if_neg h, if_neg notSlash, if_pos plain]
        exact next 0

/-- The characters between single quotes are read up to the closing one. -/
theorem literalFrom_append (before rest : List Char)
    (plain : ∀ c ∈ cs, isPlain c = true ∧ c ≠ '\x27') :
    literalFrom before (cs ++ '\x27' :: rest) =
      some (String.ofList (before.reverse ++ cs), rest) := by
  induction cs generalizing before with
  | nil => simp [literalFrom]
  | cons c cs ih =>
    obtain ⟨hplain, hne⟩ := plain c List.mem_cons_self
    rw [List.cons_append, literalFrom, if_neg hne, if_pos hplain,
      ih _ fun d hd => plain d (List.mem_cons_of_mem _ hd)]
    simp

/-! ## Rows of quotes -/

theorem exists_eq_replicate {quote : Char} (h : cs.all (· == quote) = true) :
    ∃ n, cs = List.replicate n quote := by
  refine ⟨cs.length, List.eq_replicate_iff.mpr ⟨rfl, fun c hc => ?_⟩⟩
  exact beq_iff_eq.mp (List.all_eq_true.mp h c hc)

/-- A row of quotes that begins with those of a text ends the text if there is nothing
else of it, and is too short to do so otherwise. -/
theorem closeMultiline?_append {quote : Char} (cs before : List Char)
    (short : (cs.takeWhile (· == quote)).length ≤ 2) (apart : rest.head? ≠ some quote) :
    closeMultiline? quote before (cs ++ ([quote, quote, quote] ++ rest)) =
      if cs.all (· == quote) = true then some (some (String.ofList (before.reverse ++ cs), rest))
      else none := by
  have hrest : rest.takeWhile (· == quote) = [] := by
    cases rest with
    | nil => rfl
    | cons d rest =>
      have hne : d ≠ quote := fun heq => apart (by rw [heq]; rfl)
      rw [List.takeWhile_cons_of_neg (by simpa using hne)]
  unfold closeMultiline?
  split
  · rename_i hall
    obtain ⟨n, rfl⟩ := exists_eq_replicate hall
    have hquotes : ∀ c ∈ List.replicate (n + 3) quote, (c == quote) = true := by simp
    have hfront : List.replicate n quote ++ ([quote, quote, quote] ++ rest) =
        List.replicate (n + 3) quote ++ rest := by
      rw [← List.replicate_append_replicate, List.append_assoc]
      rfl
    have hrow : (List.replicate (n + 3) quote ++ rest).takeWhile (· == quote) =
        List.replicate (n + 3) quote := by
      rw [List.takeWhile_append_of_pos hquotes, hrest, List.append_nil]
    have hn : n ≤ 2 := by simpa using short
    rw [hfront, hrow]
    dsimp only
    rw [List.length_replicate, if_neg (by omega), if_pos (by omega)]
    simp
  · rename_i hother
    have hrow : (cs ++ ([quote, quote, quote] ++ rest)).takeWhile (· == quote) =
        cs.takeWhile (· == quote) := by
      rw [List.takeWhile_append, if_neg]
      intro hlength
      have hwhole := (List.takeWhile_sublist (l := cs) (· == quote)).eq_of_length hlength
      exact hother (List.all_eq_true.mpr (List.takeWhile_eq_self_iff.mp hwhole))
    rw [hrow]
    exact if_pos (by omega)

/-- The text in double quotes goes on where a row of its quotes ends early. -/
theorem takeWhile_escapeChars (cs : List Char) (quotes : Nat) (h : quotes ≤ 2) :
    ((escapeChars 2 true quotes cs).takeWhile (· == '"')).length ≤ 2 - quotes := by
  induction cs generalizing quotes with
  | nil => exact Nat.zero_le _
  | cons c cs ih =>
    by_cases hc : c = '"'
    · rw [escapeChars, if_pos hc]
      split
      · have hle := ih (quotes + 1) (by omega)
        rw [List.takeWhile_cons_of_pos rfl, List.length_cons]
        omega
      · rw [List.takeWhile_cons_of_neg (by decide)]
        exact Nat.zero_le _
    · obtain ⟨d, ds, hwritten, hd, -⟩ := head_writtenChar true hc
      rw [escapeChars_cons_of_ne hc, hwritten, List.cons_append,
        List.takeWhile_cons_of_neg (by simpa using hd)]
      exact Nat.zero_le _

/-- Nothing but quotes stands for nothing but quotes. -/
theorem eq_of_escapeChars_quotes (cs : List Char) (quotes : Nat)
    (h : (escapeChars 2 true quotes cs).all (· == '"') = true) :
    escapeChars 2 true quotes cs = cs := by
  induction cs generalizing quotes with
  | nil => rfl
  | cons c cs ih =>
    by_cases hc : c = '"'
    · rw [escapeChars, if_pos hc] at h ⊢
      split at h
      · rename_i hquotes
        rw [if_pos hquotes, hc, ih _ (by simpa using h)]
      · simp at h
    · obtain ⟨d, ds, hwritten, hd, -⟩ := head_writtenChar true hc
      rw [escapeChars_cons_of_ne hc, hwritten] at h
      simp [hd] at h

theorem takeWhile_le_longestRun (c : Char) (current : Nat) (cs : List Char) :
    current + (cs.takeWhile (· == c)).length ≤ longestRun c current cs := by
  induction cs generalizing current with
  | nil => exact Nat.le_refl _
  | cons d cs ih =>
    unfold longestRun
    split
    · rename_i heq
      have hle := ih (current + 1)
      rw [List.takeWhile_cons_of_pos (by simpa using heq), List.length_cons]
      omega
    · rename_i hne
      rw [List.takeWhile_cons_of_neg (by simpa using hne)]
      exact Nat.le_max_left _ _

theorem longestRun_mono (c : Char) {current longer : Nat} (h : current ≤ longer) (cs : List Char) :
    longestRun c current cs ≤ longestRun c longer cs := by
  induction cs generalizing current longer with
  | nil => exact h
  | cons d cs ih =>
    unfold longestRun
    split
    · exact ih (Nat.succ_le_succ h)
    · omega

theorem not_mem_of_longestRun (h : longestRun c 0 cs = 0) : c ∉ cs := by
  induction cs with
  | nil => exact List.not_mem_nil
  | cons d cs ih =>
    unfold longestRun at h
    split at h
    · have hle := takeWhile_le_longestRun c (0 + 1) cs
      omega
    · rename_i hne
      intro hmem
      rcases List.mem_cons.mp hmem with rfl | hmem
      · exact hne rfl
      · exact ih (by omega) hmem

/-- The rows of a text are no longer without its first character. -/
theorem longestRun_tail (c d : Char) (cs : List Char) :
    longestRun c 0 cs ≤ longestRun c 0 (d :: cs) := by
  rw [longestRun.eq_2]
  split
  · exact longestRun_mono c (Nat.zero_le _) cs
  · exact Nat.le_max_right _ _

/-! ## Texts over several lines -/

/-- The characters between three double quotes are read up to the closing ones. -/
theorem multilineBasicFrom_escapeChars (cs : List Char) {quotes : Nat} (few : quotes ≤ 2)
    (before : List Char) (apart : rest.head? ≠ some '"') :
    ∀ fuel, cs.length < fuel →
      multilineBasicFrom fuel before (escapeChars 2 true quotes cs ++ (['"', '"', '"'] ++ rest)) =
        some (String.ofList (before.reverse ++ cs), rest) := by
  induction cs generalizing quotes before with
  | nil =>
    rintro (_ | fuel) hfuel
    · cases hfuel
    have closes := closeMultiline?_append [] before (by simp) apart
    simp only [List.nil_append, List.cons_append] at closes
    simp only [escapeChars, List.nil_append, List.cons_append, multilineBasicFrom, afterNewline?,
      closes]
    rfl
  | cons c cs ih =>
    rintro (_ | fuel) hfuel
    · cases hfuel
    have next : ∀ quotes ≤ 2, multilineBasicFrom fuel (c :: before)
        (escapeChars 2 true quotes cs ++ (['"', '"', '"'] ++ rest)) =
          some (String.ofList (before.reverse ++ c :: cs), rest) := by
      intro quotes few
      rw [ih few (c :: before) fuel (Nat.lt_of_succ_lt_succ hfuel)]
      simp
    by_cases h : c = '"'
    · subst h
      have row := takeWhile_escapeChars ('"' :: cs) quotes few
      have closes := closeMultiline?_append _ before (Nat.le_trans row (by omega)) apart
      by_cases hquotes : quotes < 2
      · have hescaped : escapeChars 2 true quotes ('"' :: cs) =
            '"' :: escapeChars 2 true (quotes + 1) cs := by
          rw [escapeChars, if_pos rfl, if_pos hquotes]
        rw [hescaped, List.cons_append] at closes ⊢
        rw [multilineBasicFrom, afterNewline?_of_isPlain (by decide)]
        simp only [if_true, closes]
        by_cases hall : ('"' :: escapeChars 2 true (quotes + 1) cs).all (· == '"') = true
        · rw [if_pos hall]
          have htext := eq_of_escapeChars_quotes ('"' :: cs) quotes (hescaped ▸ hall)
          rw [← hescaped, htext]
        · rw [if_neg hall]
          exact next (quotes + 1) hquotes
      · rw [escapeChars, if_pos rfl, if_neg hquotes]
        exact next 0 (by decide)
    · have written := written_char true c
      rw [escapeChars_cons_of_ne h]
      generalize writtenChar true c = front at written
      cases written with
      | escaped mark code visible inLine read =>
        show multilineBasicFrom (fuel + 1) before
          ('\\' :: mark :: ((code ++ escapeChars 2 true 0 cs) ++ (['"', '"', '"'] ++ rest))) = _
        have stays : ∀ more, skipInlineSpace (mark :: more) = mark :: more :=
          fun more => List.dropWhile_cons_of_neg (by simp [visible])
        rw [multilineBasicFrom, afterNewline?_of_isPlain (by decide)]
        dsimp only
        rw [if_neg (by decide), if_pos rfl, stays, inLine, List.append_assoc, read]
        exact next 0 (by decide)
      | line _ newline =>
        subst newline
        exact next 0 (by decide)
      | plain plain notSlash =>
        show multilineBasicFrom (fuel + 1) before
          (c :: (escapeChars 2 true 0 cs ++ (['"', '"', '"'] ++ rest))) = _
        rw [multilineBasicFrom, afterNewline?_of_isPlain plain]
        simp only [if_neg h, if_neg notSlash, if_pos plain]
        exact next 0 (by decide)

/-- The characters between three single quotes are read up to the closing ones. -/
theorem multilineLiteralFrom_append (cs before : List Char)
    (plain : ∀ c ∈ cs, isPlain c = true ∨ c = '\n') (short : longestRun '\x27' 0 cs ≤ 2)
    (apart : rest.head? ≠ some '\x27') :
    ∀ fuel, cs.length < fuel →
      multilineLiteralFrom fuel before (cs ++ (['\x27', '\x27', '\x27'] ++ rest)) =
        some (String.ofList (before.reverse ++ cs), rest) := by
  have row := takeWhile_le_longestRun '\x27' 0 cs
  have closes := closeMultiline?_append cs before (by omega) apart
  induction cs generalizing before with
  | nil =>
    rintro (_ | fuel) hfuel
    · cases hfuel
    simp only [List.nil_append, List.cons_append] at closes
    simp only [List.nil_append, List.cons_append, multilineLiteralFrom, afterNewline?, closes]
    rfl
  | cons c cs ih =>
    rintro (_ | fuel) hfuel
    · cases hfuel
    have short' := Nat.le_trans (longestRun_tail '\x27' c cs) short
    have row' := takeWhile_le_longestRun '\x27' 0 cs
    have next := ih (c :: before) (fun d hd => plain d (List.mem_cons_of_mem _ hd)) short' row'
      (closeMultiline?_append cs (c :: before) (by omega) apart) fuel
      (Nat.lt_of_succ_lt_succ hfuel)
    have hresult : (c :: before).reverse ++ cs = before.reverse ++ c :: cs := by simp
    rw [hresult] at next
    rcases plain c List.mem_cons_self with hplain | rfl
    · rw [List.cons_append] at closes ⊢
      rw [multilineLiteralFrom, afterNewline?_of_isPlain hplain]
      dsimp only
      by_cases hquote : c = '\x27'
      · subst hquote
        rw [if_pos rfl, closes]
        by_cases hall : ('\x27' :: cs).all (· == '\x27') = true
        · rw [if_pos hall]
        · rw [if_neg hall]
          exact next
      · rw [if_neg hquote, if_pos hplain]
        exact next
    · exact next

/-! ## Texts -/

theorem traits_of_literal {t : TextTraits} (h : t.style = .literal) :
    t.hasControl = false ∧ t.maxSingleQuotes = 0 ∧ t.hasNewline = false := by
  unfold TextTraits.style at h
  split_ifs at h
  simp_all

theorem traits_of_multilineLiteral {t : TextTraits} (h : t.style = .multilineLiteral) :
    t.hasControl = false ∧ t.maxSingleQuotes ≤ 2 := by
  unfold TextTraits.style at h
  split_ifs at h
  simp_all

/-- What a text in one pair of double quotes begins with. -/
theorem head_escapeChars (c : Char) (cs : List Char) :
    ∃ d ds, escapeChars 0 false 0 (c :: cs) = d :: ds ∧ d ≠ '"' := by
  by_cases h : c = '"'
  · rw [escapeChars, if_pos h]
    exact ⟨_, _, rfl, by decide⟩
  · obtain ⟨d, ds, hwritten, hd, -⟩ := head_writtenChar false h
    rw [escapeChars_cons_of_ne h, hwritten]
    exact ⟨_, _, rfl, hd⟩

/-- What a text in three double quotes begins with, if not with a line break. -/
theorem afterNewline?_escapeChars (c : Char) (cs more : List Char) (newline : c ≠ '\n') :
    afterNewline? (escapeChars 2 true 0 (c :: cs) ++ more) = none := by
  by_cases h : c = '"'
  · rw [escapeChars, if_pos h]
    exact afterNewline?_of_isPlain (by decide) _
  · obtain ⟨d, ds, hwritten, -, plain⟩ := head_writtenChar true h
    rw [escapeChars_cons_of_ne h, hwritten]
    exact afterNewline?_of_isPlain (plain newline) _

/-- The line break after three quotes is not part of the text. -/
theorem dropNewline_opening {front : List Char}
    (h : '\n' ∉ cs → afterNewline? front = none) :
    dropNewline ((if cs.contains '\n' then ['\n'] else []) ++ front) = front := by
  by_cases hline : '\n' ∈ cs
  · rw [if_pos (List.contains_iff_mem.mpr hline)]
    rfl
  · rw [if_neg (fun hcontains => hline (List.contains_iff_mem.mp hcontains)), List.nil_append,
      dropNewline, h hline]
    rfl

theorem text_basic (cs : List Char) (apart : rest.head? ≠ some '"') :
    text (quoteAs .basic cs ++ rest) = some (String.ofList cs, rest) := by
  have hquoted : quoteAs .basic cs ++ rest =
      '"' :: (escapeChars 0 false 0 cs ++ '"' :: rest) := by simp [quoteAs]
  have single : ∀ more, '"' :: (escapeChars 0 false 0 cs ++ '"' :: rest) ≠
      '"' :: '"' :: '"' :: more := by
    intro more heq
    cases cs with
    | nil =>
      cases heq
      exact apart rfl
    | cons c cs =>
      obtain ⟨d, ds, hescaped, hd⟩ := head_escapeChars c cs
      rw [hescaped] at heq
      exact hd (List.cons.inj (List.cons.inj heq).2).1
  have hlength := length_le_escapeChars 0 false 0 cs
  rw [hquoted, text.eq_3 _ single nofun, lineText]
  refine basicFrom_escapeChars cs 0 [] rest _ ?_
  rw [List.length_append, List.length_cons]
  omega

theorem text_literal (plain : ∀ c ∈ cs, isPlain c = true ∧ c ≠ '\x27')
    (apart : rest.head? ≠ some '\x27') :
    text (quoteAs .literal cs ++ rest) = some (String.ofList cs, rest) := by
  have hquoted : quoteAs .literal cs ++ rest = '\x27' :: (cs ++ '\x27' :: rest) := by simp [quoteAs]
  have single : ∀ more, '\x27' :: (cs ++ '\x27' :: rest) ≠ '\x27' :: '\x27' :: '\x27' :: more := by
    intro more heq
    cases cs with
    | nil =>
      cases heq
      exact apart rfl
    | cons c cs =>
      exact (plain c List.mem_cons_self).2 (List.cons.inj (List.cons.inj heq).2).1
  have other : ∀ more, '\x27' :: (cs ++ '\x27' :: rest) ≠ '"' :: '"' :: '"' :: more :=
    fun _ heq => absurd (List.cons.inj heq).1 (by decide)
  rw [hquoted, text.eq_3 _ other single, lineText]
  exact literalFrom_append [] rest plain

theorem text_multilineBasic (cs : List Char) (apart : rest.head? ≠ some '"') :
    text (quoteAs .multilineBasic cs ++ rest) = some (String.ofList cs, rest) := by
  have hquoted : quoteAs .multilineBasic cs ++ rest = '"' :: '"' :: '"' ::
      ((if cs.contains '\n' then ['\n'] else []) ++
        (escapeChars 2 true 0 cs ++ (['"', '"', '"'] ++ rest))) := by simp [quoteAs]
  have hlength := length_le_escapeChars 2 true 0 cs
  rw [hquoted, text, dropNewline_opening]
  · refine multilineBasicFrom_escapeChars cs (Nat.zero_le _) [] apart _ ?_
    simp only [List.length_append]
    omega
  · intro hline
    cases cs with
    | nil => rfl
    | cons c cs => exact afterNewline?_escapeChars c cs _ (List.ne_of_not_mem_cons hline).symm

theorem text_multilineLiteral (plain : ∀ c ∈ cs, isPlain c = true ∨ c = '\n')
    (short : longestRun '\x27' 0 cs ≤ 2) (apart : rest.head? ≠ some '\x27') :
    text (quoteAs .multilineLiteral cs ++ rest) = some (String.ofList cs, rest) := by
  have hquoted : quoteAs .multilineLiteral cs ++ rest = '\x27' :: '\x27' :: '\x27' ::
      ((if cs.contains '\n' then ['\n'] else []) ++
        (cs ++ (['\x27', '\x27', '\x27'] ++ rest))) := by simp [quoteAs]
  rw [hquoted, text, dropNewline_opening]
  · refine multilineLiteralFrom_append cs [] plain short apart _ ?_
    simp only [List.length_append]
    omega
  · intro hline
    cases cs with
    | nil => rfl
    | cons c cs =>
      rcases plain c List.mem_cons_self with hplain | rfl
      · exact afterNewline?_of_isPlain hplain _
      · exact absurd List.mem_cons_self hline

/-- A text in quotes is read as the text. -/
theorem text_quote (s : String) (apart : ∀ c ∈ rest.head?, c ≠ '"' ∧ c ≠ '\x27') :
    text ((quote s).toList ++ rest) = some (s, rest) := by
  have double : rest.head? ≠ some '"' := fun h => (apart _ h).1 rfl
  have single : rest.head? ≠ some '\x27' := fun h => (apart _ h).2 rfl
  have plain : (TextTraits.ofChars s.toList).hasControl = false →
      ∀ c ∈ s.toList, c ≠ '\n' → isPlain c = true := fun h c hc newline =>
    isPlain_of_not_isControl (Bool.eq_false_iff.mpr (List.any_eq_false.mp h c hc)) newline
  rw [quote, String.toList_ofList]
  conv => rhs; rw [← String.ofList_toList (s := s)]
  cases hstyle : (TextTraits.ofChars s.toList).style with
  | basic => exact text_basic _ double
  | literal =>
    obtain ⟨hcontrol, hsingle, hline⟩ := traits_of_literal hstyle
    refine text_literal (fun c hc => ⟨plain hcontrol c hc ?_, ?_⟩) single
    · rintro rfl
      exact absurd (List.contains_iff_mem.mpr hc) (Bool.eq_false_iff.mp hline)
    · rintro rfl
      exact not_mem_of_longestRun hsingle hc
  | multilineBasic => exact text_multilineBasic _ double
  | multilineLiteral =>
    obtain ⟨hcontrol, hsingle⟩ := traits_of_multilineLiteral hstyle
    refine text_multilineLiteral (fun c hc => ?_) hsingle single
    by_cases hline : c = '\n'
    · exact .inr hline
    · exact .inl (plain hcontrol c hc hline)

end Provisioning.Toml
