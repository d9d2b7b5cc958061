import Provisioning.Proofs.Json.Literal
import Provisioning.Proofs.Json.Quotation

/-!
# Values in a text

What the printer writes on several lines, the parser reads.  A value is
`Legible` if all its numbers are, and `parse?_pretty` says that its text is read
as the value itself, except that a reader also learns which names were spelled
with escapes: `spelled` is the value as it is found in the text.

The parser skips what may stand between parts and stops where a value ends, so
the induction is over the value with what comes before and after it in the text:
`ReadAt` says that a value is read wherever its text comes next.  Items and
members are rows of such texts, and `parseItems_row` and `parseMembers_row` say
that rows are read to their closing bracket.
-/

namespace Provisioning.Json

/-! ## Between the parts -/

/-- Characters that may stand between the parts of a value. -/
def Blank (gap : List Char) : Prop :=
  ∀ c ∈ gap, isSpace c = true

/-- The text begins with a part: neither with a space nor with a closing
bracket. -/
def Visible (cs : List Char) : Prop :=
  ∃ c tail, cs = c :: tail ∧ isSpace c = false ∧ c ≠ ']' ∧ c ≠ '}'

variable {cs gap rest : List Char}

theorem skipSpace_blank (h : Blank gap) : skipSpace (gap ++ cs) = skipSpace cs :=
  List.dropWhile_append_of_pos h

theorem skipSpace_of_not_space {c : Char} (h : isSpace c = false) (tail : List Char) :
    skipSpace (c :: tail) = c :: tail := by
  simp [skipSpace, h]

theorem Visible.skipSpace_eq (h : Visible cs) : skipSpace cs = cs := by
  obtain ⟨c, tail, rfl, hc, -⟩ := h
  exact skipSpace_of_not_space hc tail

theorem Visible.append (h : Visible cs) (rest : List Char) : Visible (cs ++ rest) := by
  obtain ⟨c, tail, rfl, hc⟩ := h
  exact ⟨c, tail ++ rest, rfl, hc⟩

theorem Delimited.blank_append (hgap : Blank gap) (h : Delimited rest) :
    Delimited (gap ++ rest) := by
  cases gap with
  | nil => exact h
  | cons c gap =>
    rintro _ ⟨⟩
    have hspace := hgap c List.mem_cons_self
    simp only [isSpace, Bool.or_eq_true, beq_iff_eq] at hspace
    rcases hspace with ((rfl | rfl) | rfl) | rfl <;> decide

theorem delimited_comma (cs : List Char) : Delimited (',' :: cs) := by
  rintro _ ⟨⟩
  decide

theorem delimited_bracket (cs : List Char) : Delimited (']' :: cs) := by
  rintro _ ⟨⟩
  decide

theorem delimited_brace (cs : List Char) : Delimited ('}' :: cs) := by
  rintro _ ⟨⟩
  decide

/-! ## Rows -/

/-- The value is read wherever this text of it comes next. -/
structure ReadAt (text : List Char) (value : Json) : Prop where
  visible : Visible text
  read : ∀ {fuel : Nat} {cs rest : List Char}, text.length ≤ fuel → Delimited rest →
    skipSpace cs = text ++ rest → parseValue fuel cs = some (value, rest)

/-- A text is not empty, so there is fuel for a first step. -/
theorem ReadAt.of_step {text : List Char} {value : Json} (visible : Visible text)
    (h : ∀ {fuel : Nat} {cs rest : List Char}, text.length ≤ fuel + 1 → Delimited rest →
      skipSpace cs = text ++ rest → parseValue (fuel + 1) cs = some (value, rest)) :
    ReadAt text value := by
  refine ⟨visible, ?_⟩
  intro fuel cs rest enough hrest next
  obtain ⟨c, tail, rfl, -⟩ := visible
  obtain ⟨fuel, rfl⟩ : ∃ less, fuel = less + 1 := by
    rw [List.length_cons] at enough
    exact ⟨fuel - 1, by omega⟩
  exact h enough hrest next

/-- The texts of a row, each but the last one followed by a comma and a gap. -/
def row (gap : List Char) (texts : List (List Char)) : List Char :=
  (',' :: gap).intercalate texts

theorem row_cons_cons (text next : List Char) (texts : List (List Char)) :
    row gap (text :: next :: texts) = text ++ ',' :: (gap ++ row gap (next :: texts)) := by
  simp [row, List.intercalate_cons_cons]

theorem visible_row {α : Type} {parts : List α} {text : α → List Char} (nonempty : parts ≠ [])
    (h : ∀ part ∈ parts, Visible (text part)) : Visible (row gap (parts.map text)) := by
  cases parts with
  | nil => exact absurd rfl nonempty
  | cons part parts =>
    have hpart := h part List.mem_cons_self
    cases parts with
    | nil => simpa [row] using hpart
    | cons next parts =>
      rw [List.map_cons, List.map_cons, row_cons_cons]
      exact hpart.append _

/-- Whatever stands for a value is read before a comma. -/
theorem ReadAt.before_comma {text : List Char} {value : Json} (h : ReadAt text value)
    {fuel : Nat} {after : List Char} (enough : text.length ≤ fuel)
    (next : skipSpace cs = text ++ ',' :: after) :
    parseValue fuel cs = some (value, ',' :: after) :=
  h.read enough (delimited_comma after) next

theorem parseItems_more {fuel : Nat} {before : List Json} {item : Json} {after : List Char}
    (hvalue : parseValue fuel cs = some (item, after)) (hcomma : skipSpace after = ',' :: rest) :
    parseItems (fuel + 1) before cs = parseItems fuel (item :: before) rest := by
  rw [parseItems, hvalue]
  simp only [hcomma]

theorem parseItems_last {fuel : Nat} {before : List Json} {item : Json} {after : List Char}
    (hvalue : parseValue fuel cs = some (item, after)) (hclosing : skipSpace after = ']' :: rest) :
    parseItems (fuel + 1) before cs = some (arr (item :: before).reverse, rest) := by
  rw [parseItems, hvalue]
  simp only [hclosing]

/-- A row of items is read to its closing bracket. -/
theorem parseItems_row {gap gap' : List Char} (hgap : Blank gap) (hgap' : Blank gap')
    {parts : List (List Char × Json)} (nonempty : parts ≠ [])
    (read : ∀ part ∈ parts, ReadAt part.1 part.2) (fuel : Nat)
    (before : List Json) (cs rest : List Char)
    (enough : (row gap (parts.map (·.1))).length + 1 ≤ fuel)
    (next : skipSpace cs = row gap (parts.map (·.1)) ++ (gap' ++ ']' :: rest)) :
    parseItems fuel before cs = some (arr (before.reverse ++ parts.map (·.2)), rest) := by
  induction parts generalizing fuel before cs with
  | nil => exact absurd rfl nonempty
  | cons part parts ih =>
    have hread := read part List.mem_cons_self
    obtain ⟨fuel, rfl⟩ : ∃ less, fuel = less + 1 := ⟨fuel - 1, by omega⟩
    -- the last item is followed by the gap before the bracket, every other one by a comma
    cases parts with
    | nil =>
      have hvalue : parseValue fuel cs = some (part.2, gap' ++ ']' :: rest) := by
        refine hread.read ?_ (.blank_append hgap' (delimited_bracket rest)) ?_
        · simpa [row] using enough
        · simpa [row] using next
      have hclosing : skipSpace (gap' ++ ']' :: rest) = ']' :: rest := by
        rw [skipSpace_blank hgap', skipSpace_of_not_space rfl]
      rw [parseItems_last hvalue hclosing]
      simp
    | cons part' parts =>
      rw [List.map_cons, List.map_cons, row_cons_cons] at enough next
      simp only [List.length_append, List.length_cons] at enough
      rw [List.append_assoc, List.cons_append, List.append_assoc] at next
      have hvalue := hread.before_comma (by omega : part.1.length ≤ fuel) next
      have hvisible : Visible (row gap ((part' :: parts).map (·.1)) ++ (gap' ++ ']' :: rest)) :=
        (visible_row (by simp) fun p hp => (read p (List.mem_cons_of_mem _ hp)).visible).append _
      have hrest := ih (by simp) (fun p hp => read p (List.mem_cons_of_mem _ hp)) fuel
        (part.2 :: before) (gap ++ (row gap ((part' :: parts).map (·.1)) ++ (gap' ++ ']' :: rest)))
        (by simp only [List.map_cons]; omega)
        (by rw [skipSpace_blank hgap, hvisible.skipSpace_eq])
      rw [parseItems_more hvalue (skipSpace_of_not_space rfl _), ← List.map_cons, hrest]
      simp

/-! ## Members -/

/-- A member as it is written and read. -/
structure Part where
  name : Name
  text : List Char
  value : Json

/-- The member in the text. -/
def Part.written (part : Part) : List Char :=
  '"' :: (quoted part.name.text.toList ++ '"' :: ':' :: ' ' :: part.text)

/-- The member that a reader finds. -/
def Part.member (part : Part) : Name × Json :=
  (part.name.spelled, part.value)

theorem Part.visible_written (part : Part) : Visible part.written :=
  ⟨'"', _, rfl, rfl, by decide, by decide⟩

theorem mapM_named (members : List (Name × Json)) :
    (members.map fun member => (some member.1, member.2)).mapM
      (fun (name, value) => name.map fun name => (name, value)) = some members := by
  induction members with
  | nil => rfl
  | cons member members ih =>
    rw [List.map_cons, List.mapM_cons, ih]
    rfl

theorem ofMembers_some (members : List (Name × Json)) :
    ofMembers (members.map fun member => (some member.1, member.2)).reverse = obj members := by
  rw [ofMembers, List.reverse_reverse, mapM_named]

theorem parseMembers_more {fuel : Nat} {before : List (Option Name × Json)} {name : Name}
    {value : Json} {after text : List Char}
    (next : skipSpace cs = '"' :: (quoted name.text.toList ++ '"' :: ':' :: text))
    (hvalue : parseValue fuel text = some (value, after)) (hcomma : skipSpace after = ',' :: rest) :
    parseMembers (fuel + 1) before cs =
      parseMembers fuel ((some name.spelled, value) :: before) rest := by
  rw [parseMembers]
  simp only [next, parseString_quoted, skipSpace_of_not_space (c := ':') rfl, hvalue, hcomma]
  rfl

theorem parseMembers_last {fuel : Nat} {before : List (Option Name × Json)} {name : Name}
    {value : Json} {after text : List Char}
    (next : skipSpace cs = '"' :: (quoted name.text.toList ++ '"' :: ':' :: text))
    (hvalue : parseValue fuel text = some (value, after))
    (hclosing : skipSpace after = '}' :: rest) :
    parseMembers (fuel + 1) before cs =
      some (ofMembers ((some name.spelled, value) :: before), rest) := by
  rw [parseMembers]
  simp only [next, parseString_quoted, skipSpace_of_not_space (c := ':') rfl, hvalue, hclosing]
  rfl

/-- A row of members is read to its closing brace. -/
theorem parseMembers_row {gap gap' : List Char} (hgap : Blank gap) (hgap' : Blank gap')
    {parts : List Part} (nonempty : parts ≠ [])
    (read : ∀ part ∈ parts, ReadAt part.text part.value) (fuel : Nat)
    (before : List (Name × Json)) (cs rest : List Char)
    (enough : (row gap (parts.map Part.written)).length + 1 ≤ fuel)
    (next : skipSpace cs = row gap (parts.map Part.written) ++ (gap' ++ '}' :: rest)) :
    parseMembers fuel (before.map fun member => (some member.1, member.2)).reverse cs =
      some (obj (before ++ parts.map Part.member), rest) := by
  induction parts generalizing fuel before cs with
  | nil => exact absurd rfl nonempty
  | cons part parts ih =>
    have hread := read part List.mem_cons_self
    obtain ⟨fuel, rfl⟩ : ∃ less, fuel = less + 1 := ⟨fuel - 1, by omega⟩
    -- a value is read after the space that follows its colon
    have hskip : ∀ after, skipSpace (' ' :: (part.text ++ after)) = part.text ++ after := by
      intro after
      exact (hread.visible.append after).skipSpace_eq
    have hmembers : (some part.name.spelled, part.value) ::
        (before.map fun member => (some member.1, member.2)).reverse =
          ((before ++ [part.member]).map fun member => (some member.1, member.2)).reverse := by
      simp [Part.member]
    cases parts with
    | nil =>
      have hlength : part.text.length ≤ fuel := by
        simp only [row, List.map_cons, List.map_nil, List.intercalate_singleton, Part.written,
          List.length_cons, List.length_append] at enough
        omega
      have hnext : skipSpace cs = '"' :: (quoted part.name.text.toList ++
          '"' :: ':' :: ' ' :: (part.text ++ (gap' ++ '}' :: rest))) := by
        rw [next]
        simp [row, Part.written]
      have hvalue : parseValue fuel (' ' :: (part.text ++ (gap' ++ '}' :: rest))) =
          some (part.value, gap' ++ '}' :: rest) :=
        hread.read hlength (.blank_append hgap' (delimited_brace rest)) (hskip _)
      have hclosing : skipSpace (gap' ++ '}' :: rest) = '}' :: rest := by
        rw [skipSpace_blank hgap', skipSpace_of_not_space rfl]
      rw [parseMembers_last hnext hvalue hclosing, hmembers, ofMembers_some]
      simp
    | cons part' parts =>
      rw [List.map_cons, List.map_cons, row_cons_cons] at enough next
      have hnext : skipSpace cs = '"' :: (quoted part.name.text.toList ++ '"' :: ':' :: ' ' ::
          (part.text ++ ',' :: (gap ++ (row gap ((part' :: parts).map Part.written) ++
            (gap' ++ '}' :: rest))))) := by
        rw [next]
        simp [Part.written]
      simp only [Part.written, List.length_append, List.length_cons] at enough
      have hvalue := hread.before_comma (by omega : part.text.length ≤ fuel)
        (hskip (',' :: (gap ++ (row gap ((part' :: parts).map Part.written) ++
          (gap' ++ '}' :: rest)))))
      have hopen : Visible (row gap ((part' :: parts).map Part.written) ++
          (gap' ++ '}' :: rest)) :=
        (visible_row (by simp) fun p _ => p.visible_written).append _
      have hrest := ih (by simp) (fun p hp => read p (List.mem_cons_of_mem _ hp)) fuel
        (before ++ [part.member])
        (gap ++ (row gap ((part' :: parts).map Part.written) ++ (gap' ++ '}' :: rest)))
        (by simp only [List.map_cons, Part.written] at enough ⊢; omega)
        (by rw [skipSpace_blank hgap, hopen.skipSpace_eq])
      rw [parseMembers_more hnext hvalue (skipSpace_of_not_space rfl _), hmembers, hrest]
      simp

/-! ## Values -/

mutual

/-- The value as a reader finds it in its text: names have the escapes of their
spelling. -/
def spelled : Json → Json
  | arr items => arr (spelledItems items)
  | obj members => obj (spelledMembers members)
  | value => value

/-- The items as a reader finds them. -/
def spelledItems : List Json → List Json
  | [] => []
  | item :: rest => spelled item :: spelledItems rest

/-- The members as a reader finds them. -/
def spelledMembers : List (Name × Json) → List (Name × Json)
  | [] => []
  | (name, value) :: rest => (name.spelled, spelled value) :: spelledMembers rest

end

theorem spelledItems_eq_map (items : List Json) : spelledItems items = items.map spelled := by
  induction items with
  | nil => rfl
  | cons item rest ih => rw [spelledItems, ih, List.map_cons]

theorem spelledMembers_eq_map (members : List (Name × Json)) :
    spelledMembers members = members.map fun member => (member.1.spelled, spelled member.2) := by
  induction members with
  | nil => rfl
  | cons member rest ih => rw [spelledMembers, ih, List.map_cons]

theorem prettyItems_eq_map (level : Nat) (items : List Json) :
    prettyItems level items = items.map (prettyAt level) := by
  induction items with
  | nil => rfl
  | cons item rest ih => rw [prettyItems, ih, List.map_cons]

theorem prettyMembers_eq_map (level : Nat) (members : List (Name × Json)) :
    prettyMembers level members =
      members.map fun member => quote member.1.text ++ ": " ++ prettyAt level member.2 := by
  induction members with
  | nil => rfl
  | cons member rest ih => rw [prettyMembers, ih, List.map_cons]

/-- Values all of whose numbers are read as they are written. -/
inductive Legible : Json → Prop
  | null : Legible null
  | bool (value : Bool) : Legible (bool value)
  | num {value : Number} (h : value.Legible) : Legible (num value)
  | str (value : String) : Legible (str value)
  | arr {items : List Json} (h : ∀ item ∈ items, Legible item) : Legible (arr items)
  | obj {members : List (Name × Json)} (h : ∀ member ∈ members, Legible member.2) :
      Legible (obj members)

theorem blank_lineAt (level : Nat) : Blank (lineAt level).toList := by
  intro c hc
  simp only [lineAt, String.toList_append, String.toList_ofList, List.mem_append] at hc
  rcases hc with hc | hc
  · obtain rfl : c = '\n' := by simpa using hc
    rfl
  · obtain rfl := List.eq_of_mem_replicate hc
    rfl

/-- Parts between brackets are a row. -/
theorem toList_bracketed (opening closing : String) (level : Nat) {parts : List String}
    (nonempty : parts ≠ []) :
    (bracketed opening closing level parts).toList = opening.toList ++
      ((lineAt (level + 1)).toList ++
        (row (lineAt (level + 1)).toList (parts.map String.toList) ++
          ((lineAt level).toList ++ closing.toList))) := by
  have hempty : parts.isEmpty = false := by simpa using nonempty
  have hcomma : ("," ++ lineAt (level + 1)).toList = ',' :: (lineAt (level + 1)).toList := by
    simp
  simp only [bracketed, hempty, Bool.false_eq_true, if_false, String.toList_append,
    String.toList_intercalate, row, hcomma, List.append_assoc]

theorem parseValue_items {fuel : Nat} {after : List Char} (next : skipSpace cs = '[' :: after)
    (h : Visible (skipSpace after)) :
    parseValue (fuel + 1) cs = parseItems fuel [] (skipSpace after) := by
  obtain ⟨c, tail, heq, -, hc, -⟩ := h
  rw [parseValue]
  simp only [next, heq]
  split
  · rename_i h
    exact absurd (List.cons.inj h).1 hc
  · rfl

theorem parseValue_members {fuel : Nat} {after : List Char} (next : skipSpace cs = '{' :: after)
    (h : Visible (skipSpace after)) :
    parseValue (fuel + 1) cs = parseMembers fuel [] (skipSpace after) := by
  obtain ⟨c, tail, heq, -, -, hc⟩ := h
  rw [parseValue]
  simp only [next, heq]
  split
  · rename_i h
    exact absurd (List.cons.inj h).1 hc
  · rfl

theorem OpensNumber.ne {c d : Char} (hc : OpensNumber c)
    (hd : d.isDigit = false ∧ d ≠ '-') : c ≠ d := by
  rintro rfl
  rcases hc with hdigit | hsign
  · rw [hd.1] at hdigit
    cases hdigit
  · exact hd.2 hsign

theorem OpensNumber.visible {c : Char} (hc : OpensNumber c) (tail : List Char) :
    Visible (c :: tail) := by
  refine ⟨c, tail, rfl, ?_, hc.ne (by decide), hc.ne (by decide)⟩
  simp only [isSpace, Bool.or_eq_false_iff, beq_eq_false_iff_ne]
  exact ⟨⟨⟨hc.ne (by decide), hc.ne (by decide)⟩, hc.ne (by decide)⟩, hc.ne (by decide)⟩

/-- Where a number begins, a number is read. -/
theorem parseValue_number {fuel : Nat} {c : Char} {tail : List Char} (hc : OpensNumber c)
    (next : skipSpace cs = c :: tail) :
    parseValue (fuel + 1) cs =
      (parseLiteral (c :: tail)).map fun (literal, rest) => (literal.toJson, rest) := by
  have hother : ∀ d after, d.isDigit = false ∧ d ≠ '-' → c :: tail ≠ d :: after := by
    intro d after hd heq
    exact hc.ne hd (List.cons.inj heq).1
  rw [parseValue]
  simp only [next]
  split
  case h_7 => rfl
  all_goals
    rename_i heq
    exact absurd heq (hother _ _ (by decide))

theorem readAt_null : ReadAt "null".toList null := by
  refine .of_step ⟨'n', _, rfl, rfl, by decide, by decide⟩ ?_
  intro fuel cs rest _ _ next
  have hnext : skipSpace cs = 'n' :: 'u' :: 'l' :: 'l' :: rest := next
  rw [parseValue]
  simp only [hnext]

theorem readAt_bool (level : Nat) (value : Bool) :
    ReadAt (prettyAt level (bool value)).toList (bool value) := by
  cases value with
  | false =>
    rw [prettyAt]
    refine .of_step ⟨'f', _, rfl, rfl, by decide, by decide⟩ ?_
    intro fuel cs rest _ _ next
    have hnext : skipSpace cs = 'f' :: 'a' :: 'l' :: 's' :: 'e' :: rest := next
    rw [parseValue]
    simp only [hnext]
  | true =>
    rw [prettyAt]
    refine .of_step ⟨'t', _, rfl, rfl, by decide, by decide⟩ ?_
    intro fuel cs rest _ _ next
    have hnext : skipSpace cs = 't' :: 'r' :: 'u' :: 'e' :: rest := next
    rw [parseValue]
    simp only [hnext]

theorem readAt_number {value : Number} (h : value.Legible) :
    ReadAt value.write.toList (num value) := by
  obtain ⟨⟨c, tail, heq, hc⟩, -⟩ := h.parse delimited_nil
  refine .of_step (heq ▸ hc.visible tail) ?_
  intro fuel cs rest enough hrest next
  obtain ⟨-, literal, hread, hvalue⟩ := h.parse hrest
  rw [heq, List.cons_append] at next hread
  rw [parseValue_number hc next, hread]
  simp only [Option.map_some, hvalue]

theorem readAt_str (value : String) : ReadAt (quote value).toList (str value) := by
  rw [toList_quote]
  refine .of_step ⟨'"', _, rfl, rfl, by decide, by decide⟩ ?_
  intro fuel cs rest enough _ next
  have hnext : skipSpace cs = '"' :: (quoted value.toList ++ '"' :: rest) := by
    rw [next]
    simp
  rw [parseValue]
  simp only [hnext, parseString_quoted, Name.spelled]
  rfl

/-- Items in brackets are read if each of them is. -/
theorem readAt_items {gap gap' : List Char} (hgap : Blank gap) (hgap' : Blank gap')
    {parts : List (List Char × Json)} (nonempty : parts ≠ [])
    (h : ∀ part ∈ parts, ReadAt part.1 part.2) :
    ReadAt ('[' :: (gap ++ (row gap (parts.map (·.1)) ++ (gap' ++ [']']))))
      (arr (parts.map (·.2))) := by
  refine .of_step ⟨'[', _, rfl, rfl, by decide, by decide⟩ ?_
  intro fuel cs rest enough _ next
  have hrow : Visible (row gap (parts.map (·.1)) ++ (gap' ++ ']' :: rest)) :=
    (visible_row nonempty fun part hpart => (h part hpart).visible).append _
  have hnext : skipSpace cs =
      '[' :: (gap ++ (row gap (parts.map (·.1)) ++ (gap' ++ ']' :: rest))) := by
    rw [next]
    simp
  have hskip : skipSpace (gap ++ (row gap (parts.map (·.1)) ++ (gap' ++ ']' :: rest))) =
      row gap (parts.map (·.1)) ++ (gap' ++ ']' :: rest) := by
    rw [skipSpace_blank hgap, hrow.skipSpace_eq]
  simp only [List.length_append, List.length_cons] at enough
  rw [parseValue_items hnext (by rw [hskip]; exact hrow), hskip]
  exact parseItems_row hgap hgap' nonempty h fuel [] _ rest (by omega) hrow.skipSpace_eq

/-- An array is read if its items are. -/
theorem readAt_arr {level : Nat} {items : List Json}
    (h : ∀ item ∈ items, ReadAt (prettyAt (level + 1) item).toList item.spelled) :
    ReadAt (prettyAt level (arr items)).toList (spelled (arr items)) := by
  rw [prettyAt, prettyItems_eq_map, spelled, spelledItems_eq_map]
  cases items with
  | nil =>
    have htext : (bracketed "[" "]" level []).toList = ['[', ']'] := by
      simp [bracketed]
    rw [List.map_nil, htext]
    refine .of_step ⟨'[', _, rfl, rfl, by decide, by decide⟩ ?_
    intro fuel cs rest enough _ next
    rw [parseValue]
    simp only [next, List.cons_append, List.nil_append, skipSpace_of_not_space (c := ']') rfl]
    rfl
  | cons item items =>
    have hread : ∀ part ∈ (item :: items).map fun item =>
        ((prettyAt (level + 1) item).toList, item.spelled), ReadAt part.1 part.2 := by
      intro part hpart
      obtain ⟨item, hitem, rfl⟩ := List.mem_map.mp hpart
      exact h item hitem
    have hitems := readAt_items (blank_lineAt (level + 1)) (blank_lineAt level) (by simp) hread
    simp only [List.map_map] at hitems
    rw [toList_bracketed _ _ _ (by simp), List.map_map]
    exact hitems

/-- Members in braces are read if each of their values is. -/
theorem readAt_members {gap gap' : List Char} (hgap : Blank gap) (hgap' : Blank gap')
    {parts : List Part} (nonempty : parts ≠ [])
    (h : ∀ part ∈ parts, ReadAt part.text part.value) :
    ReadAt ('{' :: (gap ++ (row gap (parts.map Part.written) ++ (gap' ++ ['}']))))
      (obj (parts.map Part.member)) := by
  refine .of_step ⟨'{', _, rfl, rfl, by decide, by decide⟩ ?_
  intro fuel cs rest enough _ next
  have hrow : Visible (row gap (parts.map Part.written) ++ (gap' ++ '}' :: rest)) :=
    (visible_row nonempty fun part _ => part.visible_written).append _
  have hnext : skipSpace cs =
      '{' :: (gap ++ (row gap (parts.map Part.written) ++ (gap' ++ '}' :: rest))) := by
    rw [next]
    simp
  have hskip : skipSpace (gap ++ (row gap (parts.map Part.written) ++ (gap' ++ '}' :: rest))) =
      row gap (parts.map Part.written) ++ (gap' ++ '}' :: rest) := by
    rw [skipSpace_blank hgap, hrow.skipSpace_eq]
  simp only [List.length_append, List.length_cons] at enough
  rw [parseValue_members hnext (by rw [hskip]; exact hrow), hskip]
  exact parseMembers_row hgap hgap' nonempty h fuel [] _ rest (by omega) hrow.skipSpace_eq

/-- An object is read if the values of its members are. -/
theorem readAt_obj {level : Nat} {members : List (Name × Json)}
    (h : ∀ member ∈ members, ReadAt (prettyAt (level + 1) member.2).toList member.2.spelled) :
    ReadAt (prettyAt level (obj members)).toList (spelled (obj members)) := by
  rw [prettyAt, prettyMembers_eq_map, spelled, spelledMembers_eq_map]
  cases members with
  | nil =>
    have htext : (bracketed "\x7b" "\x7d" level []).toList = ['{', '}'] := by
      simp [bracketed]
    rw [List.map_nil, htext]
    refine .of_step ⟨'{', _, rfl, rfl, by decide, by decide⟩ ?_
    intro fuel cs rest enough _ next
    rw [parseValue]
    simp only [next, List.cons_append, List.nil_append, skipSpace_of_not_space (c := '}') rfl]
    rfl
  | cons member members =>
    have hread : ∀ part ∈ (member :: members).map fun member => (⟨member.1,
        (prettyAt (level + 1) member.2).toList, member.2.spelled⟩ : Part),
        ReadAt part.text part.value := by
      intro part hpart
      obtain ⟨member, hmember, rfl⟩ := List.mem_map.mp hpart
      exact h member hmember
    have hmembers := readAt_members (blank_lineAt (level + 1)) (blank_lineAt level) (by simp) hread
    have hwritten : ∀ member : Name × Json,
        (quote member.1.text ++ ": " ++ prettyAt (level + 1) member.2).toList =
          Part.written ⟨member.1, (prettyAt (level + 1) member.2).toList, member.2.spelled⟩ := by
      intro member
      simp [Part.written, toList_quote]
    simp only [List.map_map, Function.comp_def] at hmembers
    rw [toList_bracketed _ _ _ (by simp), List.map_map]
    simp only [Function.comp_def, hwritten]
    exact hmembers

/-- A legible value is read from its text at any level of indentation. -/
theorem Legible.readAt {value : Json} (h : value.Legible) (level : Nat) :
    ReadAt (prettyAt level value).toList value.spelled := by
  induction h generalizing level with
  | null => exact readAt_null
  | bool value => exact readAt_bool level value
  | num h => exact readAt_number h
  | str value => exact readAt_str value
  | arr _ ih => exact readAt_arr fun item hitem => ih item hitem (level + 1)
  | obj _ ih => exact readAt_obj fun member hmember => ih member hmember (level + 1)

/-- The text of a legible value is read as the value. -/
theorem parse?_pretty {value : Json} (h : value.Legible) :
    parse? value.pretty = some value.spelled := by
  have hread := h.readAt 0
  have hvalue : parseValue (value.pretty.toList.length + 1) value.pretty.toList =
      some (value.spelled, []) := by
    refine hread.read (by simp [pretty]) delimited_nil ?_
    rw [List.append_nil]
    exact hread.visible.skipSpace_eq
  unfold parse?
  simp only [hvalue]
  rfl

end Provisioning.Json
