import Provisioning.Proofs.Toml.Value

/-!
# Documents with sections

Of the documents that there are, those with entries at the top, and below them the
sections of one group: tables under the key of the group that hold entries only.  Every
key is written without quotes, and every value stands on its line.

Such a document is written and read line by line.  `Reads draft cs final` says what
the lines of a text make of a draft, however many steps there are left.  There is one
lemma for each kind of line, and a text is read by putting them together from its end.
A draft that has read some sections holds what `grouped` says.
-/

namespace Provisioning.Toml

variable {cs rest : List Char} {c d : Char} {key last : String} {path parent : List String}
  {v : Toml}

/-! ## Keys -/

/-- A key that is written without quotes. -/
def BareKey (key : String) : Prop :=
  key.toList ≠ [] ∧ key.toList.all isBareKeyChar = true
deriving Decidable

theorem BareKey.char (h : BareKey key) : ∀ c ∈ key.toList, isBareKeyChar c = true :=
  List.all_eq_true.mp h.2

theorem BareKey.write (h : BareKey key) : writeKey key = key := by
  have hsome : key.isEmpty = false := by
    rw [Bool.eq_false_iff]
    intro hempty
    rw [String.isEmpty_iff] at hempty
    exact h.1 (by rw [hempty]; rfl)
  rw [writeKey, hsome, h.2]
  rfl

/-- A key begins with one of its characters. -/
theorem BareKey.head (h : BareKey key) :
    ∃ c cs, key.toList = c :: cs ∧ isBareKeyChar c = true := by
  obtain ⟨c, cs, hcs⟩ := List.exists_cons_of_ne_nil h.1
  refine ⟨c, cs, hcs, h.char c ?_⟩
  rw [hcs]
  exact List.mem_cons_self

theorem skipInlineSpace_visible (hblank : c ≠ ' ') (htab : c ≠ '\t') (cs : List Char) :
    skipInlineSpace (c :: cs) = c :: cs := by
  rw [skipInlineSpace, List.dropWhile_cons_of_neg]
  simp [isInlineSpace, hblank, htab]

theorem keyPart_bare (h : BareKey key) (stop : ∀ c ∈ rest.head?, isBareKeyChar c = false) :
    keyPart (key.toList ++ rest) = some (key, rest) := by
  obtain ⟨c, cs, hcs, hc⟩ := h.head
  have unquoted : lineText (key.toList ++ rest) = none := by
    rw [hcs]
    exact lineText.eq_3 _
      (fun _ heq => ne_of_true hc (by decide) (List.cons.inj heq).1)
      (fun _ heq => ne_of_true hc (by decide) (List.cons.inj heq).1)
  have hspan : (key.toList ++ rest).span isBareKeyChar = (key.toList, rest) := by
    rw [List.span_eq_takeWhile_dropWhile, List.takeWhile_append_of_pos h.char,
      List.dropWhile_append_of_pos h.char]
    cases rest with
    | nil => simp
    | cons d more => simp [stop d rfl]
  rw [keyPart, unquoted]
  dsimp only
  rw [hspan, hcs]
  dsimp only
  rw [← hcs, String.ofList_toList]

theorem keyFrom_last (hpart : keyPart (skipInlineSpace cs) = some (key, rest))
    (undotted : ∀ more, skipInlineSpace rest ≠ '.' :: more) (parts : Nat) (before : List String) :
    keyFrom (parts + 1) before cs = some ((key :: before).reverse, skipInlineSpace rest) := by
  rw [keyFrom, hpart]
  dsimp only
  split
  · rename_i more heq
    exact absurd heq (undotted more)
  · rfl

theorem keyFrom_dot (hpart : keyPart (skipInlineSpace cs) = some (key, '.' :: rest)) (parts : Nat)
    (before : List String) :
    keyFrom (parts + 1) before cs = keyFrom parts (key :: before) rest := by
  have hskip : skipInlineSpace ('.' :: rest) = '.' :: rest := rfl
  rw [keyFrom, hpart]
  simp only [hskip]

/-- A dotted key is read up to what no key goes on with. -/
theorem keyFrom_path (bare : ∀ key ∈ path, BareKey key) (hsome : path ≠ [])
    (stop : ∀ c ∈ rest.head?, isBareKeyChar c = false)
    (undotted : ∀ more, skipInlineSpace rest ≠ '.' :: more) {parts : Nat}
    (hparts : path.length ≤ parts) (before : List String) :
    keyFrom parts before ((".".intercalate path).toList ++ rest) =
      some (before.reverse ++ path, skipInlineSpace rest) := by
  induction path generalizing parts before with
  | nil => exact absurd rfl hsome
  | cons key path ih =>
    rw [List.length_cons] at hparts
    obtain ⟨parts, rfl⟩ : ∃ n, parts = n + 1 := ⟨parts - 1, by omega⟩
    have hkey := bare key List.mem_cons_self
    obtain ⟨c, cs, hcs, hc⟩ := hkey.head
    have hskip : ∀ more, skipInlineSpace (key.toList ++ more) = key.toList ++ more := by
      intro more
      rw [hcs]
      exact skipInlineSpace_visible (ne_of_true hc (by decide)) (ne_of_true hc (by decide)) _
    cases path with
    | nil =>
      have hpart : keyPart (skipInlineSpace (key.toList ++ rest)) = some (key, rest) := by
        rw [hskip, keyPart_bare hkey stop]
      rw [String.intercalate_singleton, keyFrom_last hpart undotted, List.reverse_cons]
    | cons next path =>
      have hdot : ∀ more, keyPart (skipInlineSpace (key.toList ++ '.' :: more)) =
          some (key, '.' :: more) := by
        intro more
        rw [hskip]
        exact keyPart_bare hkey (by rintro c ⟨⟩; rfl)
      have hmore := ih (fun k hk => bare k (List.mem_cons_of_mem _ hk)) (List.cons_ne_nil _ _)
        (Nat.le_of_succ_le_succ hparts) (key :: before)
      have hone : ∀ more : List Char, ".".toList ++ more = '.' :: more := fun _ => rfl
      rw [toList_intercalate_cons, List.append_assoc, List.append_assoc, hone,
        keyFrom_dot (hdot _), hmore]
      simp

theorem head_path (bare : ∀ key ∈ path, BareKey key) (hsome : path ≠ []) :
    ∃ c cs, (".".intercalate path).toList = c :: cs ∧ isBareKeyChar c = true := by
  obtain ⟨first, more, rfl⟩ := List.exists_cons_of_ne_nil hsome
  obtain ⟨c, cs, hcs, hc⟩ := (bare first List.mem_cons_self).head
  cases more with
  | nil => exact ⟨c, cs, by rw [String.intercalate_singleton, hcs], hc⟩
  | cons next more => exact ⟨c, _, by rw [toList_intercalate_cons, hcs]; rfl, hc⟩

theorem key_path (parent : List String) (last : String)
    (bare : ∀ key ∈ parent ++ [last], BareKey key) (hdepth : parent.length + 1 < depthLimit)
    (stop : ∀ c ∈ rest.head?, isBareKeyChar c = false)
    (undotted : ∀ more, skipInlineSpace rest ≠ '.' :: more) :
    Toml.key ((".".intercalate (parent ++ [last])).toList ++ rest) =
      some ((parent, last), skipInlineSpace rest) := by
  have hparts : (parent ++ [last]).length ≤ depthLimit - 1 := by
    rw [List.length_append, List.length_singleton]
    omega
  rw [Toml.key, keyFrom_path bare (by simp) stop undotted hparts []]
  simp

/-! ## Lines -/

/-- The line of an entry. -/
def entryLine (entry : String × Toml) : String :=
  writeKey entry.1 ++ " = " ++ writeValue entry.2 ++ "\n"

theorem toList_entryLine (bare : BareKey key) (v : Toml) (rest : List Char) :
    (entryLine (key, v)).toList ++ rest =
      key.toList ++ ' ' :: '=' :: ' ' :: ((writeValue v).toList ++ '\n' :: rest) := by
  simp [entryLine, bare.write]

theorem toList_header (bare : ∀ key ∈ path, BareKey key) (rest : List Char) :
    (header path).toList ++ rest =
      '[' :: ((".".intercalate path).toList ++ ']' :: '\n' :: rest) := by
  have hwritten : path.map writeKey = path :=
    (List.map_congr_left fun key hkey => (bare key hkey).write).trans (List.map_id' _)
  rw [header, hwritten]
  simp

theorem lineEnd_newline (rest : List Char) : lineEnd ('\n' :: rest) = some rest := rfl

/-- Neither a space nor a tab stands at the front of a value. -/
theorem skipInlineSpace_onLine (h : OnLine v) (rest : List Char) :
    skipInlineSpace ((writeValue v).toList ++ rest) = (writeValue v).toList ++ rest := by
  cases h with
  | atom h =>
    obtain ⟨d, ds, htext, hd⟩ := h.head
    rw [htext]
    exact skipInlineSpace_visible (hd.ne (by decide)) (hd.ne (by decide)) _
  | arr h =>
    obtain ⟨ds, htext⟩ := head_array _
    rw [htext]
    rfl

theorem line_of_key (unbracketed : ∀ more, cs ≠ '[' :: more)
    (hkey : Toml.key cs = some (([], key), '=' :: rest)) {fuel : Nat} {left : List Char}
    (hvalue : value 0 fuel.succ (skipInlineSpace rest) = some (v, '\n' :: left))
    {draft next : DocumentDraft} (hinsert : draft.insert [] key v = some next) :
    line fuel draft cs = some (next, left) := by
  rw [line.eq_3 _ _ _ (fun _ => unbracketed _) unbracketed, hkey]
  simp only [hvalue, hinsert, lineEnd_newline, Option.bind_some, Option.map_some]

theorem line_entry (bare : BareKey key) (h : OnLine v) {draft next : DocumentDraft}
    (hinsert : draft.insert [] key v = some next) {fuel : Nat}
    (hfuel : (writeValue v).toList.length ≤ fuel) (rest : List Char) :
    line fuel draft ((entryLine (key, v)).toList ++ rest) = some (next, rest) := by
  have htext := toList_entryLine bare v rest
  obtain ⟨c, cs, hcs, hc⟩ := bare.head
  have unbracketed : ∀ more, (entryLine (key, v)).toList ++ rest ≠ '[' :: more := by
    intro more heq
    rw [htext, hcs] at heq
    exact ne_of_true hc (by decide) (List.cons.inj heq).1
  have hkey : Toml.key ((entryLine (key, v)).toList ++ rest) =
      some (([], key), '=' :: ' ' :: ((writeValue v).toList ++ '\n' :: rest)) := by
    rw [htext, ← String.intercalate_singleton (s := ".") (t := key)]
    exact key_path [] key (by simpa using bare) (by decide) (by rintro c ⟨⟩; rfl)
      (fun _ heq => nomatch heq)
  refine line_of_key unbracketed hkey ?_ hinsert
  have hblank : skipInlineSpace (' ' :: ((writeValue v).toList ++ '\n' :: rest)) =
      skipInlineSpace ((writeValue v).toList ++ '\n' :: rest) := rfl
  rw [hblank, skipInlineSpace_onLine h]
  exact value_onLine h ⟨'\n', rest, rfl, .inl rfl⟩ (Nat.lt_succ_of_le hfuel)

/-- A header opens its table. -/
theorem line_header (bare : ∀ key ∈ parent ++ [last], BareKey key)
    (hdepth : parent.length + 1 < depthLimit) {draft next : DocumentDraft}
    (hstart : draft.startTable parent last = some next) (fuel : Nat) (rest : List Char) :
    line fuel draft ((header (parent ++ [last])).toList ++ rest) = some (next, rest) := by
  have hclose : skipInlineSpace (']' :: '\n' :: rest) = ']' :: '\n' :: rest := rfl
  have hkey : Toml.key ((".".intercalate (parent ++ [last])).toList ++ ']' :: '\n' :: rest) =
      some ((parent, last), ']' :: '\n' :: rest) :=
    key_path parent last bare hdepth (by rintro c ⟨⟩; rfl) (fun _ heq => nomatch heq)
  have hsingle : ∀ more,
      (".".intercalate (parent ++ [last])).toList ++ ']' :: '\n' :: rest ≠ '[' :: more := by
    intro more heq
    obtain ⟨c, cs, hcs, hc⟩ := head_path bare (by simp)
    rw [hcs] at heq
    exact ne_of_true hc (by decide) (List.cons.inj heq).1
  rw [toList_header bare, line.eq_2 _ _ _ hsingle, hkey]
  simp only [hstart, lineEnd_newline, Option.bind_some, Option.map_some]

/-! ## What the lines of a text make of a draft -/

/-- The lines of a text lead from one draft to another.  The number of steps that are left
is no matter, as long as it bounds the length of the text. -/
def Reads (draft : DocumentDraft) (cs : List Char) (final : DocumentDraft) : Prop :=
  ∀ fuel, cs.length < fuel → lines fuel draft cs = some final

namespace Reads

variable {draft next final : DocumentDraft}

theorem nil (draft : DocumentDraft) : Reads draft [] draft := by
  intro fuel hfuel
  obtain ⟨fuel, rfl⟩ : ∃ n, fuel = n + 1 := ⟨fuel - 1, by simp at hfuel; omega⟩
  rfl

/-- A line that is empty. -/
theorem blank (h : Reads draft cs final) : Reads draft ('\n' :: cs) final := by
  intro fuel hfuel
  rw [List.length_cons] at hfuel
  obtain ⟨fuel, rfl⟩ : ∃ n, fuel = n + 1 := ⟨fuel - 1, by omega⟩
  have hmore : lines (fuel + 1) draft ('\n' :: cs) = lines fuel draft cs := rfl
  rw [hmore]
  exact h fuel (by omega)

/-- A line with something on it: it begins with a bracket or a key. -/
theorem line (hc : c = '[' ∨ isBareKeyChar c = true)
    (hline : ∀ fuel, cs.length ≤ fuel → Toml.line fuel draft (c :: cs) = some (next, rest))
    (hless : rest.length ≤ cs.length) (h : Reads next rest final) :
    Reads draft (c :: cs) final := by
  intro fuel hfuel
  rw [List.length_cons] at hfuel
  obtain ⟨fuel, rfl⟩ : ∃ n, fuel = n + 1 := ⟨fuel - 1, by omega⟩
  have other : ∀ {d}, d ≠ '[' → isBareKeyChar d = false → c ≠ d := by
    rintro d hbracket hd rfl
    rcases hc with hc | hc
    · exact hbracket hc
    · rw [hc] at hd
      cases hd
  have hskip : skipInlineSpace (c :: cs) = c :: cs :=
    skipInlineSpace_visible (other (by decide) (by decide)) (other (by decide) (by decide)) cs
  have hbreak : afterNewline? (c :: cs) = none := by
    have hfeed : c ≠ '\n' := other (by decide) (by decide)
    have hreturn : c ≠ '\r' := other (by decide) (by decide)
    exact afterNewline?.eq_3 _ (fun _ heq => hfeed (List.cons.inj heq).1)
      (fun _ heq => hreturn (List.cons.inj heq).1)
  rw [lines, hskip]
  split
  · rename_i heq
    cases heq
  · rename_i heq
    exact absurd (List.cons.inj heq).1 (other (by decide) (by decide))
  · rw [hbreak, hline fuel (by omega)]
    exact h fuel (by omega)

theorem entry (bare : BareKey key) (onLine : OnLine v) (hinsert : draft.insert [] key v = some next)
    (h : Reads next cs final) : Reads draft ((entryLine (key, v)).toList ++ cs) final := by
  obtain ⟨c, more, hmore, hc⟩ := bare.head
  have htext := toList_entryLine bare v cs
  rw [hmore, List.cons_append] at htext
  rw [htext]
  refine line (.inr hc) ?_ ?_ h
  · intro fuel hfuel
    rw [← htext]
    refine line_entry bare onLine hinsert ?_ cs
    simp only [List.length_append, List.length_cons] at hfuel
    omega
  · simp only [List.length_append, List.length_cons]
    omega

theorem header (bare : ∀ key ∈ parent ++ [last], BareKey key)
    (hdepth : parent.length + 1 < depthLimit)
    (hstart : draft.startTable parent last = some next) (h : Reads next cs final) :
    Reads draft ((header (parent ++ [last])).toList ++ cs) final := by
  have hline := fun fuel => line_header bare hdepth hstart fuel cs
  rw [toList_header bare] at hline ⊢
  refine line (.inl rfl) (fun fuel _ => hline fuel) ?_ h
  simp only [List.length_append, List.length_cons]
  omega

end Reads

/-! ## Drafts -/

/-- Entries as the draft of a table holds them. -/
def leaves (entries : List (String × Toml)) : List (String × Draft) :=
  entries.map fun entry => (entry.1, .leaf entry.2)

/-- A section as a draft holds it. -/
def sectionDraft (part : String × List (String × Toml)) : String × Draft :=
  (part.1, .table false false (leaves part.2))

/-- The draft of a document with a group that is so far only known from its sections. -/
def grouped (root : List (String × Toml)) (group : String) (inner : List (String × Draft)) :
    List (String × Draft) :=
  leaves root ++ [(group, .table true false inner)]

theorem lookup_eq_none {α : Type} {entries : List (String × α)}
    (fresh : key ∉ entries.map (·.1)) : entries.lookup key = none := by
  rw [List.lookup_eq_none_iff]
  intro entry hentry
  have hne : key ≠ entry.1 := fun heq => fresh (heq ▸ List.mem_map_of_mem hentry)
  simpa using hne

/-- A key is none of those before it, where all are apart. -/
theorem fresh_of_apart {α : Type} {before entries : List (String × α)} {entry : String × α}
    (apart : ((before ++ entry :: entries).map (·.1)).Nodup) : entry.1 ∉ before.map (·.1) := by
  rw [List.map_append, List.nodup_append] at apart
  intro hbefore
  exact apart.2.2 entry.1 hbefore entry.1 (by simp) rfl

theorem keys_leaves (entries : List (String × Toml)) :
    (leaves entries).map (·.1) = entries.map (·.1) := by
  rw [leaves, List.map_map]
  rfl

theorem keys_sections (parts : List (String × List (String × Toml))) :
    (parts.map sectionDraft).map (·.1) = parts.map (·.1) := by
  rw [List.map_map]
  rfl

theorem insert_leaves {entries : List (String × Toml)} (fresh : key ∉ entries.map (·.1)) :
    Draft.insert [] key v (leaves entries) = some (leaves (entries ++ [(key, v)])) := by
  rw [← keys_leaves] at fresh
  simp only [Draft.insert, Draft.alter, lookup_eq_none fresh]
  simp [leaves]

section Group

variable {α : Type} {root : List (String × Toml)} {group : String}
  {parts : List (String × List (String × Toml))} {inner closed : List (String × Draft)}
  {change : Bool → List (String × Draft) → Option (α × List (String × Draft))}

/-- Where there is no group yet, a change begins with an empty one. -/
theorem alter_leaves (fresh : group ∉ root.map (·.1)) (isDotted : Bool) :
    Draft.alter false change [group] isDotted (leaves root) =
      (change false []).map fun (a, changed) => (a, grouped root group changed) := by
  rw [← keys_leaves] at fresh
  rw [Draft.alter, lookup_eq_none fresh]
  rfl

theorem alter_grouped (fresh : group ∉ root.map (·.1)) (isDotted : Bool) :
    Draft.alter false change [group] isDotted (grouped root group inner) =
      (change false inner).map fun (a, changed) => (a, grouped root group changed) := by
  rw [← keys_leaves] at fresh
  have hlookup : (grouped root group inner).lookup group = some (.table true false inner) := by
    rw [grouped, List.lookup_append, lookup_eq_none fresh]
    simp
  -- the entries of the root are kept, since none of them has the key of the group
  have hreplace : ∀ value, Draft.replace group value (grouped root group inner) =
      leaves root ++ [(group, value)] := by
    intro value
    have hkept : Draft.replace group value (leaves root) = leaves root := by
      rw [Draft.replace]
      refine (List.map_congr_left fun entry hentry => ?_).trans (List.map_id' _)
      have hne : entry.1 ≠ group := fun heq => fresh (heq ▸ List.mem_map_of_mem hentry)
      exact if_neg hne
    rw [grouped, Draft.replace, List.map_append, ← Draft.replace, hkept]
    simp
  rw [Draft.alter, hlookup]
  simp only [Bool.false_and, Bool.false_eq_true, if_false, Draft.alter, hreplace]
  rfl

/-- What is closed of a document that has read some sections. -/
def Closed (root : List (String × Toml)) (group : String)
    (parts : List (String × List (String × Toml))) (closed : List (String × Draft)) : Prop :=
  closed = grouped root group (parts.map sectionDraft) ∨ parts = [] ∧ closed = leaves root

theorem Closed.alter (h : Closed root group parts closed) (fresh : group ∉ root.map (·.1))
    (isDotted : Bool) :
    Draft.alter false change [group] isDotted closed =
      (change false (parts.map sectionDraft)).map fun (a, changed) =>
        (a, grouped root group changed) := by
  rcases h with rfl | ⟨rfl, rfl⟩
  · exact alter_grouped fresh isDotted
  · exact alter_leaves fresh isDotted

/-- A header under the group opens an empty table. -/
theorem Closed.startTable (h : Closed root group parts closed) (fresh : group ∉ root.map (·.1))
    {draft : DocumentDraft} (hclose : draft.close = some closed) {name : String}
    (hname : name ∉ parts.map (·.1)) :
    draft.startTable [group] name =
      some ⟨grouped root group (parts.map sectionDraft), [], .table [group] name⟩ := by
  rw [← keys_sections] at hname
  have hopen : Draft.openTable [group] name closed =
      some ([], grouped root group (parts.map sectionDraft)) := by
    simp only [Draft.openTable, h.alter fresh, lookup_eq_none hname, Option.map_some]
  simp [DocumentDraft.startTable, hclose, hopen]

/-- At its end the table is one more section. -/
theorem close_section (fresh : group ∉ root.map (·.1))
    (parts : List (String × List (String × Toml))) (name : String)
    (entries : List (String × Toml)) :
    DocumentDraft.close ⟨grouped root group (parts.map sectionDraft), leaves entries,
      .table [group] name⟩ =
        some (grouped root group ((parts ++ [(name, entries)]).map sectionDraft)) := by
  simp only [DocumentDraft.close, Draft.closeTable, alter_grouped fresh, Option.map_some,
    List.map_append, List.map_cons, List.map_nil, sectionDraft]

end Group

/-! ## The text of a document -/

/-- The lines of some entries. -/
def entriesText (entries : List (String × Toml)) : List Char :=
  entries.flatMap fun entry => (entryLine entry).toList

/-- The text of some sections, each after an empty line. -/
def sectionsText (group : String) (parts : List (String × List (String × Toml))) : List Char :=
  parts.flatMap fun part => '\n' :: ((header [group, part.1]).toList ++ entriesText part.2)

/-- Entries whose keys are written without quotes, each once, and whose values stand on
their lines. -/
structure Plain (entries : List (String × Toml)) : Prop where
  bare : ∀ entry ∈ entries, BareKey entry.1
  onLine : ∀ entry ∈ entries, OnLine entry.2
  apart : (entries.map (·.1)).Nodup

theorem Plain.of_keys {entries : List (String × Toml)} (keys : List String)
    (hkeys : (entries.map (·.1)).Sublist keys) (bare : ∀ key ∈ keys, BareKey key)
    (apart : keys.Nodup) (onLine : ∀ entry ∈ entries, OnLine entry.2) : Plain entries where
  bare _ hentry := bare _ (hkeys.subset (List.mem_map_of_mem hentry))
  onLine := onLine
  apart := apart.sublist hkeys

/-- Plain entries are read one after the other. -/
theorem reads_entries {final : DocumentDraft} {entries : List (String × Toml)}
    (draft : DocumentDraft) (before : List (String × Toml)) (h : Plain (before ++ entries))
    (hmore : Reads { draft with current := leaves (before ++ entries) } cs final) :
    Reads { draft with current := leaves before } (entriesText entries ++ cs) final := by
  induction entries generalizing before with
  | nil =>
    rw [List.append_nil] at hmore
    exact hmore
  | cons entry entries ih =>
    have happend : before ++ entry :: entries = (before ++ [entry]) ++ entries := by simp
    have hin : entry ∈ before ++ entry :: entries := by simp
    have fresh := fresh_of_apart h.apart
    have hinsert : DocumentDraft.insert { draft with current := leaves before } [] entry.1 entry.2 =
        some { draft with current := leaves (before ++ [entry]) } := by
      simp only [DocumentDraft.insert, insert_leaves fresh, Option.map_some]
    have hrest := ih (before ++ [entry]) (happend ▸ h) (happend ▸ hmore)
    have htext : entriesText (entry :: entries) ++ cs =
        (entryLine entry).toList ++ (entriesText entries ++ cs) := by
      simp [entriesText]
    rw [htext]
    exact hrest.entry (h.bare entry hin) (h.onLine entry hin) hinsert

/-- Sections are read one after the other. -/
theorem reads_sections {root : List (String × Toml)} {group : String} (hgroup : BareKey group)
    (fresh : group ∉ root.map (·.1)) {parts : List (String × List (String × Toml))}
    (before : List (String × List (String × Toml))) (bare : ∀ part ∈ parts, BareKey part.1)
    (plain : ∀ part ∈ parts, Plain part.2)
    (apart : ((before ++ parts).map (·.1)).Nodup) (draft : DocumentDraft)
    (hclose : ∃ closed, draft.close = some closed ∧ Closed root group before closed) :
    ∃ final, Reads draft (sectionsText group parts) final ∧
      ∃ closed, final.close = some closed ∧ Closed root group (before ++ parts) closed := by
  induction parts generalizing before draft with
  | nil => exact ⟨draft, .nil draft, by rwa [List.append_nil]⟩
  | cons part parts ih =>
    have happend : before ++ part :: parts = (before ++ [part]) ++ parts := by simp
    obtain ⟨closed, hclosed, hstate⟩ := hclose
    have hstart := hstate.startTable fresh hclosed (fresh_of_apart apart)
    have hend := close_section fresh before part.1 part.2
    -- the lines of this section leave a draft that closes with one section more
    obtain ⟨final, hread, hfinal⟩ := ih (before ++ [part])
      (fun p hp => bare p (List.mem_cons_of_mem _ hp))
      (fun p hp => plain p (List.mem_cons_of_mem _ hp)) (happend ▸ apart)
      _ ⟨_, hend, .inl rfl⟩
    refine ⟨final, ?_, happend ▸ hfinal⟩
    have hentries := reads_entries ⟨grouped root group (before.map sectionDraft), [],
      .table [group] part.1⟩ [] (plain part List.mem_cons_self) hread
    have htext : sectionsText group (part :: parts) =
        '\n' :: ((header ([group] ++ [part.1])).toList ++
          (entriesText part.2 ++ sectionsText group parts)) := by
      simp [sectionsText]
    rw [htext]
    refine (Reads.header ?_ (by simp [depthLimit]) hstart hentries).blank
    intro key hkey
    rcases List.mem_append.mp hkey with hkey | hkey
    · rw [List.mem_singleton.mp hkey]
      exact hgroup
    · rw [List.mem_singleton.mp hkey]
      exact bare part List.mem_cons_self

/-! ## Writing and reading a document -/

/-- A document with entries at the top and a group of sections below them. -/
def withSections (root : List (String × Toml)) (group : String)
    (parts : List (String × List (String × Toml))) : Toml :=
  table (root ++ [(group, table (parts.map fun part => (part.1, table part.2)))])

section Writing

variable {entries root : List (String × Toml)} {group : String}
  {parts : List (String × List (String × Toml))}

theorem entryLines_onLine (h : ∀ entry ∈ entries, OnLine entry.2) (more : List (String × Toml)) :
    entryLines (entries ++ more) = entries.map entryLine ++ entryLines more := by
  induction entries with
  | nil => rfl
  | cons entry entries ih =>
    obtain ⟨key, v⟩ := entry
    have hv := h (key, v) List.mem_cons_self
    have hstep : entryLines ((key, v) :: (entries ++ more)) =
        entryLine (key, v) :: entryLines (entries ++ more) := by
      cases hv with
      | atom hv => cases hv <;> rfl
      | arr hv => rfl
    rw [List.cons_append, hstep, ih fun e he => h e (List.mem_cons_of_mem _ he)]
    rfl

theorem subtableBlocks_onLine (path : List String) (h : ∀ entry ∈ entries, OnLine entry.2)
    (more : List (String × Toml)) :
    subtableBlocks path (entries ++ more) = subtableBlocks path more := by
  induction entries with
  | nil => rfl
  | cons entry entries ih =>
    obtain ⟨key, v⟩ := entry
    have hv := h (key, v) List.mem_cons_self
    have hblock : tableBlocks (path ++ [key]) v = [] := by
      cases hv with
      | atom hv => cases hv <;> simp [tableBlocks]
      | arr hv => simp [tableBlocks]
    rw [List.cons_append, subtableBlocks, hblock, List.nil_append,
      ih fun e he => h e (List.mem_cons_of_mem _ he)]

/-- The block of a section. -/
def sectionBlock (group : String) (part : String × List (String × Toml)) : String :=
  header [group, part.1] ++ String.join (part.2.map entryLine)

theorem tableBlocks_section (path : List String) (hpath : path ≠ [])
    (h : ∀ entry ∈ entries, OnLine entry.2) :
    tableBlocks path (table entries) = [header path ++ String.join (entries.map entryLine)] := by
  have hlines := entryLines_onLine h []
  have hblocks := subtableBlocks_onLine path h []
  simp only [List.append_nil, entryLines, subtableBlocks] at hlines hblocks
  simp [tableBlocks, hlines, hblocks, hpath]

theorem subtableBlocks_sections (h : ∀ part ∈ parts, ∀ entry ∈ part.2, OnLine entry.2) :
    subtableBlocks [group] (parts.map fun part => (part.1, table part.2)) =
      parts.map (sectionBlock group) := by
  induction parts with
  | nil => rw [List.map_nil, subtableBlocks]; rfl
  | cons part parts ih =>
    rw [List.map_cons, subtableBlocks,
      tableBlocks_section _ (by simp) (h part List.mem_cons_self),
      ih fun p hp => h p (List.mem_cons_of_mem _ hp)]
    rfl

theorem entryLines_sections (parts : List (String × List (String × Toml))) :
    entryLines (parts.map fun part => (part.1, table part.2)) = [] := by
  induction parts with
  | nil => rfl
  | cons part parts ih => rw [List.map_cons, entryLines, ih]

/-- The blocks of the document. -/
theorem tableBlocks_withSections (hroot : ∀ entry ∈ root, OnLine entry.2) (hsome : root ≠ [])
    (h : ∀ part ∈ parts, ∀ entry ∈ part.2, OnLine entry.2) (hparts : parts ≠ []) :
    tableBlocks [] (withSections root group parts) =
      String.join (root.map entryLine) :: parts.map (sectionBlock group) := by
  have hgroup : tableBlocks [group] (table (parts.map fun part => (part.1, table part.2))) =
      parts.map (sectionBlock group) := by
    simp [tableBlocks, entryLines_sections, subtableBlocks_sections h, hparts]
  rw [withSections, tableBlocks, entryLines_onLine hroot, subtableBlocks_onLine [] hroot,
    subtableBlocks, List.nil_append, hgroup]
  simp [entryLines, subtableBlocks, hsome]

theorem fits_atom {v : Toml} (h : Atom v) : fits v = true := by
  cases h with
  | str s => rfl
  | @int n h =>
    have hleast : minInt ≤ (n : Int) := by
      unfold minInt
      omega
    simp [fits, hleast, h]

theorem allFit_iff {items : List Toml} :
    allFit items = true ↔ ∀ item ∈ items, fits item = true := by
  induction items with
  | nil => simp [allFit]
  | cons item items ih => simp [allFit, ih]

theorem entriesFit_iff : entriesFit entries = true ↔ ∀ entry ∈ entries, fits entry.2 = true := by
  induction entries with
  | nil => simp [entriesFit]
  | cons entry entries ih => simp [entriesFit, ih]

theorem fits_onLine {v : Toml} (h : OnLine v) : fits v = true := by
  cases h with
  | atom h => exact fits_atom h
  | arr h =>
    rw [fits, allFit_iff]
    exact fun item hitem => fits_atom (h item hitem)

theorem fits_withSections (hroot : ∀ entry ∈ root, OnLine entry.2)
    (h : ∀ part ∈ parts, ∀ entry ∈ part.2, OnLine entry.2) :
    fits (withSections root group parts) = true := by
  have hsections : fits (table (parts.map fun part => (part.1, table part.2))) = true := by
    rw [fits, entriesFit_iff, List.forall_mem_map]
    intro part hpart
    rw [fits, entriesFit_iff]
    exact fun entry hentry => fits_onLine (h part hpart entry hentry)
  rw [withSections, fits, entriesFit_iff, List.forall_mem_append, List.forall_mem_singleton]
  exact ⟨fun entry hentry => fits_onLine (hroot entry hentry), hsections⟩

/-- The characters of the text of the document. -/
theorem toList_blocks (first : String) (blocks : List String) :
    ("\n".intercalate (first :: blocks)).toList =
      first.toList ++ blocks.flatMap fun block => '\n' :: block.toList := by
  induction blocks generalizing first with
  | nil => simp
  | cons block blocks ih =>
    rw [toList_intercalate_cons, ih block]
    rfl

end Writing

section Freezing

open Draft

theorem freezeEntries_append (before entries : List (String × Draft)) :
    freezeEntries (before ++ entries) = freezeEntries before ++ freezeEntries entries := by
  induction before with
  | nil => simp [freezeEntries]
  | cons entry before ih => simp [freezeEntries, ih]

theorem freezeEntries_leaves (entries : List (String × Toml)) :
    freezeEntries (leaves entries) = entries := by
  induction entries with
  | nil => simp [leaves, freezeEntries]
  | cons entry entries ih =>
    rw [leaves, List.map_cons, freezeEntries, ← leaves, ih, freeze]

theorem freezeEntries_sections (parts : List (String × List (String × Toml))) :
    freezeEntries (parts.map sectionDraft) = parts.map fun part => (part.1, table part.2) := by
  induction parts with
  | nil => simp [freezeEntries]
  | cons part parts ih =>
    rw [List.map_cons, sectionDraft, freezeEntries, ih, freeze, freezeEntries_leaves, List.map_cons]

theorem freezeEntries_grouped (root : List (String × Toml)) (group : String)
    (parts : List (String × List (String × Toml))) :
    table (freezeEntries (grouped root group (parts.map sectionDraft))) =
      withSections root group parts := by
  rw [grouped, freezeEntries_append, freezeEntries_leaves, freezeEntries, freeze,
    freezeEntries_sections, freezeEntries]
  rfl

end Freezing

/-- No byte order mark stands before a key. -/
theorem dropByteOrderMark_entriesText {entries : List (String × Toml)} (h : Plain entries)
    (hsome : entries ≠ []) (rest : List Char) :
    dropByteOrderMark (entriesText entries ++ rest) = entriesText entries ++ rest := by
  obtain ⟨⟨key, v⟩, more, rfl⟩ := List.exists_cons_of_ne_nil hsome
  have hkey := h.bare (key, v) List.mem_cons_self
  obtain ⟨c, cs, hcs, hc⟩ := hkey.head
  have htext : entriesText ((key, v) :: more) ++ rest =
      (entryLine (key, v)).toList ++ (entriesText more ++ rest) := by
    simp [entriesText]
  rw [htext, toList_entryLine hkey, hcs]
  exact dropByteOrderMark.eq_2 _ fun _ heq => ne_of_true hc (by decide) (List.cons.inj heq).1

/-- A document of plain entries and plain sections is read from its own text. -/
theorem parse?_render?_withSections {root : List (String × Toml)} {group : String}
    {parts : List (String × List (String × Toml))} (hroot : Plain root) (hsome : root ≠ [])
    (hgroup : BareKey group) (fresh : group ∉ root.map (·.1))
    (bare : ∀ part ∈ parts, BareKey part.1) (plain : ∀ part ∈ parts, Plain part.2)
    (apart : (parts.map (·.1)).Nodup) (hparts : parts ≠ []) :
    ∃ text, render? (withSections root group parts) = some text ∧
      parse? text = some (withSections root group parts) := by
  have hsections : ∀ part ∈ parts, ∀ entry ∈ part.2, OnLine entry.2 :=
    fun part hpart => (plain part hpart).onLine
  have htext : ("\n".intercalate (tableBlocks [] (withSections root group parts))).toList =
      entriesText root ++ sectionsText group parts := by
    rw [tableBlocks_withSections hroot.onLine hsome hsections hparts, toList_blocks]
    simp [entriesText, sectionsText, sectionBlock, List.flatMap_map]
  refine ⟨"\n".intercalate (tableBlocks [] (withSections root group parts)), ?_, ?_⟩
  · rw [render?, fits_withSections hroot.onLine hsections, if_pos rfl]
  · obtain ⟨final, hread, closed, hclose, hclosed⟩ :=
      reads_sections hgroup fresh [] bare plain apart { current := leaves root }
        ⟨leaves root, rfl, .inr ⟨rfl, rfl⟩⟩
    -- the whole text is read with the entries of the root before the sections
    have hall : Reads {} (entriesText root ++ sectionsText group parts) final :=
      reads_entries {} [] hroot hread
    have hmark := dropByteOrderMark_entriesText hroot hsome (sectionsText group parts)
    have hgrouped : closed = grouped root group (parts.map sectionDraft) := by
      rcases hclosed with h | ⟨h, -⟩
      · exact h
      · exact absurd h hparts
    rw [parse?, htext, hmark, hall _ (Nat.lt_succ_self _)]
    simp only [Option.bind_some, hclose, Option.map_some, hgrouped, freezeEntries_grouped]

end Provisioning.Toml
