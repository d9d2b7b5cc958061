import Mathlib.Data.List.Nodup
import Provisioning.Json.Codec
import Provisioning.Lookup
import Provisioning.Proofs.Json.Text

/-!
# Values that codecs keep

A codec keeps a value if what it writes is legible and is read back as the value.
Numbers are kept if they fit, binary fractions if they are finite and their text
carries them, and lists, options, tables and records if their parts are.

A record is put together field by field, and so is the proof that it is kept:
`Record.Keeps` speaks of the fields so far, and `Record.Keeps.field` adds one.
-/

namespace Provisioning

open Json

variable {α β ρ : Type}

/-- What the codec writes for the value can be read from a text, and stands for
the value. -/
structure Codec.Keeps (codec : Codec Json α) (a : α) : Prop where
  legible : (codec.write a).Legible
  read : codec.read? (codec.write a).spelled = some a

/-! ## Single values -/

namespace Json

theorem keeps_natCodec {bound n : Nat} (hbound : bound ≤ Text.wordBound) (h : n < bound) :
    (natCodec bound).Keeps n where
  legible := .num (legible_ofNat (Nat.lt_of_lt_of_le h hbound))
  read := by
    have hrange : 0 ≤ (n : Int) ∧ (n : Int).toNat < bound := by omega
    have hread : (natCodec bound).read? (num (.whole (n : Int))) =
        if 0 ≤ (n : Int) ∧ (n : Int).toNat < bound then some (n : Int).toNat else none := rfl
    have hspelled : ((natCodec bound).write n).spelled = num (.whole (n : Int)) := rfl
    rw [hspelled, hread, if_pos hrange, Int.toNat_natCast]

theorem keeps_word {n : Nat} (h : n < Text.wordBound) : word.Keeps n :=
  keeps_natCodec (Nat.le_refl _) h

theorem keeps_half {n : Nat} (h : n < Text.halfBound) : half.Keeps n :=
  keeps_natCodec (by decide) h

theorem keeps_truth (b : Bool) : truth.Keeps b :=
  ⟨.bool b, rfl⟩

theorem keeps_text (s : String) : text.Keeps s :=
  ⟨.str s, rfl⟩

theorem keeps_float {x : Float} (finite : x.isFinite = true) (carried : carries x = true) :
    float.Keeps x := by
  have hwrite : float.write x = num (.real x) := by
    simp only [float, finite, if_true]
  constructor
  · rw [hwrite]
    exact .num (legible_of_carries carried)
  · rw [hwrite]
    rfl

theorem keeps_wrapped {codec : Codec Json α} {wrap : α → β} {unwrap : β → α} {b : β}
    (hwrap : wrap (unwrap b) = b) (h : codec.Keeps (unwrap b)) :
    (wrapped codec wrap unwrap).Keeps b where
  legible := h.legible
  read := by
    have hread : (wrapped codec wrap unwrap).read? (codec.write (unwrap b)).spelled =
        (codec.read? (codec.write (unwrap b)).spelled).map wrap := rfl
    have hwrite : (wrapped codec wrap unwrap).write b = codec.write (unwrap b) := rfl
    rw [hwrite, hread, h.read, Option.map_some, hwrap]

/-- One of a few names is kept if it is the name of no other value. -/
theorem keeps_choice {all : List α} {name : α → String} {a : α}
    (h : all.find? (name · == name a) = some a) : (choice all name).Keeps a :=
  ⟨.str (name a), h⟩

theorem keeps_list {codec : Codec Json α} {as : List α} (h : ∀ a ∈ as, codec.Keeps a) :
    (list codec).Keeps as where
  legible := by
    refine .arr ?_
    intro tree htree
    obtain ⟨a, ha, rfl⟩ := List.mem_map.mp htree
    exact (h a ha).legible
  read := by
    have hwrite : ((list codec).write as).spelled = arr (spelledItems (as.map codec.write)) := rfl
    have hread : ∀ items, (list codec).read? (arr items) = readAll? codec items := fun _ => rfl
    rw [hwrite, hread]
    induction as with
    | nil => rfl
    | cons a as ih =>
      rw [List.map_cons, spelledItems, readAll?, (h a List.mem_cons_self).read,
        ih (fun b hb => h b (List.mem_cons_of_mem a hb)) rfl]

/-- A value that may be missing is kept if the codec does not take it for a
missing one. -/
theorem keeps_nullable {codec : Codec Json α} {value? : Option α} (hnull : codec.read? null = none)
    (h : ∀ a ∈ value?, codec.Keeps a) : (nullable codec).Keeps value? := by
  cases value? with
  | none => exact ⟨.null, rfl⟩
  | some a =>
    have ha := h a rfl
    refine ⟨ha.legible, ?_⟩
    have hwrite : (nullable codec).write (some a) = codec.write a := rfl
    have hread : ∀ tree, tree ≠ null →
        (nullable codec).read? tree = (codec.read? tree).map some := by
      intro tree htree
      cases tree <;> first | exact absurd rfl htree | rfl
    have hvalue : (codec.write a).spelled ≠ null := by
      intro heq
      have hnone := ha.read
      rw [heq, hnull] at hnone
      cases hnone
    rw [hwrite, hread _ hvalue, ha.read, Option.map_some]

/-! ## Tables -/

section Tables

variable {κ ν : Type} [DecidableEq κ] {writeKey : κ → String} {readKey? : Name → Option κ}
  {codec : Codec Json ν} {entries : Lookup κ ν}

/-- The entries of a table with one more member read. -/
def addMember (readKey? : Name → Option κ) (codec : Codec Json ν) (entries : Lookup κ ν)
    (member : Name × Json) : Option (Lookup κ ν) :=
  match readKey? member.1, codec.read? member.2 with
  | some key, some value => some (entries.put key value)
  | _, _ => none

theorem addMember_fresh {before : Lookup κ ν} {entry : κ × ν}
    (fresh : entry.1 ∉ before.map (·.1))
    (hkey : readKey? (Name.spelled ⟨writeKey entry.1, false⟩) = some entry.1)
    (hvalue : codec.Keeps entry.2) :
    addMember readKey? codec before
      (Name.spelled ⟨writeKey entry.1, false⟩, (codec.write entry.2).spelled) =
        some (before ++ [entry]) := by
  have hput : before.put entry.1 entry.2 = before ++ [entry] := by
    rw [Lookup.put, Lookup.remove, List.filter_eq_self.mpr]
    intro earlier hearlier
    have hne : earlier.1 ≠ entry.1 := fun heq => fresh (heq ▸ List.mem_map_of_mem hearlier)
    simpa using hne
  simp only [addMember, hkey, hvalue.read, hput]

/-- Members with new keys are added in order. -/
theorem foldlM_addMember
    (hkey : ∀ entry ∈ entries, readKey? (Name.spelled ⟨writeKey entry.1, false⟩) = some entry.1)
    (hvalue : ∀ entry ∈ entries, codec.Keeps entry.2) (before : Lookup κ ν)
    (apart : Lookup.Apart (before ++ entries)) :
    (entries.map fun entry => (Name.spelled ⟨writeKey entry.1, false⟩,
      (codec.write entry.2).spelled)).foldlM (addMember readKey? codec) before =
        some (before ++ entries) := by
  induction entries generalizing before with
  | nil => simp
  | cons entry entries ih =>
    have fresh : entry.1 ∉ before.map (·.1) := by
      rw [Lookup.Apart, List.map_append, List.nodup_append] at apart
      intro hin
      exact apart.2.2 entry.1 hin entry.1 (by simp) rfl
    have hstep := addMember_fresh fresh (hkey entry List.mem_cons_self)
      (hvalue entry List.mem_cons_self)
    have happend : before ++ entry :: entries = (before ++ [entry]) ++ entries := by simp
    rw [List.map_cons, List.foldlM_cons, hstep, Option.bind_eq_bind, Option.bind_some, happend]
    exact ih (fun e he => hkey e (List.mem_cons_of_mem _ he))
      (fun e he => hvalue e (List.mem_cons_of_mem _ he)) (before ++ [entry]) (happend ▸ apart)

/-- A table with its keys apart is kept if its values are and each key is read
back from its name. -/
theorem keeps_table (apart : entries.Apart)
    (hkey : ∀ entry ∈ entries, readKey? (Name.spelled ⟨writeKey entry.1, false⟩) = some entry.1)
    (hvalue : ∀ entry ∈ entries, codec.Keeps entry.2) :
    (table writeKey readKey? codec).Keeps entries where
  legible := by
    refine .obj ?_
    intro member hmember
    obtain ⟨written, hwritten, rfl⟩ := List.mem_map.mp hmember
    obtain ⟨entry, hentry, rfl⟩ := List.mem_map.mp hwritten
    exact (hvalue entry hentry).legible
  read := by
    have hwrite : ((table writeKey readKey? codec).write entries).spelled =
        obj (entries.map fun entry => (Name.spelled ⟨writeKey entry.1, false⟩,
          (codec.write entry.2).spelled)) := by
      have hobject : (table writeKey readKey? codec).write entries =
          object (entries.map fun entry => (writeKey entry.1, codec.write entry.2)) := rfl
      rw [hobject, object, spelled, spelledMembers_eq_map, List.map_map, List.map_map]
      rfl
    have hread : ∀ members, (table writeKey readKey? codec).read? (obj members) =
        members.foldlM (addMember readKey? codec) [] := fun _ => rfl
    rw [hwrite, hread]
    exact foldlM_addMember hkey hvalue [] apart

end Tables

end Json

/-! ## Fields -/

/-- What a reader finds in the place of a field. -/
def slotOf : Option Json → Slot Json
  | some tree => .given tree.spelled
  | none => .unnamed

/-- What is written for the field, if anything, can be read from a text and
stands for the value. -/
structure Field.Keeps (field : Field Json α) (a : α) : Prop where
  legible : ∀ tree ∈ field.write a, tree.Legible
  read : field.read? (slotOf (field.write a)) = some a

namespace Json

variable {codec : Codec Json α}

theorem keeps_required {a : α} (h : codec.Keeps a) : (Field.required codec).Keeps a := by
  constructor
  · rintro tree ⟨⟩
    exact h.legible
  · exact h.read

theorem keeps_defaulted {a default : α} (h : codec.Keeps a) :
    (Field.defaulted codec default).Keeps a := by
  constructor
  · rintro tree ⟨⟩
    exact h.legible
  · exact h.read

theorem keeps_optional {value? : Option α} (hnull : codec.read? null = none)
    (h : ∀ a ∈ value?, codec.Keeps a) : (optional codec).Keeps value? := by
  have hvalue := keeps_nullable hnull h
  constructor
  · rintro tree ⟨⟩
    exact hvalue.legible
  · exact hvalue.read

end Json

/-! ## Records -/

/-- What a reader finds under a name. -/
def slotNamed (written : List (String × Json)) (name : String) : Slot Json :=
  slotOf ((written.find? (·.1 == name)).map (·.2))

/-- The fields so far: what is written for `x` stands under names of the record,
each name at most once, and `b` is read from what is found under the names. -/
structure Record.Keeps (record : Record Json ρ β) (x : ρ) (b : β) : Prop where
  legible : ∀ member ∈ record.write x, member.2.Legible
  listed : ∀ member ∈ record.write x, member.1 ∈ record.names
  apart : ((record.write x).map (·.1)).Nodup
  read : ∀ rest, record.read? (record.names.map (slotNamed (record.write x)) ++ rest) =
    some (b, rest)

namespace Record

variable {record : Record Json ρ (α → β)} {x : ρ} {make : α → β} {name : String}
  {added : Field Json α} {get : ρ → α}

theorem keeps_start (make : β) (x : ρ) : (start make : Record Json ρ β).Keeps x make where
  legible := nofun
  listed := nofun
  apart := List.nodup_nil
  read _ := rfl

theorem find?_eq_none_of_not_listed (h : record.Keeps x make) (fresh : name ∉ record.names) :
    (record.write x).find? (·.1 == name) = none := by
  rw [List.find?_eq_none]
  intro member hmember heq
  have hname : member.1 = name := by simpa using heq
  exact fresh (hname ▸ h.listed member hmember)

/-- One more field: the earlier ones are found where they were. -/
theorem Keeps.field (h : record.Keeps x make) (fresh : name ∉ record.names)
    (hfield : added.Keeps (get x)) : (record.field name added get).Keeps x (make (get x)) := by
  have hnames : (record.field name added get).names = record.names ++ [name] := rfl
  have hwrite : (record.field name added get).write x =
      record.write x ++ (added.write (get x)).toList.map fun value => (name, value) := rfl
  have hmember : ∀ member ∈ (added.write (get x)).toList.map fun value => (name, value),
      member.1 = name ∧ member.2 ∈ added.write (get x) := by
    intro member hmember
    obtain ⟨value, hvalue, rfl⟩ := List.mem_map.mp hmember
    exact ⟨rfl, Option.mem_toList.mp hvalue⟩
  -- what is added stands behind the earlier members and under none of their names
  have hearlier : ∀ other ∈ record.names, slotNamed ((record.field name added get).write x) other =
      slotNamed (record.write x) other := by
    intro other hother
    have hskip : ((added.write (get x)).toList.map fun value => (name, value)).find?
        (·.1 == other) = none := by
      rw [List.find?_eq_none]
      intro member hadded heq
      have hname : member.1 = other := by simpa using heq
      exact fresh ((hmember member hadded).1 ▸ hname ▸ hother)
    unfold slotNamed
    rw [hwrite, List.find?_append, hskip, Option.or_none]
  have hlast : slotNamed ((record.field name added get).write x) name =
      slotOf (added.write (get x)) := by
    unfold slotNamed
    rw [hwrite, List.find?_append, find?_eq_none_of_not_listed h fresh, Option.none_or]
    cases added.write (get x) <;> simp
  constructor
  · intro member hin
    rw [hwrite] at hin
    rcases List.mem_append.mp hin with hin | hin
    · exact h.legible member hin
    · exact hfield.legible _ (hmember member hin).2
  · intro member hin
    rw [hwrite] at hin
    rw [hnames]
    rcases List.mem_append.mp hin with hin | hin
    · exact List.mem_append_left _ (h.listed member hin)
    · rw [(hmember member hin).1]
      exact List.mem_append_right _ List.mem_cons_self
  · rw [hwrite, List.map_append]
    refine List.nodup_append.mpr ⟨h.apart, ?_, ?_⟩
    · cases added.write (get x) <;> simp
    · rintro a ha b hb rfl
      obtain ⟨early, hearly, rfl⟩ := List.mem_map.mp ha
      obtain ⟨late, hlate, heq⟩ := List.mem_map.mp hb
      rw [(hmember late hlate).1] at heq
      exact fresh (heq ▸ h.listed early hearly)
  · intro rest
    have hslots : (record.field name added get).names.map
        (slotNamed ((record.field name added get).write x)) ++ rest =
          record.names.map (slotNamed (record.write x)) ++
            (slotOf (added.write (get x)) :: rest) := by
      rw [hnames, List.map_append, List.map_congr_left hearlier]
      simp [hlast]
    rw [hslots]
    simp only [Record.field, h.read, hfield.read, Option.map_some]

/-- What is found among the members of an object as it is read. -/
theorem named?_spelled (written : List (String × Json)) (name : String) :
    named? name (spelledMembers (written.map fun (name, value) => (⟨name, false⟩, value))) =
      ((written.find? (·.1 == name)).map (·.2)).map spelled := by
  rw [spelledMembers_eq_map, named?, List.map_map, List.find?_map, Option.map_map, Option.map_map]
  rfl

/-- No name occurs twice in an object if none was written twice. -/
theorem occurrences_spelled_le_one {written : List (String × Json)} (name : String)
    (apart : (written.map (·.1)).Nodup) :
    occurrences name
      (spelledMembers (written.map fun (name, value) => (⟨name, false⟩, value))) ≤ 1 := by
  have hcount : occurrences name
      (spelledMembers (written.map fun (name, value) => (⟨name, false⟩, value))) =
        (written.map (·.1)).count name := by
    rw [occurrences, spelledMembers_eq_map, List.map_map, ← List.countP_eq_length_filter,
      List.countP_map, List.count, List.countP_map]
    rfl
  rw [hcount]
  exact List.nodup_iff_count_le_one.mp apart name

/-- Of a complete record is read what its fields are read as. -/
theorem Keeps.read_codec {record : Record Json ρ ρ} {y : ρ} (h : record.Keeps x y) :
    ((record.codec format).write x).Legible ∧
      (record.codec format).read? ((record.codec format).write x).spelled = some y := by
  have hwrite : (record.codec format).write x = object (record.write x) := rfl
  constructor
  · rw [hwrite]
    refine .obj ?_
    intro member hmember
    obtain ⟨written, hwritten, rfl⟩ := List.mem_map.mp hmember
    exact h.legible written hwritten
  · have honce : (record.names.any fun name => 1 < occurrences name (spelledMembers
        ((record.write x).map fun (name, value) => (⟨name, false⟩, value)))) = false := by
      rw [List.any_eq_false]
      intro name _ hmany
      have hle := occurrences_spelled_le_one name h.apart
      have hlt := of_decide_eq_true hmany
      omega
    have hslots : format.slots? record.names ((record.codec format).write x).spelled =
        some (record.names.map (slotNamed (record.write x))) := by
      rw [hwrite, object, spelled]
      simp only [format, honce]
      simp
      intro name _
      rw [named?_spelled]
      unfold slotNamed
      cases (record.write x).find? (·.1 == name) <;> rfl
    have hread := h.read []
    rw [List.append_nil] at hread
    simp only [Record.codec] at hslots ⊢
    rw [hslots]
    simp only [hread, Option.map_some]

/-- A complete record is kept if its fields are read as the record. -/
theorem Keeps.codec {record : Record Json ρ ρ} (h : record.Keeps x x) :
    (record.codec format).Keeps x :=
  ⟨h.read_codec.1, h.read_codec.2⟩

end Record

end Provisioning
