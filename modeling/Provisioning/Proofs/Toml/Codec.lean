import Provisioning.Toml.Codec

/-!
# Reading what a codec writes

Numbers below their bound, texts, lists and choices are read as what they were written
for.  A record is read from its slots one by one, and so is the proof that it is:
`Record.Takes` speaks of the fields so far, and `Record.Takes.field` adds one.
-/

namespace Provisioning

variable {τ α β ρ : Type}

/-! ## Single values -/

namespace Toml

theorem read?_natCodec {bound n : Nat} (h : n < bound) :
    (natCodec bound).read? (int n) = some n := by
  have hrange : 0 ≤ (n : Int) ∧ (n : Int).toNat < bound := by omega
  have hread : (natCodec bound).read? (int (n : Int)) =
      if 0 ≤ (n : Int) ∧ (n : Int).toNat < bound then some (n : Int).toNat else none := rfl
  rw [hread, if_pos hrange, Int.toNat_natCast]

theorem read?_list {codec : Codec Toml α} {as : List α}
    (h : ∀ a ∈ as, codec.read? (codec.write a) = some a) :
    (list codec).read? ((list codec).write as) = some as := by
  have hread : (list codec).read? ((list codec).write as) = readAll? codec (as.map codec.write) :=
    rfl
  rw [hread]
  clear hread
  induction as with
  | nil => rfl
  | cons a as ih =>
    rw [List.map_cons, readAll?, h a List.mem_cons_self,
      ih fun b hb => h b (List.mem_cons_of_mem a hb)]

end Toml

/-! ## Fields -/

namespace Field

variable {codec : Codec τ α} {tree : τ} {a : α}

theorem required_given (h : codec.read? tree = some a) :
    (required codec).read? (.given tree) = some a :=
  h

theorem defaulted_given (h : codec.read? tree = some a) (default : α) :
    (defaulted codec default).read? (.given tree) = some a :=
  h

/-- What is found of a field that is written or left out. -/
def found : Option τ → Slot τ
  | some tree => .given tree
  | none => .unnamed

/-- What was left out comes back as the default. -/
theorem omittableOr_found {value? : Option α}
    (h : ∀ a ∈ value?, codec.read? (codec.write a) = some a) (default : Option α) :
    (omittableOr codec default).read? (found (value?.map codec.write)) =
      some (value?.or default) := by
  cases value? with
  | none => rfl
  | some a => exact congrArg (Option.map some) (h a rfl)

end Field

/-! ## Records -/

namespace Record

/-- The fields so far are read from these slots, and the slots after them are left. -/
def Takes (record : Record τ ρ β) (slots : List (Slot τ)) (b : β) : Prop :=
  ∀ rest, record.read? (slots ++ rest) = some (b, rest)

theorem takes_start (make : β) : (start make : Record τ ρ β).Takes [] make :=
  fun _ => rfl

theorem Takes.field {record : Record τ ρ (α → β)} {slots : List (Slot τ)} {make : α → β}
    (h : record.Takes slots make) {name : String} {added : Field τ α} {get : ρ → α} {slot : Slot τ}
    {a : α} (hslot : added.read? slot = some a) :
    (record.field name added get).Takes (slots ++ [slot]) (make a) := by
  intro rest
  have hread : record.read? (slots ++ slot :: rest) = some (make, slot :: rest) := h (slot :: rest)
  rw [List.append_assoc, List.singleton_append]
  simp only [Record.field, hread, hslot, Option.map_some]

theorem Takes.codec {record : Record τ ρ ρ} {slots : List (Slot τ)} {x : ρ}
    (h : record.Takes slots x) {format : Format τ} {tree : τ}
    (hslots : format.slots? record.names tree = some slots) :
    (record.codec format).read? tree = some x := by
  have hread := h []
  rw [List.append_nil] at hread
  simp only [Record.codec, hslots, hread, Option.map_some]

end Record

end Provisioning
