/-!
# Codecs

A codec writes the values of a type as trees of a data format and reads them
back.  Records are put together field by field: `Record.start` takes the
constructor, each `Record.field` adds a name, and `Record.codec` closes it for a
format.  A format says how a record is laid out as a tree and where its fields
are found in one.
-/

namespace Provisioning

/-- How values of `α` are written as trees `τ`, and read back where a tree is
one that stands for such a value. -/
structure Codec (τ α : Type) where
  write : α → τ
  read? : τ → Option α

/-- What a reader of a record finds in the place of a field: a value, no such
name, or a row of values that ends before it. -/
inductive Slot (τ : Type) where
  | given (value : τ)
  | unnamed
  | beyond

/-- How one field is written, perhaps not at all, and read. -/
structure Field (τ α : Type) where
  write : α → Option τ
  read? : Slot τ → Option α

namespace Field

variable {τ α : Type}

/-- A field that must be there. -/
def required (codec : Codec τ α) : Field τ α where
  write a := some (codec.write a)
  read?
    | .given value => codec.read? value
    | .unnamed => none
    | .beyond => none

/-- A field that has a default when it is missing. -/
def defaulted (codec : Codec τ α) (default : α) : Field τ α where
  write a := some (codec.write a)
  read?
    | .given value => codec.read? value
    | .unnamed => some default
    | .beyond => some default

/-- A field that is left out when it has no value, and has a default when it is
missing. -/
def omittableOr (codec : Codec τ α) (default : Option α) : Field τ (Option α) where
  write a := a.map codec.write
  read?
    | .given value => (codec.read? value).map some
    | .unnamed => some default
    | .beyond => some default

end Field

/-- A part of a record: its names, how the values of `ρ` are written under them,
and how `β` is read from the slots, with the slots that are left. -/
structure Record (τ ρ β : Type) where
  names : List String
  write : ρ → List (String × τ)
  read? : List (Slot τ) → Option (β × List (Slot τ))

/-- How a data format lays out records. -/
structure Format (τ : Type) where
  object : List (String × τ) → τ
  slots? : List String → τ → Option (List (Slot τ))

namespace Record

variable {τ ρ α β : Type}

/-- A record without fields so far. -/
def start (make : β) : Record τ ρ β where
  names := []
  write _ := []
  read? slots := some (make, slots)

/-- A record with one more field. -/
def field (record : Record τ ρ (α → β)) (name : String) (field : Field τ α) (get : ρ → α) :
    Record τ ρ β where
  names := record.names ++ [name]
  write x := record.write x ++ (field.write (get x)).toList.map fun value => (name, value)
  read? slots :=
    match record.read? slots with
    | some (make, slot :: rest) => (field.read? slot).map fun a => (make a, rest)
    | _ => none

/-- The codec of a complete record. -/
def codec (record : Record τ ρ ρ) (format : Format τ) : Codec τ ρ where
  write x := format.object (record.write x)
  read? tree :=
    match format.slots? record.names tree with
    | some slots => (record.read? slots).map (·.1)
    | none => none

end Record

end Provisioning
