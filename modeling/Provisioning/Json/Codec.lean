import Provisioning.Codec
import Provisioning.Json
import Provisioning.Text.Numeral

/-!
# JSON codecs

How numbers, texts, lists, options and choices are written and read, and how
records are laid out.  A record is written as an object.  It may also be read
from an array of its fields in order.  Names that a record does not have are
skipped; a name that it has must not occur twice.
-/

namespace Provisioning.Json

/-- Numbers from zero up to below a bound. -/
def natCodec (bound : Nat) : Codec Json Nat where
  write n := ofNat n
  read?
    | num (.whole value) => if 0 ≤ value ∧ value.toNat < bound then some value.toNat else none
    | _ => none

/-- Numbers of 64 bits. -/
def word : Codec Json Nat := natCodec Text.wordBound

/-- Numbers of 32 bits. -/
def half : Codec Json Nat := natCodec Text.halfBound

/-- Finite numbers; there is no text for any other, and `null` stands for it. -/
def float : Codec Json Float where
  write x := if x.isFinite then num (.real x) else null
  read?
    | num (.real value) => some value
    | num (.whole value) => some (Float.ofInt value)
    | _ => none

/-- Truth values. -/
def truth : Codec Json Bool where
  write b := bool b
  read?
    | bool value => some value
    | _ => none

/-- Texts. -/
def text : Codec Json String where
  write s := str s
  read?
    | str value => some value
    | _ => none

/-- Values of a type that wraps another. -/
def wrapped {α β : Type} (codec : Codec Json α) (wrap : α → β) (unwrap : β → α) : Codec Json β where
  write b := codec.write (unwrap b)
  read? tree := (codec.read? tree).map wrap

/-- Reads every item of a list. -/
def readAll? {α : Type} (codec : Codec Json α) : List Json → Option (List α)
  | [] => some []
  | item :: rest =>
    match codec.read? item, readAll? codec rest with
    | some a, some as => some (a :: as)
    | _, _ => none

/-- Lists. -/
def list {α : Type} (codec : Codec Json α) : Codec Json (List α) where
  write as := arr (as.map codec.write)
  read?
    | arr items => readAll? codec items
    | _ => none

/-- Values that may be missing; `null` stands for a missing one. -/
def nullable {α : Type} (codec : Codec Json α) : Codec Json (Option α) where
  write
    | some a => codec.write a
    | none => null
  read?
    | null => some none
    | tree => (codec.read? tree).map some

/-- One of a few names, as a text or as the only member of an object with no
value. -/
def choice {α : Type} (all : List α) (name : α → String) : Codec Json α where
  write a := str (name a)
  read?
    | str s => all.find? (name · == s)
    | obj [(s, null)] => all.find? (name · == s.text)
    | _ => none

/-- How often a name occurs among the members. -/
def occurrences (name : String) (members : List (Name × Json)) : Nat :=
  (members.filter (·.1.text == name)).length

/-- Objects, or arrays that are not longer than the record. -/
def format : Format Json where
  object := object
  slots? names
    | obj members =>
      if names.any fun name => 1 < occurrences name members then none
      else some (names.map fun name =>
        match named? name members with
        | some value => .given value
        | none => .unnamed)
    | arr items =>
      if names.length < items.length then none
      else some (items.map .given ++ List.replicate (names.length - items.length) .beyond)
    | _ => none

/-- A field that may be `null`, or missing from an object. -/
def optional {α : Type} (codec : Codec Json α) : Field Json (Option α) where
  write a := some ((nullable codec).write a)
  read?
    | .given value => (nullable codec).read? value
    | .unnamed => some none
    | .beyond => none

/-- Tables, as objects whose names are the keys.  Of two members of one name the
later counts. -/
def table {κ ν : Type} [DecidableEq κ] (writeKey : κ → String) (readKey? : Name → Option κ)
    (codec : Codec Json ν) : Codec Json (List (κ × ν)) where
  write entries := object (entries.map fun (key, value) => (writeKey key, codec.write value))
  read?
    | obj members =>
      members.foldlM (fun entries (name, tree) =>
        match readKey? name, codec.read? tree with
        | some key, some value => some (entries.filter (·.1 ≠ key) ++ [(key, value)])
        | _, _ => none) []
    | _ => none

end Provisioning.Json
