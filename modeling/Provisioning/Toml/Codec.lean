import Provisioning.Codec
import Provisioning.Text.Numeral
import Provisioning.Toml

/-!
# TOML codecs

How numbers, texts, lists and choices are written and read, and how records are
laid out.  A record is written as a table.  It may also be read from an array
that begins with its fields in order, and a date is a record without any of
them.
-/

namespace Provisioning.Toml

/-- Numbers from zero up to below a bound. -/
def natCodec (bound : Nat) : Codec Toml Nat where
  write n := int n
  read?
    | int value => if 0 ≤ value ∧ value.toNat < bound then some value.toNat else none
    | _ => none

/-- Numbers of 64 bits. -/
def word : Codec Toml Nat := natCodec Text.wordBound

/-- Numbers of 32 bits. -/
def half : Codec Toml Nat := natCodec Text.halfBound

/-- Texts. -/
def string : Codec Toml String where
  write s := str s
  read?
    | str value => some value
    | _ => none

/-- Reads every item of a list. -/
def readAll? {α : Type} (codec : Codec Toml α) : List Toml → Option (List α)
  | [] => some []
  | item :: rest =>
    match codec.read? item, readAll? codec rest with
    | some a, some as => some (a :: as)
    | _, _ => none

/-- Lists. -/
def list {α : Type} (codec : Codec Toml α) : Codec Toml (List α) where
  write as := arr (as.map codec.write)
  read?
    | arr items => readAll? codec items
    | _ => none

/-- One of a few names, as a text or as the only key of a table with nothing
under it. -/
def choice {α : Type} (all : List α) (name : α → String) : Codec Toml α where
  write a := str (name a)
  read?
    | str s => all.find? (name · == s)
    | table [(s, table [])] => all.find? (name · == s)
    | table [(s, arr [])] => all.find? (name · == s)
    | _ => none

/-- Tables, arrays and dates. -/
def format : Format Toml where
  object entries := table entries
  slots? names
    | table entries =>
      some (names.map fun name =>
        match entries.lookup name with
        | some value => .given value
        | none => .unnamed)
    | arr items =>
      some ((items.take names.length).map .given ++
        List.replicate (names.length - items.length) .beyond)
    | date _ => some (names.map fun _ => .unnamed)
    | _ => none

end Provisioning.Toml
