/-!
# JSON values

A value as a text holds it: the members of an object stay in order, a name may
occur twice, and it is known whether a name was spelled with escapes.  Whole
numbers of 64 bits are kept apart from all others.
-/

namespace Provisioning

/-- The name of a member.  `escaped` says that its spelling has escapes in it. -/
structure Json.Name where
  text : String
  escaped : Bool := false
deriving DecidableEq, Repr

/-- A number: a whole one of at most 64 bits written as such, or any other. -/
inductive Json.Number where
  | whole (value : Int)
  | real (value : Float)

/-- A JSON value.  `unreadable` stands for a value that is well formed but has no
meaning: a text with half of a surrogate pair, or a number out of range.  It
may stand where a reader skips it. -/
inductive Json where
  | null
  | bool (value : Bool)
  | num (value : Json.Number)
  | str (value : String)
  | arr (items : List Json)
  | obj (members : List (Json.Name × Json))
  | unreadable

namespace Json

instance : Inhabited Json := ⟨null⟩

/-- A whole number as a value. -/
def ofNat (n : Nat) : Json :=
  num (.whole n)

/-- An object with names that are spelled without escapes. -/
def object (members : List (String × Json)) : Json :=
  obj (members.map fun (name, value) => (⟨name, false⟩, value))

/-- The first value of this name among members. -/
def named? (name : String) (members : List (Name × Json)) : Option Json :=
  (members.find? (·.1.text == name)).map (·.2)

/-- The first member of this name. -/
def member? (name : String) : Json → Option Json
  | obj members => named? name members
  | _ => none

end Json

end Provisioning
