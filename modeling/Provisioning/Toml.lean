/-!
# TOML values

A document is a table.  Arrays of tables are arrays whose items are tables.  Of
a date or time only its text is kept.
-/

namespace Provisioning

/-- A TOML value. -/
inductive Toml where
  | str (value : String)
  | int (value : Int)
  | float (value : Float)
  | bool (value : Bool)
  | date (text : String)
  | arr (items : List Toml)
  | table (entries : List (String × Toml))

instance : Inhabited Toml := ⟨.table []⟩

namespace Toml

/-- The characters of a key without quotes. -/
def isBareKeyChar (c : Char) : Bool :=
  c.isAlphanum || c == '-' || c == '_'

/-- The least whole number. -/
def minInt : Int := -0x8000000000000000

/-- The greatest whole number. -/
def maxInt : Int := 0x7fffffffffffffff

end Toml

end Provisioning
