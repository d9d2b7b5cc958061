/-!
# Successions

A thing that is replaced now and then while others hold on to it: whoever began
with an earlier one stays with that one.  The members of a succession are
numbered in the order in which they came; `number` is the number of the present
one.
-/

namespace Provisioning

/-- The things that were replaced, oldest first, and the present one. -/
structure Succession (α : Type) where
  former : List α := []
  present : α

namespace Succession

variable {α : Type}

/-- The number of the present one. -/
def number (s : Succession α) : Nat :=
  s.former.length

/-- The one of a number. -/
def get (s : Succession α) (number : Nat) : α :=
  s.former[number]?.getD s.present

/-- Puts another in the place of the one of a number. -/
def set (s : Succession α) (number : Nat) (a : α) : Succession α :=
  if number < s.number then { s with former := s.former.set number a }
  else { s with present := a }

/-- Replaces the present one. -/
def replace (s : Succession α) (a : α) : Succession α :=
  ⟨s.former ++ [s.present], a⟩

/-- Changes the present one. -/
def change (s : Succession α) (f : α → α) : Succession α :=
  { s with present := f s.present }

@[simp] theorem get_number (s : Succession α) : s.get s.number = s.present := by
  simp [get, number]

@[simp] theorem set_number (s : Succession α) (a : α) :
    s.set s.number a = { s with present := a } := by
  simp [set]

theorem get_set_self (s : Succession α) (number : Nat) (a : α) :
    (s.set number a).get number = a := by
  by_cases h : number < s.former.length <;> simp [set, get, Succession.number, h]

/-- Replacing keeps what was there under its number. -/
theorem get_replace (s : Succession α) (a : α) : (s.replace a).get s.number = s.present := by
  simp [replace, get, number]

end Succession

end Provisioning
