import Provisioning.Notice
import Provisioning.Vendor.Call

/-!
# Workflows

A workflow is a finite tree of the things it does: it asks the vendor, pauses,
looks at the clock, reports, and at a leaf it is done.  What the vendor answers
and what the clock shows choose the branch.  A tree fixes neither the vendor
nor the clock, so a statement about it holds for all of them, and since it is
finite every run of it ends.

`Procedure` is a workflow that may fail; the first failure ends it.
-/

namespace Provisioning

/-- A finite tree of actions with a result at every leaf. -/
inductive Workflow (α : Type) : Type where
  | done (result : α)
  | ask (call : Call) (next : call.Answer → Workflow α)
  | pause (ms : Nat) (next : Workflow α)
  | clock (next : Nat → Workflow α)
  | report (notice : Notice) (next : Workflow α)

namespace Workflow

variable {α β : Type}

/-- The workflow followed by another that depends on its result. -/
def bind : Workflow α → (α → Workflow β) → Workflow β
  | done result, f => f result
  | ask call next, f => ask call fun answer => (next answer).bind f
  | pause ms next, f => pause ms (next.bind f)
  | clock next, f => clock fun now => (next now).bind f
  | report notice next, f => report notice (next.bind f)

instance : Monad Workflow where
  pure := done
  bind := bind

@[simp] theorem bind_done (w : Workflow α) : w.bind done = w := by
  induction w with
  | done => rfl
  | ask call next ih => simp [bind, ih]
  | pause ms next ih => simp [bind, ih]
  | clock next ih => simp [bind, ih]
  | report notice next ih => simp [bind, ih]

theorem bind_assoc {γ : Type} (w : Workflow α) (f : α → Workflow β) (g : β → Workflow γ) :
    (w.bind f).bind g = w.bind fun a => (f a).bind g := by
  induction w with
  | done => rfl
  | ask call next ih => simp [bind, ih]
  | pause ms next ih => simp [bind, ih]
  | clock next ih => simp [bind, ih]
  | report notice next ih => simp [bind, ih]

/-- A pause. -/
def rest (ms : Nat) : Workflow Unit :=
  pause ms (done ())

/-- The time on the clock, in milliseconds. -/
def now : Workflow Nat :=
  clock done

/-- A report. -/
def notify (notice : Notice) : Workflow Unit :=
  report notice (done ())

/-- Reports in order. -/
def notifyAll (notices : List Notice) : Workflow Unit :=
  notices.foldr (fun notice rest => report notice rest) (done ())

end Workflow

/-- A workflow that may fail. -/
abbrev Procedure (α : Type) := ExceptT Error Workflow α

/-- A call to the vendor; its failure ends the procedure. -/
def request (call : Call) : Procedure call.Reply :=
  ExceptT.mk (.ask call .done)

end Provisioning
