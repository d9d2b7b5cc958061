import Provisioning.Vendor.Simulator
import Provisioning.Workflow

/-!
# Running a workflow alone

A vendor is anything that answers calls: it has a state, and it may take time.
`Workflow.run` runs a workflow against it under a clock that only pauses and
slow answers move, and records every call with its answer and every report.
-/

namespace Provisioning

/-- A vendor with states `σ`.  Given a state, the time and a call it gives the
next state, how long the answer takes in milliseconds, and the answer. -/
structure Vendor (σ : Type) where
  respond : σ → Nat → (call : Call) → σ × Nat × call.Answer

/-- Something that happens in a run, with the time at which it begins. -/
inductive Event where
  | asked (time : Nat) (call : Call) (answer : call.Answer)
  | noticed (time : Nat) (notice : Notice)

/-- A run so far: the vendor, the time and the events, newest first. -/
structure Run (σ : Type) where
  vendor : σ
  now : Nat := 0
  events : List Event := []

/-- The events of a run in the order in which they began. -/
def Run.history {σ : Type} (run : Run σ) : List Event :=
  run.events.reverse

/-- The report that an event is, if it is one. -/
def Event.notice? : Event → Option Notice
  | asked _ _ _ => none
  | noticed _ notice => some notice

/-- The reports of a run in order. -/
def Run.notices {σ : Type} (run : Run σ) : List Notice :=
  run.history.filterMap Event.notice?

/-- Runs a workflow to its end. -/
def Workflow.run {σ α : Type} (v : Vendor σ) : Workflow α → Run σ → α × Run σ
  | .done result, run => (result, run)
  | .ask call next, run =>
    let (vendor, duration, answer) := v.respond run.vendor run.now call
    (next answer).run v ⟨vendor, run.now + duration, .asked run.now call answer :: run.events⟩
  | .pause ms next, run => next.run v { run with now := run.now + ms }
  | .clock next, run => (next run.now).run v run
  | .report notice next, run =>
    next.run v { run with events := .noticed run.now notice :: run.events }

section

variable {α β σ : Type}

/-- What follows runs from where the workflow has come to. -/
theorem Workflow.run_bind (v : Vendor σ) (w : Workflow α) (f : α → Workflow β) (run : Run σ) :
    (w.bind f).run v run = (f (w.run v run).1).run v (w.run v run).2 := by
  induction w generalizing run with
  | done result => rfl
  | ask call next ih => exact ih _ _
  | pause ms next ih => exact ih _
  | clock next ih => exact ih _ _
  | report notice next ih => exact ih _

/-- A procedure goes on from a success, and a failure ends it. -/
theorem Procedure.run_bind (v : Vendor σ) (p : Procedure α) (f : α → Procedure β) (run : Run σ) :
    (p >>= f).run.run v run =
      match p.run.run v run with
      | (.ok a, after) => (f a).run.run v after
      | (.error cause, after) => (.error cause, after) := by
  show (Workflow.bind p.run _).run v run = _
  rw [Workflow.run_bind]
  rcases p.run.run v run with ⟨cause | a, after⟩
  · rfl
  · rfl

theorem Procedure.run_map (v : Vendor σ) (f : α → β) (p : Procedure α) (run : Run σ) :
    (f <$> p).run.run v run = ((p.run.run v run).1.map f, (p.run.run v run).2) := by
  show (Workflow.bind p.run _).run v run = _
  rw [Workflow.run_bind]
  rcases p.run.run v run with ⟨cause | a, after⟩
  · rfl
  · rfl

/-- A workflow that cannot fail, as a part of a procedure. -/
theorem Procedure.run_liftM (v : Vendor σ) (w : Workflow α) (run : Run σ) :
    (liftM w : Procedure α).run.run v run = (.ok (w.run v run).1, (w.run v run).2) := by
  show (Workflow.bind w _).run v run = _
  rw [Workflow.run_bind]
  rfl

/-- A handler takes over where a procedure failed. -/
theorem Procedure.run_tryCatch (v : Vendor σ) (p : Procedure α) (handler : Error → Procedure α)
    (run : Run σ) :
    (tryCatch p handler).run.run v run =
      match p.run.run v run with
      | (.ok a, after) => (.ok a, after)
      | (.error cause, after) => (handler cause).run.run v after := by
  show (Workflow.bind p.run _).run v run = _
  rw [Workflow.run_bind]
  rcases p.run.run v run with ⟨cause | a, after⟩
  · rfl
  · rfl

/-- The vendor answers a call, and the answer is recorded. -/
theorem run_request {v : Vendor σ} {run : Run σ} {call : Call} {vendor : σ} {delay : Nat}
    {answer : call.Answer}
    (answers : v.respond run.vendor run.now call = (vendor, delay, answer)) :
    (request call).run.run v run =
      (answer, ⟨vendor, run.now + delay, .asked run.now call answer :: run.events⟩) := by
  simp only [request, ExceptT.run, ExceptT.mk, Workflow.run, answers]

/-- The clock of a run never goes back. -/
theorem Workflow.now_le_run (v : Vendor σ) (w : Workflow α) (run : Run σ) :
    run.now ≤ (w.run v run).2.now := by
  induction w generalizing run with
  | done result => exact Nat.le_refl _
  | ask call next ih =>
    let reply := v.respond run.vendor run.now call
    have later := ih reply.2.2
      ⟨reply.1, run.now + reply.2.1, .asked run.now call reply.2.2 :: run.events⟩
    exact Nat.le_trans (Nat.le_add_right _ _) later
  | pause ms next ih =>
    have later := ih { run with now := run.now + ms }
    exact Nat.le_trans (Nat.le_add_right _ _) later
  | clock next ih => exact ih _ _
  | report notice next ih => exact ih { run with events := .noticed run.now notice :: run.events }

end

/-- The simulator as a vendor: only its catalog takes time. -/
def Simulator.asVendor : Vendor Simulator where
  respond s _ call :=
    let (s, admission) := s.arrive call
    let (s, answer) := s.serve admission call
    (s, admission.latencyMs, answer)

end Provisioning
