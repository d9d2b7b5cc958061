import Provisioning.Notice
import Provisioning.Rehearsal.Succession
import Provisioning.Vendor.Simulator

/-!
# The scene of a rehearsal

A rehearsal runs workflows against the simulated vendor under a clock that only
waiting moves.  The scene is what all of them see: the time, the vendor, and
the calls and reports so far.  The vendor may be replaced; a call that has come
to the one before is answered by that one.  Answers can be put in the vendor's
way beforehand: the next call of an operation then meets an `Injection`, which
may delay it and may answer it in the vendor's stead.

`Scene.receive` takes a call in and `Scene.proceed` goes on with one whose wait
is over.  Both end in a `Reception`: an answer, or another wait.
-/

namespace Provisioning

/-- What a call of an operation meets on its way to the vendor: a delay, and
perhaps an answer in the vendor's stead. -/
structure Injection (operation : Operation) where
  delayMs : Nat := 0
  answer? : Option (Except Error operation.Reply) := none

/-- Injections for operations of any kind, in the order in which they are met. -/
abbrev Injections := List ((operation : Operation) × Injection operation)

/-- The first injection for an operation, and the others. -/
def Injections.take? (operation : Operation) : Injections → Option (Injection operation × Injections)
  | [] => none
  | ⟨other, injection⟩ :: rest =>
    if same : other = operation then some (same ▸ injection, rest)
    else (take? operation rest).map fun (found, rest) => (found, ⟨other, injection⟩ :: rest)

/-- What a call waits for: the end of an injection, or the answer of the vendor
of a number. -/
inductive Wait (call : Call) where
  | injected (answer? : Option call.Answer)
  | served (vendor : Nat) (admission : Admission)

/-- How far a call has come: to its answer, or to a wait of some time. -/
inductive Reception (call : Call) where
  | answered (answer : call.Answer)
  | waiting (ms : Nat) (wait : Wait call)

/-- What every activity of a rehearsal sees.  Calls and notices are newest
first. -/
structure Scene where
  simulators : Succession Simulator
  now : Nat := 0
  injections : Injections := []
  calls : List (Nat × Call) := []
  notices : List Notice := []

namespace Scene

/-- The present vendor. -/
def simulator (scene : Scene) : Simulator :=
  scene.simulators.present

/-- The scene with one more report. -/
def report (scene : Scene) (notice : Notice) : Scene :=
  { scene with notices := notice :: scene.notices }

/-- A call whose wait for a vendor is over is answered by it. -/
def serve (scene : Scene) (call : Call) (vendor : Nat) (admission : Admission) :
    Scene × call.Answer :=
  let (simulator, answer) := (scene.simulators.get vendor).serve admission call
  ({ scene with simulators := scene.simulators.set vendor simulator }, answer)

/-- A call comes to the present vendor. -/
def deliver (scene : Scene) (call : Call) : Scene × Reception call :=
  let vendor := scene.simulators.number
  let (simulator, admission) := scene.simulator.arrive call
  let scene := { scene with simulators := scene.simulators.set vendor simulator }
  if admission.latencyMs = 0 then
    let (scene, answer) := scene.serve call vendor admission
    (scene, .answered answer)
  else (scene, .waiting admission.latencyMs (.served vendor admission))

/-- A call that has met an injection goes on after its delay. -/
def pass (scene : Scene) (call : Call) : Option call.Answer → Scene × Reception call
  | some answer => (scene, .answered answer)
  | none => scene.deliver call

/-- A call is taken in. -/
def receive (scene : Scene) (call : Call) : Scene × Reception call :=
  let scene := { scene with calls := (scene.now, call) :: scene.calls }
  match scene.injections.take? call.operation with
  | none => scene.deliver call
  | some (injection, rest) =>
    let scene := { scene with injections := rest }
    if injection.delayMs = 0 then scene.pass call injection.answer?
    else (scene, .waiting injection.delayMs (.injected injection.answer?))

/-- A call whose wait is over goes on. -/
def proceed (scene : Scene) (call : Call) : Wait call → Scene × Reception call
  | .injected answer? => scene.pass call answer?
  | .served vendor admission =>
    let (scene, answer) := scene.serve call vendor admission
    (scene, .answered answer)

end Scene

end Provisioning
