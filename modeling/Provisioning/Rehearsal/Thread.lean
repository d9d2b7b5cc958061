import Provisioning.Rehearsal.Scene
import Provisioning.Workflow

/-!
# Workflows in progress

A thread is a workflow at a moment of a rehearsal: finished, asleep until some
time, or in the middle of a call.  `Thread.start` runs a workflow until it
waits, and `Thread.resume` goes on once its time has come.
-/

namespace Provisioning

/-- A workflow at a moment of a rehearsal. -/
inductive Thread (α : Type) where
  | finished (result : α)
  | asleep (wakeAt : Nat) (next : Workflow α)
  | calling (wakeAt : Nat) (call : Call) (wait : Wait call) (next : call.Answer → Workflow α)

namespace Thread

variable {α : Type}

/-- Runs a workflow until it has to wait or is finished.  A pause of no time is
none. -/
def start : Workflow α → Scene → Thread α × Scene
  | .done result, scene => (.finished result, scene)
  | .pause ms next, scene =>
    if ms = 0 then start next scene else (.asleep (scene.now + ms) next, scene)
  | .clock next, scene => start (next scene.now) scene
  | .report notice next, scene => start next (scene.report notice)
  | .ask call next, scene =>
    match scene.receive call with
    | (scene, .answered answer) => start (next answer) scene
    | (scene, .waiting ms wait) => (.calling (scene.now + ms) call wait next, scene)

/-- When a thread that waits can go on. -/
def wakeAt? : Thread α → Option Nat
  | finished _ => none
  | asleep wakeAt _ => some wakeAt
  | calling wakeAt _ _ _ => some wakeAt

/-- Runs a thread whose time has come until it waits again. -/
def resume (thread : Thread α) (scene : Scene) : Thread α × Scene :=
  match thread with
  | finished result => (.finished result, scene)
  | asleep wakeAt next =>
    if wakeAt ≤ scene.now then start next scene else (.asleep wakeAt next, scene)
  | calling wakeAt call wait next =>
    if wakeAt ≤ scene.now then
      match scene.proceed call wait with
      | (scene, .answered answer) => start (next answer) scene
      | (scene, .waiting ms wait) => (.calling (scene.now + ms) call wait next, scene)
    else (.calling wakeAt call wait next, scene)

end Thread

end Provisioning
