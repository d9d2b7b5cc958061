import Provisioning.Rehearsal.Activity

/-!
# Playing scenarios

The clock jumps to the first time at which some part of an activity can go on,
until the activity is finished.  Every jump moves the clock on, so a rehearsal
that ends within `horizon` milliseconds ends within as many jumps.

`World.playAll` plays scenarios one after the other and keeps, for each, the
time at which it ended and the calls and reports that it added.
-/

namespace Provisioning

variable {α : Type}

namespace Activity

/-- Takes an activity to its end, with at most `jumps` jumps of the clock. -/
def finish : Nat → Activity α → World → Option (Report α × World)
  | _, .finished report _, world => some (report, world)
  | 0, _, _ => none
  | jumps + 1, activity, world =>
    match activity.wakeAt? world with
    | none => none
    | some wakeAt =>
      let world := { world with scene := { world.scene with now := wakeAt } }
      let (activity, world) := activity.resume world
      finish jumps activity world

end Activity

/-- One played scenario. -/
structure Played (α : Type) where
  report : Report α
  time : Nat
  calls : List (Nat × Call)
  notices : List Notice

namespace World

/-- The longest rehearsal, in milliseconds. -/
def horizon : Nat := Text.wordBound

/-- Plays one scenario.  There is no result if it does not end within the
horizon. -/
def play (world : World) (scenario : Scenario α) : Option (Played α × World) := do
  let fresh := { world with scene := { world.scene with calls := [], notices := [] } }
  let (activity, begun) := scenario.begin fresh
  let (report, ended) ← activity.finish horizon begun
  let scene := ended.scene
  return (⟨report, scene.now, scene.calls.reverse, scene.notices.reverse⟩, ended)

/-- Plays scenarios one after the other. -/
def playAll (world : World) : List (Scenario α) → Option (List (Played α) × World)
  | [] => some ([], world)
  | scenario :: rest => do
    let (played, world) ← world.play scenario
    let (others, world) ← world.playAll rest
    return (played :: others, world)

end World

end Provisioning
