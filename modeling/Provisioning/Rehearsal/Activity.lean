import Provisioning.Rehearsal.World

/-!
# Activities

A scenario is a tree: single actions, scenarios that run together and scenarios
that run in turn.  An activity is a scenario in progress.  `Scenario.begin`
takes one as far as it goes at the present time, and `Activity.resume` does so
again at a later time; parts that run together take their turns in list order.
-/

namespace Provisioning

/-- What an action does: a job, which may depend on the world in which the action
begins, and what its result does to the world in which the job ends. -/
structure Action (α : Type) where
  owner : CacheOwner := .provisioner
  job : World → Job (World → World × α)

namespace Action

variable {α β : Type}

/-- An action that only changes the world. -/
def change (f : World → World × α) : Action α :=
  { job := fun _ => .plain (.done f) }

/-- A job whose result changes the world no further. -/
def ofJob (job : Job α) (owner : CacheOwner := .provisioner) : Action α :=
  { owner := owner, job := fun _ => job.map fun result world => (world, result) }

/-- The action with its result changed. -/
def map (f : α → β) (action : Action α) : Action β :=
  { owner := action.owner
    job := fun begun => (action.job begun).map fun change world => (change world).map id f }

end Action

/-- Actions, alone, together or in turn. -/
inductive Scenario (α : Type) where
  | single (action : Action α)
  | together (parts : List (Scenario α))
  | inTurn (parts : List (Scenario α))

/-- What has come of a scenario.  Each part of a composite one has the time at
which it ended. -/
inductive Report (α : Type) where
  | single (result : α)
  | parts (parts : List (Report α × Nat))

/-- A scenario in progress. -/
inductive Activity (α : Type) where
  | finished (report : Report α) (time : Nat)
  | running (thread : Thread (World → World × α))
  | waiting (owner : CacheOwner) (generation : Nat)
      (next : RefreshOutcome → Workflow (World → World × α))
  | together (parts : List (Activity α))
  | inTurn (past : List (Report α × Nat)) (current : Activity α) (rest : List (Scenario α))

variable {α : Type}

namespace Activity

/-- An activity whose thread may have come to its end. -/
def ofThread (thread : Thread (World → World × α)) (world : World) : Activity α × World :=
  match thread with
  | .finished change =>
    let (world, result) := change world
    (.finished (.single result) world.scene.now, world)
  | _ => (.running thread, world)

/-- An activity that begins with a workflow. -/
def ofWorkflow (workflow : Workflow (World → World × α)) (world : World) : Activity α × World :=
  let (thread, scene) := Thread.start workflow world.scene
  ofThread thread { world with scene := scene }

/-- An activity that waits for a refresh, unless that has ended. -/
def ofRefresh (owner : CacheOwner) (generation : Nat)
    (next : RefreshOutcome → Workflow (World → World × α)) (world : World) : Activity α × World :=
  match world.awaitRefresh owner generation with
  | (world, some outcome) => ofWorkflow (next outcome) world
  | (world, none) => (.waiting owner generation next, world)

/-- The reports of activities, if all of them are finished. -/
def reports? : List (Activity α) → Option (List (Report α × Nat))
  | [] => some []
  | .finished report time :: rest => (reports? rest).map ((report, time) :: ·)
  | _ => none

/-- Activities together; they are finished when each of them is. -/
def ofParts (parts : List (Activity α)) (world : World) : Activity α × World :=
  match reports? parts with
  | some reports => (.finished (.parts reports) world.scene.now, world)
  | none => (.together parts, world)

end Activity

/-- An action begins. -/
def Action.begin (action : Action α) (world : World) : Activity α × World :=
  match action.job world with
  | .plain workflow => Activity.ofWorkflow workflow world
  | .withCatalog workflow =>
    match world.enterCache action.owner with
    | (world, .hit package) => Activity.ofWorkflow (workflow (.ok package)) world
    | (world, .wait generation) => Activity.ofRefresh action.owner generation workflow world

namespace Scenario

mutual

/-- A scenario begins and goes as far as it can without waiting. -/
def begin : Scenario α → World → Activity α × World
  | .single action, world => action.begin world
  | .together parts, world =>
    let (activities, world) := beginAll parts world
    Activity.ofParts activities world
  | .inTurn parts, world => beginNext [] parts world

/-- Scenarios begin in list order. -/
def beginAll : List (Scenario α) → World → List (Activity α) × World
  | [], world => ([], world)
  | part :: rest, world =>
    let (activity, world) := part.begin world
    let (activities, world) := beginAll rest world
    (activity :: activities, world)

/-- Scenarios begin one after the other, each when the one before is finished. -/
def beginNext (past : List (Report α × Nat)) : List (Scenario α) → World → Activity α × World
  | [], world => (.finished (.parts past) world.scene.now, world)
  | part :: rest, world =>
    match part.begin world with
    | (.finished report time, world) => beginNext (past ++ [(report, time)]) rest world
    | (activity, world) => (.inTurn past activity rest, world)

end

end Scenario

namespace Activity

mutual

/-- An activity goes on as far as it can at this time. -/
def resume : Activity α → World → Activity α × World
  | .finished report time, world => (.finished report time, world)
  | .running thread, world =>
    let (thread, scene) := thread.resume world.scene
    ofThread thread { world with scene := scene }
  | .waiting owner generation next, world => ofRefresh owner generation next world
  | .together parts, world =>
    let (parts, world) := resumeAll parts world
    ofParts parts world
  | .inTurn past current rest, world =>
    match current.resume world with
    | (.finished report time, world) => Scenario.beginNext (past ++ [(report, time)]) rest world
    | (activity, world) => (.inTurn past activity rest, world)

/-- Activities go on in list order. -/
def resumeAll : List (Activity α) → World → List (Activity α) × World
  | [], world => ([], world)
  | activity :: rest, world =>
    let (activity, world) := activity.resume world
    let (activities, world) := resumeAll rest world
    (activity :: activities, world)

end

/-- The earlier of two times, where either may be missing. -/
def earlier : Option Nat → Option Nat → Option Nat
  | some a, some b => some (min a b)
  | some a, none => some a
  | none, b => b

mutual

/-- The first time at which some part of an activity can go on. -/
def wakeAt? (world : World) : Activity α → Option Nat
  | .finished _ _ => none
  | .running thread => thread.wakeAt?
  | .waiting owner _ _ => world.refreshWakeAt? owner
  | .together parts => firstWakeAt? world parts
  | .inTurn _ current _ => current.wakeAt? world

/-- The first time at which one of several activities can go on. -/
def firstWakeAt? (world : World) : List (Activity α) → Option Nat
  | [] => none
  | activity :: rest => earlier (activity.wakeAt? world) (firstWakeAt? world rest)

end

end Activity

end Provisioning
