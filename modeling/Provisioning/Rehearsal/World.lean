import Provisioning.Catalog.Cache
import Provisioning.Provisioner
import Provisioning.Rehearsal.Thread

/-!
# The world of a rehearsal

Beside the scene, activities share a tracker of transactions and two catalog
caches: the provisioner's own and one that is used by itself.  The tracker may
be replaced; a look that began with the one before is recorded there.  A refresh
of a cache is a thread, and whoever waits for it drives it.
-/

namespace Provisioning

/-- Whose cache it is. -/
inductive CacheOwner where
  | provisioner
  | caller
deriving DecidableEq, Repr

/-- A catalog cache whose refreshes are threads. -/
abbrev ThreadCache := CatalogCache (Thread RefreshOutcome)

/-- All that the activities of a rehearsal share. -/
structure World where
  provisioner : Provisioner
  scene : Scene
  trackers : Succession Tracker := { present := {} }
  ownCache : ThreadCache := {}
  loneCache : ThreadCache := {}

namespace World

/-- The cache of an owner. -/
def cache (world : World) : CacheOwner → ThreadCache
  | .provisioner => world.ownCache
  | .caller => world.loneCache

/-- The world with a cache replaced. -/
def setCache (world : World) (owner : CacheOwner) (cache : ThreadCache) : World :=
  match owner with
  | .provisioner => { world with ownCache := cache }
  | .caller => { world with loneCache := cache }

/-- The present tracker. -/
def tracker (world : World) : Tracker :=
  world.trackers.present

/-- Changes the simulated vendor. -/
def mapSimulator (world : World) (f : Simulator → Simulator) : World :=
  { world with scene := { world.scene with simulators := world.scene.simulators.change f } }

/-- Replaces the simulated vendor. -/
def replaceSimulator (world : World) (simulator : Simulator) : World :=
  { world with
    scene := { world.scene with simulators := world.scene.simulators.replace simulator } }

/-- Replaces the tracker by a fresh one. -/
def replaceTracker (world : World) : World :=
  { world with trackers := world.trackers.replace {} }

/-- The tracker of a number looks at a feed, and what it reports is added to the
scene. -/
def observe (world : World) (tracker : Nat) (look : Tracker → Tracker × Bool × List Notice) :
    World × Bool :=
  let (seen, holds, notices) := look (world.trackers.get tracker)
  ({ world with
    trackers := world.trackers.set tracker seen
    scene := notices.foldl Scene.report world.scene }, holds)

/-- The refresh that a caller starts when none is under way, as a thread that
can run at once. -/
def freshRefresh (world : World) : Thread RefreshOutcome :=
  let config := world.provisioner.config
  .asleep world.scene.now (refreshCatalog config.packageName config.polling.catalogRetry)

/-- Forgets the package that a cache keeps. -/
def invalidateCache (world : World) (owner : CacheOwner) : World :=
  world.setCache owner (world.cache owner).invalidate

/-- A caller comes to a cache. -/
def enterCache (world : World) (owner : CacheOwner) : World × CatalogEntry :=
  let (cache, entry) := (world.cache owner).enter world.provisioner.config.catalogTtlMs
    world.scene.now world.freshRefresh
  (world.setCache owner cache, entry)

/-- Drives the refresh of a generation as far as it goes at this time. -/
def driveRefresh (world : World) (owner : CacheOwner) (generation : Nat) : World :=
  match (world.cache owner).inFlight with
  | none => world
  | some (current, thread) =>
    if current = generation then
      let (thread, scene) := thread.resume world.scene
      let cache := (world.cache owner).advance thread
      let world := { world with scene := scene }
      match thread with
      | .finished outcome => world.setCache owner (cache.complete outcome)
      | _ => world.setCache owner cache
    else world

/-- When the refresh of a cache can go on. -/
def refreshWakeAt? (world : World) (owner : CacheOwner) : Option Nat :=
  (world.cache owner).inFlight.bind (·.2.wakeAt?)

/-- A caller who waits for the refresh of a generation drives it, and leaves
with its outcome if there is one by now. -/
def awaitRefresh (world : World) (owner : CacheOwner) (generation : Nat) :
    World × Option RefreshOutcome :=
  let world := world.driveRefresh owner generation
  match (world.cache owner).outcomes.find? generation with
  | some outcome =>
    (world.setCache owner ((world.cache owner).leave generation outcome world.scene.now),
      some outcome)
  | none => (world, none)

end World

end Provisioning
