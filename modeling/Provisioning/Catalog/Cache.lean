import Provisioning.Lookup
import Provisioning.Workflow.Refresh

/-!
# The shared catalog

Fetching a package takes long and it rarely changes, so it is kept for a while,
and callers who find a refresh running wait for it instead of starting their
own.  Refreshes are numbered by generation.  A caller either gets the kept
package or is told the generation to wait for; when that refresh has an
outcome, the caller leaves, and the first one to leave keeps the package.  A
caller of an older generation changes nothing when it leaves.

`ρ` is the type of a refresh that is under way.
-/

namespace Provisioning

/-- The kept package with the time it was kept at, the refresh under way with
its generation, the number of refreshes so far and their outcomes. -/
structure CatalogCache (ρ : Type) where
  kept : Option (ProductPackage × Nat) := none
  inFlight : Option (Nat × ρ) := none
  generation : Nat := 0
  outcomes : Lookup Nat RefreshOutcome := []

/-- What a caller is told: the kept package, or the generation to wait for. -/
inductive CatalogEntry where
  | hit (package : ProductPackage)
  | wait (generation : Nat)

namespace CatalogCache

variable {ρ : Type}

/-- The kept package, if it was kept less than `ttlMs` ago. -/
def fresh? (cache : CatalogCache ρ) (ttlMs now : Nat) : Option ProductPackage :=
  match cache.kept with
  | some (package, keptAt) => if now - keptAt < ttlMs then some package else none
  | none => none

/-- A caller begins: it gets the kept package, joins the refresh under way, or
starts the refresh `start`. -/
def enter (cache : CatalogCache ρ) (ttlMs now : Nat) (start : ρ) : CatalogCache ρ × CatalogEntry :=
  match cache.fresh? ttlMs now with
  | some package => (cache, .hit package)
  | none =>
    match cache.inFlight with
    | some (generation, _) => (cache, .wait generation)
    | none =>
      let generation := cache.generation + 1
      ({ cache with generation := generation, inFlight := some (generation, start) },
        .wait generation)

/-- The refresh under way has come further. -/
def advance (cache : CatalogCache ρ) (progress : ρ) : CatalogCache ρ :=
  { cache with inFlight := cache.inFlight.map fun entry => (entry.1, progress) }

/-- The refresh under way has ended. -/
def complete (cache : CatalogCache ρ) (outcome : RefreshOutcome) : CatalogCache ρ :=
  match cache.inFlight with
  | some (generation, _) => { cache with outcomes := cache.outcomes.put generation outcome }
  | none => cache

/-- A caller of this generation leaves with the outcome of its refresh.  The
first one to leave ends the flight and keeps the package. -/
def leave (cache : CatalogCache ρ) (generation : Nat) (outcome : RefreshOutcome) (now : Nat) :
    CatalogCache ρ :=
  match cache.inFlight with
  | some (current, _) =>
    if current = generation then
      match outcome with
      | .ok package => { cache with inFlight := none, kept := some (package, now) }
      | .error _ => { cache with inFlight := none }
    else cache
  | none => cache

/-- Forgets the kept package. -/
def invalidate (cache : CatalogCache ρ) : CatalogCache ρ :=
  { cache with kept := none }

end CatalogCache

end Provisioning
