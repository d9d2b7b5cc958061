import Provisioning.Catalog.Cache
import Provisioning.Provisioner
import Provisioning.Vendor.Saved
import Provisioning.Workflow.Run

/-!
# Sessions

A session is a provisioner over a simulated vendor that does one job after the
other.  It opens with the vendor of a saved state and closes with the text of
the state to save.
-/

namespace Provisioning

/-- A provisioner, the run of its vendor so far and its catalog cache. -/
structure Session where
  provisioner : Provisioner
  run : Run Simulator
  cache : CatalogCache Unit := {}

namespace Session

variable {α : Type}

/-- A session of a configuration over a vendor. -/
def new (config : Config) (simulator : Simulator) : Except Error Session := do
  let provisioner ← Provisioner.new config
  return { provisioner := provisioner, run := { vendor := simulator } }

/-- The vendor as it is now. -/
def simulator (s : Session) : Simulator :=
  s.run.vendor

/-- The text of the state to save. -/
def close (s : Session) : String :=
  s.simulator.save

/-- Runs a workflow to its end. -/
def runWorkflow (workflow : Workflow α) (s : Session) : α × Session :=
  let (result, run) := workflow.run Simulator.asVendor s.run
  (result, { s with run := run })

/-- The catalog: the kept package, or the outcome of a refresh. -/
def catalog (s : Session) : RefreshOutcome × Session :=
  let config := s.provisioner.config
  match s.cache.enter config.catalogTtlMs s.run.now () with
  | (cache, .hit package) => (.ok package, { s with cache := cache })
  | (cache, .wait generation) =>
    let refresh := refreshCatalog config.packageName config.polling.catalogRetry
    let (outcome, s) := { s with cache := cache }.runWorkflow refresh
    let cache := (s.cache.complete outcome).leave generation outcome s.run.now
    (outcome, { s with cache := cache })

/-- Does a job. -/
def perform (job : Job α) (s : Session) : α × Session :=
  match job with
  | .plain workflow => s.runWorkflow workflow
  | .withCatalog workflow =>
    let (outcome, s) := s.catalog
    s.runWorkflow (workflow outcome)

end Session

end Provisioning
