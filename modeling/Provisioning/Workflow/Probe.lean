import Provisioning.Transaction.Tracker
import Provisioning.Workflow.Polling

/-!
# Probes

One question about one resource, asked of the vendor.  The stages of a
workflow ask it again until it holds: `awaitStage` turns a probe and a policy
into a stage that ends in success or in the timeout of that very stage.
-/

namespace Provisioning

/-- Whether any transaction has started on the resource. -/
def transactionsStarted (id : ResourceId) (tracker : Tracker) : Procedure (Tracker × Bool) := do
  let active ← request (.activeTransaction id)
  let (tracker, holds, notices) := tracker.started id active
  Workflow.notifyAll notices
  return (tracker, holds)

/-- Whether the cycle of transactions of the resource is over. -/
def transactionsEnded (id : ResourceId) (tracker : Tracker) : Procedure (Tracker × Bool) := do
  let active ← request (.activeTransaction id)
  let (tracker, holds, notices) := tracker.ended id active
  Workflow.notifyAll notices
  return (tracker, holds)

/-- Whether a fresh snapshot of the resource has its login details. -/
def loginDetailsPresent (id : ResourceId) : Procedure Bool := do
  let resource ← request (.getResource id)
  return resource.any (·.hasLoginDetails)

/-- A stage: the probe is asked until it holds, within the bounds of the stage.
The tracker is handed from one attempt to the next, and on to the next stage. -/
def awaitStage (polling : PollingConfig) (stage : Stage) (label : String)
    (tracker : Tracker) (probe : Tracker → Procedure (Tracker × Bool)) : Procedure Tracker := do
  let (tracker, holds) ← awaitCondition (polling.policy stage) tracker probe
  if holds then return tracker
  else throw (.stageTimeout stage label (polling.policy stage).maxWaitMs)

/-- The wait for a cycle of transactions to start and to end. -/
def awaitCycle (polling : PollingConfig) (label : String) (id : ResourceId) : Procedure Unit := do
  let tracker ← awaitStage polling .transactionsStarted label {} (transactionsStarted id)
  let _ ← awaitStage polling .transactionsEnded label tracker (transactionsEnded id)

end Provisioning
