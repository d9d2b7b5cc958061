import Provisioning.Workflow.Probe

/-!
# Destroying a node

The billing of the resource is cancelled, and the workflow waits for the cycle
of transactions that takes the resource away.  An unknown id is nothing to do.
-/

namespace Provisioning

/-- Cancels a resource and waits until it is gone. -/
def destroyNode (polling : PollingConfig) (id : ResourceId) : Procedure Unit := do
  match ← request (.getResource id) with
  | none => return ()
  | some resource =>
    match resource.billingItemId with
    | none => throw (.notBillable id)
    | some billingItemId =>
      if ← request (.cancelBillingItem billingItemId) then
        let label := resource.hostname ++ "(" ++ toString id ++ ")"
        awaitCycle polling label id
        Workflow.notify (.resourceDestroyed label)
      else throw (.vendor (.notCancelled billingItemId id))

end Provisioning
