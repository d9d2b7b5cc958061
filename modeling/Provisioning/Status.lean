import Provisioning.Identity
import Provisioning.Status.Key

/-!
# Statuses

Servers report an inventory status and guests a power state.  Both are read
into `CanonicalStatus`, the one vocabulary that nodes are described in.  The
reading is total: a key that is missing or unknown is `unrecognized`.
-/

namespace Provisioning

/-- The status of a node. -/
inductive CanonicalStatus where
  | pending
  | running
  | suspended
  | unrecognized
deriving DecidableEq, Repr

instance : ToString CanonicalStatus where
  toString
    | .pending => "pending"
    | .running => "running"
    | .suspended => "suspended"
    | .unrecognized => "unrecognized"

/-- The inventory status of a server. -/
inductive HardwareStatus where
  | active
  | deploy
  | deploy2
  | macWait
  | reclaim
  | unrecognized
deriving DecidableEq, Repr

namespace HardwareStatus

/-- The status that a vendor key names, in any of its spellings. -/
def ofKey (key : String) : HardwareStatus :=
  match normalizeKey key with
  | "ACTIVE" => .active
  | "DEPLOY" => .deploy
  | "DEPLOY2" => .deploy2
  | "MACWAIT" => .macWait
  | "MAC_WAIT" => .macWait
  | "RECLAIM" => .reclaim
  | _ => .unrecognized

/-- The node status of an inventory status. -/
def canonical : HardwareStatus → CanonicalStatus
  | .deploy | .deploy2 | .macWait => .pending
  | .reclaim => .suspended
  | .active => .running
  | .unrecognized => .unrecognized

end HardwareStatus

/-- The power state of a guest. -/
inductive PowerState where
  | halted
  | paused
  | running
  | unrecognized
deriving DecidableEq, Repr

namespace PowerState

/-- The state that a vendor key names, in any of its spellings. -/
def ofKey (key : String) : PowerState :=
  match normalizeKey key with
  | "HALTED" => .halted
  | "PAUSED" => .paused
  | "RUNNING" => .running
  | _ => .unrecognized

/-- The node status of a power state. -/
def canonical : PowerState → CanonicalStatus
  | .halted => .pending
  | .paused => .suspended
  | .running => .running
  | .unrecognized => .unrecognized

end PowerState

/-- The node status that a vendor key stands for on a resource of this kind. -/
def CanonicalStatus.ofKey (kind : ResourceKind) : Option String → CanonicalStatus
  | none => .unrecognized
  | some key =>
    match kind with
    | .bareMetal => (HardwareStatus.ofKey key).canonical
    | .virtualGuest => (PowerState.ofKey key).canonical

end Provisioning
