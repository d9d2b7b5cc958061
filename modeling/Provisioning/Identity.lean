/-!
# Names for resources, kinds and stages

The vocabulary that the rest of the library shares: the number that the vendor
gives a resource, the two kinds of resource, the bounded waits of the create
and destroy workflows and the power operations.
-/

namespace Provisioning

/-- The number that the vendor gives a resource for as long as it lives. -/
structure ResourceId where
  value : Nat
deriving DecidableEq, Repr, Inhabited

instance : ToString ResourceId where
  toString id := toString id.value

/-- What an order is for. -/
inductive ResourceKind where
  | bareMetal
  | virtualGuest
deriving DecidableEq, Repr, Inhabited

instance : ToString ResourceKind where
  toString
    | .bareMetal => "bare metal"
    | .virtualGuest => "virtual guest"

/-- A bounded wait of a workflow. -/
inductive Stage where
  | orderApproved
  | transactionsStarted
  | transactionsEnded
  | loginDetails
deriving DecidableEq, Repr, Inhabited

instance : ToString Stage where
  toString
    | .orderApproved => "order approval and discovery"
    | .transactionsStarted => "transactions to start"
    | .transactionsEnded => "transactions to end"
    | .loginDetails => "login details"

/-- The operations on the power of a running resource. -/
inductive PowerOperation where
  | reboot
  | suspend
  | resume
deriving DecidableEq, Repr, Inhabited

instance : ToString PowerOperation where
  toString
    | .reboot => "reboot"
    | .suspend => "suspend"
    | .resume => "resume"

end Provisioning
