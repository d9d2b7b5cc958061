import Provisioning.Resource
import Provisioning.Status.Key

/-!
# Orders

What is ordered from the vendor, the receipt for it and the state of its
approval.
-/

namespace Provisioning

/-- The number of a price line of the catalog. -/
abbrev PriceId := Nat

/-- The name of a resource that does not exist yet. -/
structure ResourceDraft where
  hostname : String
  domain : String
deriving DecidableEq, Repr

/-- A request for one resource. -/
structure Order where
  packageId : Nat
  location : String
  prices : List PriceId
  quantity : Nat
  useHourlyPricing : Bool
  resource : ResourceDraft
deriving DecidableEq, Repr

/-- The vendor's acknowledgment of an order.  It may echo the new resource. -/
structure OrderReceipt where
  orderId : Nat
  order : Order
  resources : List Resource
deriving DecidableEq, Repr

/-- How far the approval of an order is. -/
inductive OrderStatus where
  | approved
  | pendingApproval
  | unrecognized
deriving DecidableEq, Repr

/-- The status that a vendor key names, in any of its spellings. -/
def OrderStatus.ofKey (key : String) : OrderStatus :=
  match normalizeKey key with
  | "APPROVED" => .approved
  | "PENDING_APPROVAL" => .pendingApproval
  | _ => .unrecognized

/-- The state of a submitted order. -/
structure BillingOrder where
  id : Nat
  status : OrderStatus
deriving DecidableEq, Repr

end Provisioning
