import Provisioning.Catalog
import Provisioning.Transaction

/-!
# Calls to the vendor

The eleven operations that the vendor offers, a call of each, and the type of
reply that each brings back.
-/

namespace Provisioning

/-- What the vendor can be asked to do. -/
inductive Operation where
  | submitOrder
  | billingOrder
  | getResource
  | listResources
  | activeTransaction
  | cancelBillingItem
  | activePackageByName
  | packageDetail
  | reboot
  | pause
  | resume
deriving DecidableEq, Repr

namespace Operation

/-- Every operation. -/
def all : List Operation :=
  [.submitOrder, .billingOrder, .getResource, .listResources, .activeTransaction,
   .cancelBillingItem, .activePackageByName, .packageDetail, .reboot, .pause, .resume]

/-- How a trace names the operation. -/
def name : Operation → String
  | .submitOrder => "submit_order"
  | .billingOrder => "billing_order"
  | .getResource => "get_resource"
  | .listResources => "list_resources"
  | .activeTransaction => "active_transaction"
  | .cancelBillingItem => "cancel_billing_item"
  | .activePackageByName => "active_package_by_name"
  | .packageDetail => "package_detail"
  | .reboot => "reboot"
  | .pause => "pause"
  | .resume => "resume"

/-- What a successful call of the operation brings back. -/
abbrev Reply : Operation → Type
  | .submitOrder => OrderReceipt
  | .billingOrder => BillingOrder
  | .getResource => Option Resource
  | .listResources => List Resource
  | .activeTransaction => Option Transaction
  | .cancelBillingItem => Bool
  | .activePackageByName => PackageRef
  | .packageDetail => ProductPackage
  | .reboot => Unit
  | .pause => Unit
  | .resume => Unit

end Operation

/-- One call.  `listResources` reads the directory of the account, in which a
new resource may be missing for a while. -/
inductive Call where
  | submitOrder (order : Order)
  | billingOrder (orderId : Nat)
  | getResource (id : ResourceId)
  | listResources
  | activeTransaction (id : ResourceId)
  | cancelBillingItem (billingItemId : Nat)
  | activePackageByName (name : String)
  | packageDetail (packageId : Nat)
  | reboot (id : ResourceId)
  | pause (id : ResourceId)
  | resume (id : ResourceId)
deriving DecidableEq, Repr

namespace Call

/-- The operation that is called. -/
abbrev operation : Call → Operation
  | .submitOrder _ => .submitOrder
  | .billingOrder _ => .billingOrder
  | .getResource _ => .getResource
  | .listResources => .listResources
  | .activeTransaction _ => .activeTransaction
  | .cancelBillingItem _ => .cancelBillingItem
  | .activePackageByName _ => .activePackageByName
  | .packageDetail _ => .packageDetail
  | .reboot _ => .reboot
  | .pause _ => .pause
  | .resume _ => .resume

/-- What the call is about, as a trace shows it. -/
def subject : Call → String
  | .submitOrder order => order.resource.hostname
  | .billingOrder orderId => toString orderId
  | .getResource id => toString id
  | .listResources => ""
  | .activeTransaction id => toString id
  | .cancelBillingItem billingItemId => toString billingItemId
  | .activePackageByName name => name
  | .packageDetail packageId => toString packageId
  | .reboot id => toString id
  | .pause id => toString id
  | .resume id => toString id

instance : ToString Call where
  toString c := c.operation.name ++ "(" ++ c.subject ++ ")"

/-- What a successful call brings back. -/
abbrev Reply (c : Call) : Type := c.operation.Reply

/-- The answer to a call: a reply or a failure. -/
abbrev Answer (c : Call) : Type := Except Error c.Reply

end Call

end Provisioning
