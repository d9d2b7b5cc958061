import Provisioning.Vendor.Simulator
import Provisioning.Wire.Catalog

/-!
# The written form of the simulated vendor

The saved state leaves out pending faults, the latency of the catalog, the
counts of calls and the submitted orders: a vendor that is read back starts with
none of them.
-/

namespace Provisioning.Wire

open Json (optional)

/-- Faults of the catalog. -/
def catalogFault : Codec Json CatalogFault :=
  Json.choice [.timeout, .unauthorized] fun
    | .timeout => "Timeout"
    | .unauthorized => "Unauthorized"

/-- Counts of calls. -/
def callCounts : Codec Json CallCounts :=
  (Record.start CallCounts.mk
    |>.field "submit_order" (.required Json.half) (·.submitOrder)
    |>.field "billing_order" (.required Json.half) (·.billingOrder)
    |>.field "get_resource" (.required Json.half) (·.getResource)
    |>.field "list_resources" (.required Json.half) (·.listResources)
    |>.field "active_transaction" (.required Json.half) (·.activeTransaction)
    |>.field "cancel_billing_item" (.required Json.half) (·.cancelBillingItem)
    |>.field "package_by_name" (.required Json.half) (·.packageByName)
    |>.field "package_detail" (.required Json.half) (·.packageDetail)
    |>.field "lifecycle" (.required Json.half) (·.lifecycle)).codec Json.format

/-- Ends of cycles. -/
def cycleOutcome : Codec Json CycleOutcome :=
  Json.choice [.provisioned, .removed] fun
    | .provisioned => "Provisioned"
    | .removed => "Removed"

/-- Scripts. -/
def script : Codec Json Script :=
  (Record.start Script.mk
    |>.field "entries" (.required (Json.list (Json.nullable transaction))) (·.entries)
    |>.field "outcome" (.required cycleOutcome) (·.outcome)).codec Json.format

/-- Resources with their places in the directory. -/
def heldResource : Codec Json HeldResource :=
  (Record.start HeldResource.mk
    |>.field "resource" (.required resource) (·.resource)
    |>.field "hidden_for" (.required Json.half) (·.hiddenFor)).codec Json.format

/-- Orders with their approvals. -/
def heldOrder : Codec Json HeldOrder :=
  (Record.start HeldOrder.mk
    |>.field "id" (.required Json.word) (·.id)
    |>.field "pending_for" (.required Json.half) (·.pendingFor)).codec Json.format

/-- The resource id that the name of a script gives: digits as they stand in a
number, without an escape, a sign, a blank or a leading zero. -/
def scriptKey? (name : Json.Name) : Option ResourceId :=
  if name.escaped then none
  else
    match name.text.toList with
    | '+' :: _ => none
    | '0' :: _ :: _ => none
    | digits => (Text.numeral? Text.wordBound digits).map ResourceId.mk

/-- The vendor of the saved fields. -/
def restored (kind : ResourceKind) (resources : List HeldResource) (orders : List HeldOrder)
    (scripts : Lookup ResourceId Script) (reservedIds : Lookup String ResourceId)
    (catalog : Option ProductPackage) (nextResourceId nextOrderId nextTransactionId : Nat)
    (discoveryDelay approvalDelay : Nat) (echoReceipts withholdPasswords : Bool) : Simulator where
  kind := kind
  resources := resources
  orders := orders
  scripts := scripts
  reservedIds := reservedIds
  catalog := catalog
  nextResourceId := nextResourceId
  nextOrderId := nextOrderId
  nextTransactionId := nextTransactionId
  discoveryDelay := discoveryDelay
  approvalDelay := approvalDelay
  echoReceipts := echoReceipts
  withholdPasswords := withholdPasswords

/-- Saved vendors. -/
def simulator : Codec Json Simulator :=
  (Record.start restored
    |>.field "kind" (.required resourceKind) (·.kind)
    |>.field "resources" (.required (Json.list heldResource)) (·.resources)
    |>.field "orders" (.required (Json.list heldOrder)) (·.orders)
    |>.field "scripts" (.required (Json.table toString scriptKey? script)) (·.scripts)
    |>.field "reserved_ids" (.required (Json.table id (some ·.text) resourceId)) (·.reservedIds)
    |>.field "catalog" (optional productPackage) (·.catalog)
    |>.field "next_resource_id" (.required Json.word) (·.nextResourceId)
    |>.field "next_order_id" (.required Json.word) (·.nextOrderId)
    |>.field "next_transaction_id" (.required Json.word) (·.nextTransactionId)
    |>.field "discovery_delay" (.required Json.half) (·.discoveryDelay)
    |>.field "approval_delay" (.required Json.half) (·.approvalDelay)
    |>.field "echo_receipts" (.required Json.truth) (·.echoReceipts)
    |>.field "withhold_passwords" (.defaulted Json.truth false)
      (·.withholdPasswords)).codec Json.format

end Provisioning.Wire
