import Provisioning.Json.Codec
import Provisioning.Node
import Provisioning.Order
import Provisioning.Transaction
import Provisioning.Workflow.Create

/-!
# The written form of resources, orders and transactions

Names are in lower case with underscores, and fields are written in the order
of the type.
-/

namespace Provisioning.Wire

open Json (optional)

/-- Resource ids, as bare numbers. -/
def resourceId : Codec Json ResourceId :=
  Json.wrapped Json.word ResourceId.mk ResourceId.value

/-- The name of a kind of resource. -/
def kindName : ResourceKind → String
  | .bareMetal => "bare_metal"
  | .virtualGuest => "virtual_guest"

/-- Every kind of resource. -/
def allKinds : List ResourceKind := [.bareMetal, .virtualGuest]

/-- Kinds of resource. -/
def resourceKind : Codec Json ResourceKind :=
  Json.choice allKinds kindName

/-- Stages. -/
def stage : Codec Json Stage :=
  Json.choice [.orderApproved, .transactionsStarted, .transactionsEnded, .loginDetails] fun
    | .orderApproved => "order_approved"
    | .transactionsStarted => "transactions_started"
    | .transactionsEnded => "transactions_ended"
    | .loginDetails => "login_details"

/-- Statuses of nodes. -/
def canonicalStatus : Codec Json CanonicalStatus :=
  Json.choice [.pending, .running, .suspended, .unrecognized] toString

/-- Statuses of orders. -/
def orderStatus : Codec Json OrderStatus :=
  Json.choice [.approved, .pendingApproval, .unrecognized] fun
    | .approved => "APPROVED"
    | .pendingApproval => "PENDING_APPROVAL"
    | .unrecognized => "UNRECOGNIZED"

/-- Password records. -/
def password : Codec Json Password :=
  (Record.start Password.mk
    |>.field "username" (.required Json.text) (·.username)
    |>.field "password" (.required Json.text) (·.password)).codec Json.format

/-- Operating systems. -/
def operatingSystem : Codec Json OperatingSystem :=
  (Record.start OperatingSystem.mk
    |>.field "passwords" (.defaulted (Json.list password) []) (·.passwords)).codec Json.format

/-- Datacenters. -/
def datacenter : Codec Json Datacenter :=
  (Record.start Datacenter.mk
    |>.field "id" (.required Json.word) (·.id)
    |>.field "name" (.required Json.text) (·.name)
    |>.field "long_name" (optional Json.text) (·.longName)).codec Json.format

/-- Resources. -/
def resource : Codec Json Resource :=
  (Record.start Resource.mk
    |>.field "id" (.required resourceId) (·.id)
    |>.field "hostname" (.required Json.text) (·.hostname)
    |>.field "domain" (.required Json.text) (·.domain)
    |>.field "primary_ip" (optional Json.text) (·.primaryIp)
    |>.field "primary_backend_ip" (optional Json.text) (·.primaryBackendIp)
    |>.field "billing_item_id" (optional Json.word) (·.billingItemId)
    |>.field "operating_system" (optional operatingSystem) (·.operatingSystem)
    |>.field "datacenter" (optional datacenter) (·.datacenter)
    |>.field "status" (optional Json.text) (·.status)).codec Json.format

/-- Credentials. -/
def loginCredentials : Codec Json LoginCredentials :=
  (Record.start LoginCredentials.mk
    |>.field "user" (.required Json.text) (·.user)
    |>.field "password" (.required Json.text) (·.password)).codec Json.format

/-- Names of resources to come. -/
def resourceDraft : Codec Json ResourceDraft :=
  (Record.start ResourceDraft.mk
    |>.field "hostname" (.required Json.text) (·.hostname)
    |>.field "domain" (.required Json.text) (·.domain)).codec Json.format

/-- Orders. -/
def order : Codec Json Order :=
  (Record.start Order.mk
    |>.field "package_id" (.required Json.word) (·.packageId)
    |>.field "location" (.required Json.text) (·.location)
    |>.field "prices" (.required (Json.list Json.word)) (·.prices)
    |>.field "quantity" (.required Json.half) (·.quantity)
    |>.field "use_hourly_pricing" (.required Json.truth) (·.useHourlyPricing)
    |>.field "resource" (.required resourceDraft) (·.resource)).codec Json.format

/-- Receipts. -/
def orderReceipt : Codec Json OrderReceipt :=
  (Record.start OrderReceipt.mk
    |>.field "order_id" (.required Json.word) (·.orderId)
    |>.field "order" (.required order) (·.order)
    |>.field "resources" (.defaulted (Json.list resource) []) (·.resources)).codec Json.format

/-- States of orders. -/
def billingOrder : Codec Json BillingOrder :=
  (Record.start BillingOrder.mk
    |>.field "id" (.required Json.word) (·.id)
    |>.field "status" (.required orderStatus) (·.status)).codec Json.format

/-- Transactions. -/
def transaction : Codec Json Transaction :=
  (Record.start Transaction.mk
    |>.field "id" (.required Json.word) (·.id)
    |>.field "name" (.required Json.text) (·.name)
    |>.field "elapsed_seconds" (.required Json.word) (·.elapsedSeconds)
    |>.field "average_duration" (.required Json.float) (·.averageDuration)).codec Json.format

/-- Requests for a node. -/
def createRequest : Codec Json CreateRequest :=
  (Record.start CreateRequest.mk
    |>.field "hostname" (.required Json.text) (·.hostname)
    |>.field "domain" (optional Json.text) (·.domain)
    |>.field "location" (.required Json.text) (·.location)
    |>.field "image_id" (.required Json.text) (·.imageId)
    |>.field "hardware_id" (.required Json.text) (·.hardwareId)).codec Json.format

/-- Created nodes. -/
def createdNode : Codec Json CreatedNode :=
  (Record.start CreatedNode.mk
    |>.field "resource" (.required resource) (·.resource)
    |>.field "node_id" (.required Json.text) (·.nodeId)
    |>.field "credentials" (.required loginCredentials) (·.credentials)).codec Json.format

/-- Descriptions of nodes. -/
def nodeMetadata : Codec Json NodeMetadata :=
  (Record.start NodeMetadata.mk
    |>.field "id" (.required resourceId) (·.id)
    |>.field "name" (.required Json.text) (·.name)
    |>.field "hostname" (.required Json.text) (·.hostname)
    |>.field "group" (optional Json.text) (·.group)
    |>.field "status" (.required canonicalStatus) (·.status)
    |>.field "public_addresses" (.required (Json.list Json.text)) (·.publicAddresses)
    |>.field "private_addresses" (.required (Json.list Json.text)) (·.privateAddresses)
    |>.field "location" (optional Json.text) (·.location)).codec Json.format

end Provisioning.Wire
