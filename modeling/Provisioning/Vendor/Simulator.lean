import Provisioning.Catalog.Demo
import Provisioning.Lookup
import Provisioning.Vendor.Call

/-!
# The simulated vendor

A vendor in memory, as slow to agree with itself as a real one: new resources
stay out of the directory for a while, orders wait for approval, and the
transactions of a resource are replayed from a script.  When the script runs out
the resource is provisioned or, if it was cancelled, removed.

`Simulator.arrive` is what happens when a call comes in and `Simulator.serve`
what happens when it is answered.  Only the lookup of a package takes time in
between.
-/

namespace Provisioning

/-- A failure that the simulator is told to produce. -/
inductive CatalogFault where
  | timeout
  | unauthorized
deriving DecidableEq, Repr

/-- The failure of a call that meets a fault. -/
def CatalogFault.toError : CatalogFault → Error
  | .timeout => .timeout 30
  | .unauthorized => .unauthorized "invalid API key"

/-- How often each operation was called.  The three power operations count
together. -/
structure CallCounts where
  submitOrder : Nat := 0
  billingOrder : Nat := 0
  getResource : Nat := 0
  listResources : Nat := 0
  activeTransaction : Nat := 0
  cancelBillingItem : Nat := 0
  packageByName : Nat := 0
  packageDetail : Nat := 0
  lifecycle : Nat := 0
deriving DecidableEq, Repr

/-- One more call of an operation. -/
def CallCounts.record (counts : CallCounts) : Operation → CallCounts
  | .submitOrder => { counts with submitOrder := counts.submitOrder + 1 }
  | .billingOrder => { counts with billingOrder := counts.billingOrder + 1 }
  | .getResource => { counts with getResource := counts.getResource + 1 }
  | .listResources => { counts with listResources := counts.listResources + 1 }
  | .activeTransaction => { counts with activeTransaction := counts.activeTransaction + 1 }
  | .cancelBillingItem => { counts with cancelBillingItem := counts.cancelBillingItem + 1 }
  | .activePackageByName => { counts with packageByName := counts.packageByName + 1 }
  | .packageDetail => { counts with packageDetail := counts.packageDetail + 1 }
  | .reboot | .pause | .resume => { counts with lifecycle := counts.lifecycle + 1 }

/-- What becomes of a resource when its script runs out. -/
inductive CycleOutcome where
  | provisioned
  | removed
deriving DecidableEq, Repr

/-- The feed of a resource: what each look at it shows, and its end. -/
structure Script where
  entries : List (Option Transaction)
  outcome : CycleOutcome

/-- A resource and the number of directory listings that still omit it. -/
structure HeldResource where
  resource : Resource
  hiddenFor : Nat
deriving DecidableEq, Repr

/-- An order and the number of checks until it is approved. -/
structure HeldOrder where
  id : Nat
  pendingFor : Nat
deriving DecidableEq, Repr

/-- The state of the simulated vendor.  The last four fields are not saved. -/
structure Simulator where
  kind : ResourceKind := .bareMetal
  resources : List HeldResource := []
  orders : List HeldOrder := []
  scripts : Lookup ResourceId Script := []
  reservedIds : Lookup String ResourceId := []
  catalog : Option ProductPackage := none
  nextResourceId : Nat := 1
  nextOrderId : Nat := 1000
  nextTransactionId : Nat := 1
  discoveryDelay : Nat := 0
  approvalDelay : Nat := 0
  echoReceipts : Bool := false
  withholdPasswords : Bool := false
  catalogFaults : List CatalogFault := []
  catalogLatencyMs : Nat := 0
  calls : CallCounts := {}
  submitted : List Order := []

/-- What a call meets when it comes in: how long the vendor takes, and a fault. -/
structure Admission where
  latencyMs : Nat := 0
  fault : Option CatalogFault := none
deriving DecidableEq, Repr

namespace Simulator

/-- An empty vendor for a kind of resource. -/
def empty (kind : ResourceKind) : Simulator :=
  { kind := kind }

/-- A vendor with the demonstration catalog. -/
def withDemoCatalog (kind : ResourceKind) : Simulator :=
  { kind := kind, catalog := some (Demo.catalog kind) }

/-! ## Resources -/

/-- The first resource with this id. -/
def find? (s : Simulator) (id : ResourceId) : Option Resource :=
  (s.resources.find? (·.resource.id == id)).map (·.resource)

/-- The list with its first element that satisfies `p` changed. -/
def changeFirst {α : Type} (p : α → Bool) (f : α → α) : List α → List α
  | [] => []
  | a :: rest => if p a then f a :: rest else a :: changeFirst p f rest

/-- The vendor with the first resource of this id changed. -/
def change (s : Simulator) (id : ResourceId) (f : Resource → Resource) : Simulator :=
  { s with
    resources := changeFirst (·.resource.id == id)
      (fun held => { held with resource := f held.resource }) s.resources }

/-- The vendor without the resources of this id. -/
def removeResource (s : Simulator) (id : ResourceId) : Simulator :=
  { s with resources := s.resources.filter (·.resource.id != id) }

/-- The last part of the addresses of a resource. -/
def hostNumber (id : ResourceId) : Nat :=
  id.value % 250 + 2

/-- The status of a resource that has just been ordered. -/
def orderedStatus : ResourceKind → String
  | .bareMetal => "DEPLOY"
  | .virtualGuest => "HALTED"

/-- The status of a resource that runs. -/
def runningStatus : ResourceKind → String
  | .bareMetal => "ACTIVE"
  | .virtualGuest => "RUNNING"

/-- The initial password of a resource. -/
def initialPassword (r : Resource) : Password :=
  ⟨"root", "pw-" ++ r.hostname ++ "-" ++ toString r.id⟩

/-- A resource with addresses, its running status and perhaps a password. -/
def provision (kind : ResourceKind) (withPassword : Bool) (r : Resource) : Resource :=
  { r with
    primaryIp := some ("198.51.100." ++ toString (hostNumber r.id))
    primaryBackendIp := some ("10.0.0." ++ toString (hostNumber r.id))
    operatingSystem := if withPassword then some ⟨[initialPassword r]⟩ else r.operatingSystem
    status := some (runningStatus kind) }

/-- The end of a cycle of transactions. -/
def finishCycle (s : Simulator) (id : ResourceId) : CycleOutcome → Simulator
  | .provisioned => s.change id (provision s.kind !s.withholdPasswords)
  | .removed => s.removeResource id

/-! ## Scripts -/

/-- A new transaction of this name. -/
def newTransaction (s : Simulator) (name : String) : Simulator × Transaction :=
  ({ s with nextTransactionId := s.nextTransactionId + 1 }, ⟨s.nextTransactionId, name, 0, 1.5⟩)

/-- Puts the feed of a new resource in place. -/
def scriptProvisioning (s : Simulator) (id : ResourceId) : Simulator :=
  let (s, provisioning) := s.newTransaction "PROVISION_SERVER"
  let (s, reload) := s.newTransaction "OS_RELOAD"
  { s with
    scripts := s.scripts.put id ⟨[some provisioning, some reload, some reload, none], .provisioned⟩ }

/-- Puts the feed of a cancelled resource in place. -/
def scriptDecommission (s : Simulator) (id : ResourceId) : Simulator :=
  let (s, reclaim) := s.newTransaction "RECLAIM_WAIT"
  { s with scripts := s.scripts.put id ⟨[some reclaim, some reclaim, none], .removed⟩ }

/-! ## Controls -/

/-- Offers this package and no other. -/
def setCatalog (s : Simulator) (package : ProductPackage) : Simulator :=
  { s with catalog := some package }

/-- Gives this id to the next order for the hostname. -/
def reserveId (s : Simulator) (hostname : String) (id : ResourceId) : Simulator :=
  { s with reservedIds := s.reservedIds.put hostname id }

/-- Replaces the feed of a resource; when it runs out the resource is
provisioned. -/
def scriptTransactions (s : Simulator) (id : ResourceId) (entries : List (Option Transaction)) :
    Simulator :=
  { s with scripts := s.scripts.put id ⟨entries, .provisioned⟩ }

/-- New resources stay out of this many directory listings. -/
def setDiscoveryDelay (s : Simulator) (listings : Nat) : Simulator :=
  { s with discoveryDelay := listings }

/-- New orders are pending for this many checks. -/
def setApprovalDelay (s : Simulator) (checks : Nat) : Simulator :=
  { s with approvalDelay := checks }

/-- Whether receipts echo the new resource. -/
def setEchoReceipts (s : Simulator) (echo : Bool) : Simulator :=
  { s with echoReceipts := echo }

/-- Whether resources are provisioned without a password. -/
def setWithholdPasswords (s : Simulator) (withhold : Bool) : Simulator :=
  { s with withholdPasswords := withhold }

/-- So many more faults of a kind for the lookups of a package to come. -/
def pushCatalogFault (s : Simulator) (fault : CatalogFault) (times : Nat := 1) : Simulator :=
  { s with catalogFaults := s.catalogFaults ++ List.replicate times fault }

/-- How long a lookup of a package takes. -/
def setCatalogLatency (s : Simulator) (ms : Nat) : Simulator :=
  { s with catalogLatencyMs := ms }

/-- Adds a resource in place of any of its id. -/
def insertResource (s : Simulator) (resource : Resource) : Simulator :=
  let s := s.removeResource resource.id
  { s with resources := s.resources ++ [⟨resource, 0⟩] }

/-- Provisions a resource at once. -/
def completeProvisioning (s : Simulator) (id : ResourceId) : Simulator :=
  s.finishCycle id .provisioned

/-! ## Calls -/

/-- The id of the next order for a hostname: the reserved one or a new one. -/
def assignId (s : Simulator) (hostname : String) : Simulator × ResourceId :=
  match s.reservedIds.find? hostname with
  | some id => ({ s with reservedIds := s.reservedIds.remove hostname }, id)
  | none => ({ s with nextResourceId := s.nextResourceId + 1 }, ⟨s.nextResourceId⟩)

/-- The datacenter that an order names, if the catalog knows it. -/
def orderedDatacenter (s : Simulator) (order : Order) : Option Datacenter :=
  s.catalog.bind fun package => package.datacenters.find? (·.name == order.location)

/-- A resource as it is when it has just been ordered.  Its billing item has a number of
64 bits as long as ten times its id and one is below `Text.wordBound`. -/
def orderedResource (s : Simulator) (order : Order) (id : ResourceId) : Resource where
  id := id
  hostname := order.resource.hostname
  domain := order.resource.domain
  billingItemId := some (id.value * 10 + 1)
  status := some (orderedStatus s.kind)
  datacenter := s.orderedDatacenter order

/-- Adds a new resource, out of the directory for as long as new ones are. -/
def holdResource (s : Simulator) (resource : Resource) : Simulator :=
  { s with resources := s.resources ++ [⟨resource, s.discoveryDelay⟩] }

/-- Puts a feed in place for a new resource, unless there is one. -/
def ensureScript (s : Simulator) (id : ResourceId) : Simulator :=
  if (s.scripts.find? id).isSome then s else s.scriptProvisioning id

/-- Opens an order under the next order number. -/
def openOrder (s : Simulator) (order : Order) : Simulator :=
  { s with
    nextOrderId := s.nextOrderId + 1
    orders := s.orders ++ [⟨s.nextOrderId, s.approvalDelay⟩]
    submitted := s.submitted ++ [order] }

/-- Takes an order. -/
def placeOrder (s : Simulator) (order : Order) : Simulator × OrderReceipt :=
  let (s, id) := s.assignId order.resource.hostname
  let resource := s.orderedResource order id
  let s := (s.holdResource resource).ensureScript id
  (s.openOrder order, ⟨s.nextOrderId, order, if s.echoReceipts then [resource] else []⟩)

/-- Checks the approval of an order; a check of a pending order brings it
nearer. -/
def checkOrder (s : Simulator) (orderId : Nat) : Simulator × Except Error BillingOrder :=
  match s.orders.find? (·.id == orderId) with
  | none => (s, .error (.notFound "order" (toString orderId)))
  | some order =>
    if order.pendingFor = 0 then (s, .ok { id := orderId, status := .approved })
    else
      ({ s with
          orders := changeFirst (·.id == orderId)
            (fun held => { held with pendingFor := held.pendingFor - 1 }) s.orders },
        .ok { id := orderId, status := .pendingApproval })

/-- Lists the directory; a listing brings hidden resources nearer to it. -/
def listDirectory (s : Simulator) : Simulator × List Resource :=
  ({ s with resources := s.resources.map fun held => { held with hiddenFor := held.hiddenFor - 1 } },
    (s.resources.filter (·.hiddenFor == 0)).map (·.resource))

/-- Shows the next entry of a resource's feed.  The look that takes the last
entry ends the cycle. -/
def nextTransaction (s : Simulator) (id : ResourceId) : Simulator × Option Transaction :=
  match s.scripts.find? id with
  | none => (s, none)
  | some script =>
    let entry := script.entries.head?.join
    match script.entries.tail with
    | [] => (({ s with scripts := s.scripts.remove id }).finishCycle id script.outcome, entry)
    | rest => ({ s with scripts := s.scripts.put id { script with entries := rest } }, entry)

/-- Cancels a billing item: the resource's cycle, the one under way or a new
one, ends in its removal.  The reply says whether there was such an item. -/
def cancel (s : Simulator) (billingItemId : Nat) : Simulator × Bool :=
  match s.resources.find? (·.resource.billingItemId == some billingItemId) with
  | none => (s, false)
  | some held =>
    let id := held.resource.id
    let s := match s.scripts.find? id with
      | some script => { s with scripts := s.scripts.put id { script with outcome := .removed } }
      | none => s.scriptDecommission id
    (s.change id fun r => { r with status := some "RECLAIM" }, true)

/-- The reference of the offered package, if it has this name. -/
def packageRef (s : Simulator) (name : String) : Except Error PackageRef :=
  match s.catalog with
  | some package =>
    if package.name = name then .ok ⟨package.id, package.name⟩ else .error (.notFound "package" name)
  | none => .error (.notFound "package" name)

/-- The offered package, if it has this number. -/
def packageDetail (s : Simulator) (packageId : Nat) : Except Error ProductPackage :=
  match s.catalog with
  | some package =>
    if package.id = packageId then .ok package
    else .error (.notFound "package" (toString packageId))
  | none => .error (.notFound "package" (toString packageId))

/-- Changes the power state of a resource. -/
def setPower (s : Simulator) (id : ResourceId) (power : String) : Simulator × Except Error Unit :=
  match s.find? id with
  | none => (s, .error (.notFound "resource" (toString id)))
  | some _ => (s.change id fun r => { r with status := some power }, .ok ())

/-- A call comes in: it is counted, and a lookup of a package meets the next
fault. -/
def arrive (s : Simulator) (call : Call) : Simulator × Admission :=
  let s := { s with calls := s.calls.record call.operation }
  match call with
  | .activePackageByName _ =>
    ({ s with catalogFaults := s.catalogFaults.tail }, ⟨s.catalogLatencyMs, s.catalogFaults.head?⟩)
  | _ => (s, {})

/-- A call that has come in is answered. -/
def serve (s : Simulator) (admission : Admission) : (call : Call) → Simulator × call.Answer
  | .submitOrder order => let (s, receipt) := s.placeOrder order; (s, .ok receipt)
  | .billingOrder orderId => s.checkOrder orderId
  | .getResource id => (s, .ok (s.find? id))
  | .listResources => let (s, listed) := s.listDirectory; (s, .ok listed)
  | .activeTransaction id => let (s, active) := s.nextTransaction id; (s, .ok active)
  | .cancelBillingItem billingItemId => let (s, done) := s.cancel billingItemId; (s, .ok done)
  | .activePackageByName name =>
    match admission.fault with
    | some fault => (s, .error fault.toError)
    | none => (s, s.packageRef name)
  | .packageDetail packageId => (s, s.packageDetail packageId)
  | .reboot id => s.setPower id "RUNNING"
  | .pause id => s.setPower id "PAUSED"
  | .resume id => s.setPower id "RUNNING"

/-- A call from its arrival to its answer, with nothing in between. -/
def call (s : Simulator) (c : Call) : Simulator × c.Answer :=
  let (s, admission) := s.arrive c
  s.serve admission c

end Simulator

end Provisioning
