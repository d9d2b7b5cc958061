import Provisioning.Catalog.Pricing
import Provisioning.Workflow.Probe

/-!
# Creating a node

An order is made up from the catalog and the request, without asking the
vendor anything; `orderFor` names the first thing that is wrong with a request.
Then the order is submitted, and the workflow waits for its approval and for
the new resource to be listed, for a cycle of transactions to run and for the
login details to appear.
-/

namespace Provisioning

/-- What a new node is to be.  A missing domain stands for the configured one. -/
structure CreateRequest where
  hostname : String
  domain : Option String
  location : String
  imageId : String
  hardwareId : String
deriving DecidableEq, Repr

/-- A ready resource with its login. -/
structure CreatedNode where
  resource : Resource
  nodeId : String
  credentials : LoginCredentials
deriving DecidableEq, Repr

/-- The uplink that is ordered with a resource: none with a server, whose
profile has one, and the one of the configured speed with a guest. -/
def orderUplink (config : Config) (package : ProductPackage) : Except Error (Option PriceId) :=
  match config.kind with
  | .bareMetal => .ok none
  | .virtualGuest =>
    match package.uplinkPrice? config.portSpeed with
    | some price => .ok (some price)
    | none => .error (.notFound "port speed" ((config.portSpeed.map toString).getD "any"))

/-- The order for a request, or the first thing that is wrong with it: the
location, the port speed, the image or the hardware. -/
def orderFor (config : Config) (package : ProductPackage) (wanted : CreateRequest) :
    Except Error Order := do
  if !package.shipsTo wanted.location then throw (.notFound "location" wanted.location)
  let uplink ← orderUplink config package
  let prices ← orderPrices wanted.imageId wanted.hardwareId uplink config.prices
  return {
    packageId := package.id
    location := wanted.location
    prices := prices
    quantity := 1
    useHourlyPricing := true
    resource := ⟨wanted.hostname, wanted.domain.getD config.domain⟩ }

/-- The listed resource that a receipt is about: the first one of the echoed
id, or without an echo the first one of the ordered hostname. -/
def OrderReceipt.findIn (receipt : OrderReceipt) (listed : List Resource) : Option Resource :=
  match receipt.resources.head? with
  | some echoed => listed.find? (·.id == echoed.id)
  | none => listed.find? (·.hostname == receipt.order.resource.hostname)

/-- One attempt of discovery.  The directory is read only when the order is
approved. -/
def attemptDiscovery (receipt : OrderReceipt) : Procedure (Option Resource) := do
  let order ← request (.billingOrder receipt.orderId)
  if order.status = .approved then
    let listed ← request .listResources
    return receipt.findIn listed
  else return none

/-- The wait for the order to be approved and its resource to be listed. -/
def awaitDiscovery (policy : StagePolicy) (receipt : OrderReceipt) : Procedure Resource := do
  let (_, found) ← pollUntil policy () fun _ => do return ((), ← attemptDiscovery receipt)
  match found with
  | some resource => return resource
  | none =>
    throw (.stageTimeout .orderApproved receipt.order.resource.hostname policy.maxWaitMs)

/-- What follows the discovery of a resource: the wait until it can be logged
into, and its login. -/
def finishCreation (polling : PollingConfig) (discovered : Resource) : Procedure CreatedNode := do
  let id := discovered.id
  let label := discovered.label
  Workflow.notify (.awaitingTransactions label)
  awaitCycle polling label id
  let _ ← awaitStage polling .loginDetails label {} fun tracker => do
    return (tracker, ← loginDetailsPresent id)
  match ← request (.getResource id) with
  | none => throw (.notFound "resource" (toString id))
  | some resource =>
    match resource.credentials with
    | none => throw (.vendor (.lostLoginDetails label))
    | some credentials =>
      Workflow.notify (.resourceReady label)
      return ⟨resource, toString id, credentials⟩

/-- Orders a resource from a package and waits until it can be logged into. -/
def createFrom (config : Config) (package : ProductPackage) (wanted : CreateRequest) :
    Procedure CreatedNode := do
  let order ← orderFor config package wanted
  let receipt ← request (.submitOrder order)
  Workflow.notify (.awaitingApproval config.kind wanted.hostname)
  let discovered ← awaitDiscovery config.polling.orderApproved receipt
  finishCreation config.polling discovered

end Provisioning
