import Provisioning.Catalog.Image
import Provisioning.Node
import Provisioning.Workflow.Create
import Provisioning.Workflow.Destroy
import Provisioning.Workflow.Refresh

/-!
# The provisioner

The operations that a user of the library calls, as jobs.  A job is a workflow,
or a workflow that first needs the catalog; where the catalog comes from is
left to whoever runs the job.
-/

namespace Provisioning

/-- A workflow, or one that starts from the catalog. -/
inductive Job (α : Type) where
  | plain (workflow : Workflow α)
  | withCatalog (workflow : RefreshOutcome → Workflow α)

namespace Job

variable {α β : Type}

/-- The job with its result changed. -/
def map (f : α → β) : Job α → Job β
  | plain workflow => plain (workflow.bind fun result => .done (f result))
  | withCatalog workflow => withCatalog fun catalog =>
    (workflow catalog).bind fun result => .done (f result)

/-- A job that only needs to look at the package. -/
def ofPackage (look : ProductPackage → α) : Job (Except Error α) :=
  withCatalog fun catalog => .done (catalog.map look)

end Job

/-- A provisioner has a configuration without a fault. -/
structure Provisioner where
  config : Config
  valid : config.fault? = none

namespace Provisioner

/-- The provisioner of a configuration, or the fault of it. -/
def new (config : Config) : Except Error Provisioner :=
  match valid : config.fault? with
  | none => .ok ⟨config, valid⟩
  | some fault => .error (.invalidConfig fault)

/-- Orders a node and waits until it can be logged into. -/
def create (p : Provisioner) (wanted : CreateRequest) : Job (Except Error CreatedNode) :=
  .withCatalog fun catalog => ExceptT.run do
    let package ← catalog
    createFrom p.config package wanted

/-- Cancels a node and waits until it is gone. -/
def destroy (p : Provisioner) (id : ResourceId) : Job (Except Error Unit) :=
  .plain (destroyNode p.config.polling id).run

/-- The billable resources of the account. -/
def billableResources : Procedure (List Resource) := do
  let listed ← request .listResources
  return listed.filter (·.hasBillingItem)

/-- Lists the nodes: the resources that can be billed. -/
def listNodes (_ : Provisioner) : Job (Except Error (List Resource)) :=
  .plain billableResources.run

/-- Lists the nodes with one of these ids. -/
def listNodesByIds (_ : Provisioner) (ids : List ResourceId) : Job (Except Error (List Resource)) :=
  .plain <| ExceptT.run do
    return (← billableResources).filter (ids.contains ·.id)

/-- Looks a resource up. -/
def getNode (_ : Provisioner) (id : ResourceId) : Job (Except Error (Option Resource)) :=
  .plain (request (.getResource id)).run

/-- Lists the hardware profiles that can be ordered. -/
def profiles (p : Provisioner) : Job (Except Error (List HardwareProfile)) :=
  .ofPackage (·.hardwareProfiles p.config.kind p.config.portSpeed)

/-- Lists the images. -/
def images (_ : Provisioner) : Job (Except Error (List Image)) :=
  .ofPackage (·.images)

/-- Looks an image up. -/
def getImage (_ : Provisioner) (id : String) : Job (Except Error (Option Image)) :=
  .ofPackage (·.image? id)

/-- Lists the datacenters. -/
def locations (_ : Provisioner) : Job (Except Error (List Datacenter)) :=
  .ofPackage (·.datacenters)

/-- The call of a power operation. -/
def powerCall (id : ResourceId) : PowerOperation → Procedure Unit
  | .reboot => request (.reboot id)
  | .suspend => request (.pause id)
  | .resume => request (.resume id)

/-- Changes the power of a node.  Only guests can. -/
def power (p : Provisioner) (operation : PowerOperation) (id : ResourceId) :
    Job (Except Error Unit) :=
  match p.config.kind with
  | .virtualGuest => .plain (powerCall id operation).run
  | .bareMetal => .plain (.done (.error (.unsupportedOperation operation .bareMetal)))

/-- The description of a resource. -/
def metadata (p : Provisioner) (resource : Resource) : NodeMetadata :=
  .ofResource p.config.kind resource

end Provisioner

end Provisioning
