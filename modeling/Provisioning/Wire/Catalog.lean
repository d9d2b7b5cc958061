import Provisioning.Catalog.Image
import Provisioning.Wire.Resource

/-!
# The written form of the catalog
-/

namespace Provisioning.Wire

open Json (optional)

/-- References of packages. -/
def packageRef : Codec Json PackageRef :=
  (Record.start PackageRef.mk
    |>.field "id" (.required Json.word) (·.id)
    |>.field "name" (.required Json.text) (·.name)).codec Json.format

/-- Items. -/
def productItem : Codec Json ProductItem :=
  (Record.start ProductItem.mk
    |>.field "id" (.required Json.word) (·.id)
    |>.field "description" (.required Json.text) (·.description)
    |>.field "units" (optional Json.text) (·.units)
    |>.field "capacity" (optional Json.float) (·.capacity)
    |>.field "categories" (.defaulted (Json.list Json.text) []) (·.categories)
    |>.field "prices" (.defaulted (Json.list Json.word) []) (·.prices)).codec Json.format

/-- Packages. -/
def productPackage : Codec Json ProductPackage :=
  (Record.start ProductPackage.mk
    |>.field "id" (.required Json.word) (·.id)
    |>.field "name" (.required Json.text) (·.name)
    |>.field "items" (.defaulted (Json.list productItem) []) (·.items)
    |>.field "datacenters" (.defaulted (Json.list datacenter) []) (·.datacenters)).codec Json.format

/-- Images. -/
def image : Codec Json Image :=
  (Record.start Image.mk
    |>.field "id" (.required Json.text) (·.id)
    |>.field "item_id" (.required Json.word) (·.itemId)
    |>.field "description" (.required Json.text) (·.description)).codec Json.format

end Provisioning.Wire
