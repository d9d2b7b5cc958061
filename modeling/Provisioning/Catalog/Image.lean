import Provisioning.Catalog.Profile

/-!
# Images

The operating systems of a package.  An image is named by the first price of
its item, and an item without a price offers none.
-/

namespace Provisioning

/-- An operating system that can be ordered. -/
structure Image where
  id : String
  itemId : Nat
  description : String
deriving DecidableEq, Repr

/-- The image of a catalog item. -/
def Image.ofItem? (item : ProductItem) : Option Image :=
  item.firstPrice?.map fun price => ⟨toString price, item.id, item.description⟩

/-- The images of a package, in package order. -/
def ProductPackage.images (package : ProductPackage) : List Image :=
  (package.itemsIn Category.operatingSystem).filterMap Image.ofItem?

/-- The first image of this id. -/
def ProductPackage.image? (package : ProductPackage) (id : String) : Option Image :=
  package.images.find? (·.id == id)

end Provisioning
