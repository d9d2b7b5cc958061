import Provisioning.Order

/-!
# The catalog

A package lists the items that can be ordered, each in one or more categories,
and the datacenters that they ship to.
-/

namespace Provisioning

/-- The number and name of a package. -/
structure PackageRef where
  id : Nat
  name : String
deriving DecidableEq, Repr

/-- Something that can be ordered: a processor, a disk, an operating system.
`prices` may be empty; such an item cannot be ordered. -/
structure ProductItem where
  id : Nat
  description : String
  units : Option String := none
  capacity : Option Float := none
  categories : List String := []
  prices : List PriceId := []
deriving BEq, Repr

/-- A package in full. -/
structure ProductPackage where
  id : Nat
  name : String
  items : List ProductItem := []
  datacenters : List Datacenter := []
deriving BEq, Repr

namespace ProductItem

/-- Whether the item is in the category. -/
def hasCategory (item : ProductItem) (category : String) : Bool :=
  item.categories.contains category

/-- The price that the item is ordered at. -/
def firstPrice? (item : ProductItem) : Option PriceId :=
  item.prices.head?

end ProductItem

namespace ProductPackage

/-- The items of a category, in package order. -/
def itemsIn (package : ProductPackage) (category : String) : List ProductItem :=
  package.items.filter (·.hasCategory category)

/-- Whether the package ships to the datacenter of this name. -/
def shipsTo (package : ProductPackage) (location : String) : Bool :=
  package.datacenters.any (·.name == location)

end ProductPackage

end Provisioning
