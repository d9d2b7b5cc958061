import Provisioning.Catalog.Profile

/-!
# The demonstration catalog

One small package for each kind of resource, with items for every role, three
uplinks and two images.
-/

namespace Provisioning.Demo

/-- An item of one category with one price. -/
def item (id : Nat) (description category : String) (capacity : Option Float) (price : PriceId) :
    ProductItem where
  id := id
  description := description
  capacity := capacity
  categories := [category]
  prices := [price]

/-- The datacenters that both packages ship to. -/
def datacenters : List Datacenter :=
  [⟨3, "dal05", some "Dallas 5"⟩, ⟨4, "sea01", some "Seattle"⟩]

/-- The uplinks and images that both packages hold. -/
def sharedItems : List ProductItem :=
  [item 20 "10 Mbps Public & Private Networks" Category.uplink (some 10.0) 272,
   item 21 "100 Mbps Public & Private Networks" Category.uplink (some 100.0) 273,
   item 22 "1 Gbps Public & Private Networks" Category.uplink (some 1000.0) 274,
   item 30 "Ubuntu Linux 12.04 LTS Precise Pangolin - Minimal Install (64 bit)"
     Category.operatingSystem none 17438,
   item 31 "CentOS 6.0 - Minimal Install (64 bit)" Category.operatingSystem none 13942]

/-- The items for servers. -/
def serverItems : List ProductItem :=
  [item 1 "Single Xeon 1270 - 4 Cores / 8GB RAM" Category.compute (some 4.0) 1921,
   item 2 "Dual Xeon 5620 - 8 Cores / 16GB RAM" Category.compute (some 8.0) 1922,
   item 10 "500GB SATA II" Category.disk (some 500.0) 1267,
   item 11 "2TB SATA II" Category.disk (some 2000.0) 1268]

/-- The items for guests. -/
def guestItems : List ProductItem :=
  [item 40 "1 x 2.0 GHz Core" Category.guestCores (some 1.0) 1640,
   item 41 "2 x 2.0 GHz Cores" Category.guestCores (some 2.0) 1642,
   item 50 "1 GB" Category.memory (some 1.0) 1644,
   item 51 "4 GB" Category.memory (some 4.0) 1647,
   item 60 "25 GB (SAN)" Category.guestDisk (some 25.0) 2202,
   item 61 "100 GB (SAN)" Category.guestDisk (some 100.0) 2203]

/-- The name of the standard package for a kind of resource. -/
def packageName : ResourceKind → String
  | .bareMetal => "Bare Metal Instance"
  | .virtualGuest => "Cloud Server"

/-- The package for a kind of resource. -/
def catalog (kind : ResourceKind) : ProductPackage where
  id := match kind with
    | .bareMetal => 50
    | .virtualGuest => 46
  name := packageName kind
  items := (match kind with
    | .bareMetal => serverItems
    | .virtualGuest => guestItems) ++ sharedItems
  datacenters := datacenters

end Provisioning.Demo
