import Provisioning.Catalog.Profile

/-!
# Price lines

The prices of an order: image, hardware, the uplink if there is one, then the
baseline that every order carries.  A price that occurs twice is listed once,
at its first place.
-/

namespace Provisioning

/-- The price of an uplink of this port speed: the first price of the first
item that matches and has one. -/
def ProductPackage.uplinkPrice? (package : ProductPackage) (portSpeed : Option Nat) :
    Option PriceId :=
  ((package.itemsIn Category.uplink).filter (·.matchesSpeed portSpeed)).findSome?
    (·.firstPrice?)

/-- The elements of a list that are not in `seen`, each at its first place. -/
def firstOccurrences (seen : List PriceId) : List PriceId → List PriceId
  | [] => []
  | price :: rest =>
    if price ∈ seen then firstOccurrences seen rest
    else price :: firstOccurrences (price :: seen) rest

/-- The price of an image. -/
def parseImageId (imageId : String) : Except Error PriceId :=
  match parsePriceId? imageId.toList with
  | some price => .ok price
  | none => .error (.invalidProfile (.notAnImageId imageId))

/-- The price lines of an order. -/
def orderPrices (imageId hardwareId : String) (uplink : Option PriceId)
    (baseline : List PriceId) : Except Error (List PriceId) := do
  let image ← parseImageId imageId
  let hardware ← parseHardwareId hardwareId
  return firstOccurrences [] (image :: (hardware ++ uplink.toList ++ baseline))

end Provisioning
