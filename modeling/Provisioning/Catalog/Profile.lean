import Provisioning.Catalog

/-!
# Hardware profiles

A profile is one item for each of three roles.  Servers combine a processor, a
disk and an uplink; guests combine cores, memory and a disk.  Every combination
is offered, and a profile is named by the first prices of its items, joined by
commas.  `parseHardwareId` reads the prices back.
-/

namespace Provisioning

namespace Category

def compute : String := "server_core"
def disk : String := "disk0"
def uplink : String := "port_speed"
def guestCores : String := "guest_core"
def memory : String := "ram"
def guestDisk : String := "guest_disk0"
def operatingSystem : String := "os"

end Category

/-- The three roles of a profile, in the order of its id. -/
structure ProfileRoles where
  first : String
  second : String
  third : String
deriving DecidableEq, Repr

/-- The roles that a kind of resource combines. -/
def ProfileRoles.ofKind : ResourceKind → ProfileRoles
  | .bareMetal => ⟨Category.compute, Category.disk, Category.uplink⟩
  | .virtualGuest => ⟨Category.guestCores, Category.memory, Category.guestDisk⟩

/-- The roles as a list. -/
def ProfileRoles.toList (roles : ProfileRoles) : List String :=
  [roles.first, roles.second, roles.third]

/-- One orderable combination of items, in role order. -/
structure HardwareProfile where
  id : String
  items : List ProductItem
deriving BEq, Repr

instance : ToString HardwareProfile where
  toString profile := " / ".intercalate (profile.items.map (·.description))

/-- Whether the item has the wanted port speed; every item has when none is
wanted. -/
def ProductItem.matchesSpeed (item : ProductItem) : Option Nat → Bool
  | some speed => item.capacity == some (Float.ofNat speed)
  | none => true

/-- The items that can fill a role: the priced ones of its category, and for
the uplink only those of the wanted port speed. -/
def ProductPackage.roleItems (package : ProductPackage) (portSpeed : Option Nat)
    (category : String) : List ProductItem :=
  ((package.itemsIn category).filter (·.firstPrice?.isSome)).filter fun item =>
    category != Category.uplink || item.matchesSpeed portSpeed

/-- The id of a combination: its first prices joined by commas.  There is none
if an item has no price. -/
def hardwareId? (items : List ProductItem) : Option String :=
  (items.mapM ProductItem.firstPrice?).map fun prices => ",".intercalate (prices.map toString)

/-- The profile of three items. -/
def HardwareProfile.ofItems? (items : List ProductItem) : Option HardwareProfile :=
  (hardwareId? items).map (⟨·, items⟩)

/-- Every profile that the package offers for a kind of resource. -/
def ProductPackage.hardwareProfiles (package : ProductPackage) (kind : ResourceKind)
    (portSpeed : Option Nat) : List HardwareProfile :=
  let roles := ProfileRoles.ofKind kind
  (package.roleItems portSpeed roles.first).flatMap fun a =>
    (package.roleItems portSpeed roles.second).flatMap fun b =>
      (package.roleItems portSpeed roles.third).filterMap fun c =>
        HardwareProfile.ofItems? [a, b, c]

/-- The characters between the commas, at least one piece. -/
def splitAtCommas : List Char → List (List Char)
  | [] => [[]]
  | c :: rest =>
    if c = ',' then [] :: splitAtCommas rest
    else
      match splitAtCommas rest with
      | [] => [[c]]
      | piece :: pieces => (c :: piece) :: pieces

/-- The price that a text names: a numeral of 64 bits, with blanks around it. -/
def parsePriceId? (cs : List Char) : Option PriceId :=
  Text.numeral? Text.wordBound (Text.trimmed cs)

/-- The prices that the pieces of a hardware id name, or the first piece that
names none. -/
def parsePieces (hardwareId : String) : List (List Char) → Except ProfileFault (List PriceId)
  | [] => .ok []
  | piece :: pieces =>
    match parsePriceId? piece with
    | none => .error (.notAPriceId (String.ofList piece) hardwareId)
    | some price => (parsePieces hardwareId pieces).map (price :: ·)

/-- The prices that a hardware id stands for. -/
def parseHardwareId (hardwareId : String) : Except Error (List PriceId) :=
  if Text.isBlankText hardwareId then .error (.invalidProfile .emptyHardwareId)
  else (parsePieces hardwareId (splitAtCommas hardwareId.toList)).mapError .invalidProfile

end Provisioning
