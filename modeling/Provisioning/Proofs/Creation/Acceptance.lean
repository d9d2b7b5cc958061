import Provisioning.Proofs.Catalog.Ordering

/-!
# Which requests are ordered

An order costs money, so what a creation submits is settled before it submits
anything.  A request is acceptable if the package ships to its location, has an uplink
for it and its image and hardware name prices; any other request has a first fault, in
the order in which the checks are made (`Refused`), and `orderFor_cases` says that there
is no third case.

`create_decides` is the whole creation, with the lookup of its catalog: it submits one
order for an acceptable request, and otherwise it only looks the catalog up and fails
with the first fault.
-/

namespace Provisioning

variable {σ : Type}

/-! ## Requests -/

/-- The package ships to the location. -/
def ProductPackage.Ships (package : ProductPackage) (location : String) : Prop :=
  ∃ datacenter ∈ package.datacenters, datacenter.name = location

/-- A server needs no uplink, and a guest needs one of the configured speed that has a
price. -/
def ProductPackage.Uplinked (package : ProductPackage) (config : Config) : Prop :=
  config.kind = .bareMetal ∨ ∃ item ∈ package.itemsIn Category.uplink,
    item.matchesSpeed config.portSpeed = true ∧ item.firstPrice?.isSome = true

/-- The uplink of an order. -/
def Config.uplinkOf (config : Config) (package : ProductPackage) : Option PriceId :=
  match config.kind with
  | .bareMetal => none
  | .virtualGuest => package.uplinkPrice? config.portSpeed

/-- An order can be made up for the request. -/
structure Acceptable (config : Config) (package : ProductPackage) (wanted : CreateRequest) :
    Prop where
  ships : package.Ships wanted.location
  uplinked : package.Uplinked config
  image : ∃ price, parsePriceId? wanted.imageId.toList = some price
  hardware : ∃ prices, parseHardwareId wanted.hardwareId = .ok prices

/-- The first fault of a request, the outcome of the catalog included. -/
inductive Refused (config : Config) (wanted : CreateRequest) : RefreshOutcome → Error → Prop where
  | catalog (cause : Error) : Refused config wanted (.error cause) cause
  | location {package : ProductPackage} (elsewhere : ¬package.Ships wanted.location) :
    Refused config wanted (.ok package) (.notFound "location" wanted.location)
  | portSpeed {package : ProductPackage} (ships : package.Ships wanted.location)
      (unlinked : ¬package.Uplinked config) :
    Refused config wanted (.ok package)
      (.notFound "port speed" ((config.portSpeed.map toString).getD "any"))
  | image {package : ProductPackage} (ships : package.Ships wanted.location)
      (uplinked : package.Uplinked config) (unread : parsePriceId? wanted.imageId.toList = none) :
    Refused config wanted (.ok package) (.invalidProfile (.notAnImageId wanted.imageId))
  | hardware {package : ProductPackage} (ships : package.Ships wanted.location)
      (uplinked : package.Uplinked config) {price : PriceId}
      (image : parsePriceId? wanted.imageId.toList = some price) {fault : ProfileFault}
      (unread : parseHardwareId wanted.hardwareId = .error (.invalidProfile fault)) :
    Refused config wanted (.ok package) (.invalidProfile fault)

section Requests

variable {config : Config} {package : ProductPackage} {wanted : CreateRequest}

theorem Refused.not_acceptable {cause : Error} (h : Refused config wanted (.ok package) cause) :
    ¬Acceptable config package wanted := by
  intro acceptable
  cases h with
  | location elsewhere => exact elsewhere acceptable.ships
  | portSpeed ships unlinked => exact unlinked acceptable.uplinked
  | image ships uplinked unread =>
    obtain ⟨price, hprice⟩ := acceptable.image
    rw [unread] at hprice
    cases hprice
  | hardware ships uplinked image unread =>
    obtain ⟨prices, hprices⟩ := acceptable.hardware
    rw [unread] at hprices
    cases hprices

theorem ProductPackage.shipsTo_iff {location : String} :
    package.shipsTo location = true ↔ package.Ships location := by
  simp [shipsTo, Ships]

/-- The uplink is found just when there is one. -/
theorem orderUplink_of_uplinked (uplinked : package.Uplinked config) :
    orderUplink config package = .ok (config.uplinkOf package) := by
  refine orderUplink_eq_ok fun guest => ?_
  rcases uplinked with server | ⟨item, hitem, hspeed, hpriced⟩
  · rw [guest] at server
    cases server
  · exact uplinkPrice?_isSome hitem hspeed hpriced

theorem orderUplink_of_not_uplinked (unlinked : ¬package.Uplinked config) :
    orderUplink config package =
      .error (.notFound "port speed" ((config.portSpeed.map toString).getD "any")) := by
  unfold orderUplink
  cases hkind : config.kind with
  | bareMetal => exact absurd (.inl hkind) unlinked
  | virtualGuest =>
    cases hprice : package.uplinkPrice? config.portSpeed with
    | none => rfl
    | some price =>
      refine absurd (.inr ?_) unlinked
      obtain ⟨item, hitem, hfirst⟩ := List.exists_of_findSome?_eq_some hprice
      obtain ⟨hin, hspeed⟩ := List.mem_filter.mp hitem
      exact ⟨item, hin, hspeed, by rw [hfirst]; rfl⟩

/-- A hardware id that names no prices has a fault of its own. -/
theorem parseHardwareId_error {hardwareId : String} {cause : Error}
    (h : parseHardwareId hardwareId = .error cause) : ∃ fault, cause = .invalidProfile fault := by
  have told := parseHardwareId_eq_error h
  split at told
  · exact ⟨_, told⟩
  · obtain ⟨_, _, heq⟩ := told
    exact ⟨_, heq⟩

/-- The order for a request, when all that it is made up from is there. -/
def Config.orderOf (config : Config) (package : ProductPackage) (wanted : CreateRequest)
    (prices : List PriceId) : Order where
  packageId := package.id
  location := wanted.location
  prices := prices
  quantity := 1
  useHourlyPricing := true
  resource := ⟨wanted.hostname, wanted.domain.getD config.domain⟩

theorem orderFor_of_not_ships (elsewhere : ¬package.Ships wanted.location) :
    orderFor config package wanted = .error (.notFound "location" wanted.location) := by
  unfold orderFor
  rw [Bool.eq_false_iff.mpr (mt ProductPackage.shipsTo_iff.mp elsewhere)]
  rfl

theorem orderFor_of_ships (ships : package.Ships wanted.location) :
    orderFor config package wanted = (orderUplink config package).bind fun uplink =>
      (orderPrices wanted.imageId wanted.hardwareId uplink config.prices).bind fun prices =>
        .ok (config.orderOf package wanted prices) := by
  unfold orderFor
  rw [ProductPackage.shipsTo_iff.mpr ships]
  rfl

/-- Once the location and the uplink are there, only the prices can be missing. -/
theorem orderFor_of_uplinked (ships : package.Ships wanted.location)
    (uplinked : package.Uplinked config) :
    orderFor config package wanted =
      (orderPrices wanted.imageId wanted.hardwareId (config.uplinkOf package) config.prices).bind
        fun prices => .ok (config.orderOf package wanted prices) := by
  rw [orderFor_of_ships ships, orderUplink_of_uplinked uplinked]
  rfl

/-- A request is acceptable and has its order, or it has a first fault. -/
theorem orderFor_cases (config : Config) (package : ProductPackage) (wanted : CreateRequest) :
    (Acceptable config package wanted ∧ ∃ prices,
      orderPrices wanted.imageId wanted.hardwareId (config.uplinkOf package) config.prices =
        .ok prices ∧
      orderFor config package wanted = .ok (config.orderOf package wanted prices)) ∨
    ∃ cause, Refused config wanted (.ok package) cause ∧
      orderFor config package wanted = .error cause := by
  by_cases ships : package.Ships wanted.location
  swap
  · exact .inr ⟨_, .location ships, orderFor_of_not_ships ships⟩
  by_cases uplinked : package.Uplinked config
  swap
  · refine .inr ⟨_, .portSpeed ships uplinked, ?_⟩
    rw [orderFor_of_ships ships, orderUplink_of_not_uplinked uplinked]
    rfl
  rw [orderFor_of_uplinked ships uplinked, orderPrices, parseImageId]
  cases himage : parsePriceId? wanted.imageId.toList with
  | none => exact .inr ⟨_, .image ships uplinked himage, rfl⟩
  | some price =>
    cases hhardware : parseHardwareId wanted.hardwareId with
    | error cause =>
      obtain ⟨fault, rfl⟩ := parseHardwareId_error hhardware
      exact .inr ⟨_, .hardware ships uplinked himage hhardware, rfl⟩
    | ok prices =>
      exact .inl ⟨⟨ships, uplinked, ⟨price, himage⟩, ⟨prices, hhardware⟩⟩, _, rfl, rfl⟩

end Requests

/-! ## The whole creation -/

/-- A creation that has no order calls nothing. -/
theorem run_createFrom_error {config : Config} {package : ProductPackage} {wanted : CreateRequest}
    {cause : Error} (refused : orderFor config package wanted = .error cause) (v : Vendor σ)
    (start : Run σ) :
    (createFrom config package wanted).run.run v start = (.error cause, start) := by
  rw [createFrom, Procedure.run_bind, refused]
  rfl

/-- What settles a creation with these calls and this result: it submits an order just
when its request is acceptable, that order is the one of the request and there is no
other, and a request that is not acceptable fails with its first fault after calls for
the catalog only. -/
structure CreationDecided (config : Config) (wanted : CreateRequest) (catalog : RefreshOutcome)
    (calls : List Exchange) (result : Except Error CreatedNode) : Prop where
  submits : calls.filterMap Exchange.order? ≠ [] ↔
    ∃ package, catalog = .ok package ∧ Acceptable config package wanted
  once : ∀ package, catalog = .ok package → Acceptable config package wanted → ∃ prices,
    orderPrices wanted.imageId wanted.hardwareId (config.uplinkOf package) config.prices =
      .ok prices ∧
    calls.filterMap Exchange.order? = [config.orderOf package wanted prices]
  refused : (¬∃ package, catalog = .ok package ∧ Acceptable config package wanted) →
    (∀ x ∈ calls, x.call.operation.Browses) ∧
      ∃ cause, result = .error cause ∧ Refused config wanted catalog cause

/-- A creation that ends with the first fault of its request after looking the catalog
up. -/
theorem CreationDecided.of_refused {config : Config} {wanted : CreateRequest}
    {catalog : RefreshOutcome} {browsed : List Exchange} {cause : Error}
    (hbrowsed : ∀ x ∈ browsed, x.call.operation.Browses)
    (refused : Refused config wanted catalog cause) :
    CreationDecided config wanted catalog browsed (.error cause) := by
  have never : ¬∃ package, catalog = .ok package ∧ Acceptable config package wanted := by
    rintro ⟨package, rfl, acceptable⟩
    exact refused.not_acceptable acceptable
  have nothing := filterMap_order?_eq_nil id hbrowsed
  refine ⟨⟨fun h => absurd nothing h, fun h => absurd h never⟩, ?_, fun _ => ?_⟩
  · exact fun package hcatalog acceptable => absurd ⟨package, hcatalog, acceptable⟩ never
  · exact ⟨hbrowsed, cause, rfl, refused⟩

/-- A creation that submits the order of its request after looking the catalog up. -/
theorem CreationDecided.of_ordered {config : Config} {wanted : CreateRequest}
    {package : ProductPackage} {prices : List PriceId} {result : Except Error CreatedNode}
    (acceptable : Acceptable config package wanted)
    (priced : orderPrices wanted.imageId wanted.hardwareId (config.uplinkOf package)
      config.prices = .ok prices)
    {browsed later : List Exchange} (hbrowsed : ∀ x ∈ browsed, x.call.operation.Browses)
    (hlater : ∀ x ∈ later, x.call.operation.Looks) (time : Nat)
    (answer : (Call.submitOrder (config.orderOf package wanted prices)).Answer) :
    CreationDecided config wanted (.ok package)
      (browsed ++ ⟨time, .submitOrder (config.orderOf package wanted prices), answer⟩ :: later)
      result := by
  have orders : (browsed ++ ⟨time, .submitOrder (config.orderOf package wanted prices), answer⟩ ::
      later).filterMap Exchange.order? = [config.orderOf package wanted prices] := by
    rw [List.filterMap_append, filterMap_order?_eq_nil id hbrowsed, List.filterMap_cons,
      filterMap_order?_eq_nil id hlater]
    rfl
  refine ⟨⟨fun _ => ⟨package, rfl, acceptable⟩, fun _ => ?_⟩, ?_, fun h => ?_⟩
  · rw [orders]
    exact List.cons_ne_nil _ _
  · rintro _ ⟨⟩ -
    exact ⟨prices, priced, orders⟩
  · exact absurd ⟨package, rfl, acceptable⟩ h

/-- A creation is settled by the outcome of its catalog and by its request. -/
theorem run_create_decided (p : Provisioner) (wanted : CreateRequest) (catalog : RefreshOutcome)
    (v : Vendor σ) {start found : Run σ} {browsed : List Exchange}
    (looked : found.exchanges = start.exchanges ++ browsed)
    (hbrowsed : ∀ x ∈ browsed, x.call.operation.Browses) :
    let (result, ended) := ((p.create wanted).after catalog).run v found
    ∃ calls, ended.exchanges = start.exchanges ++ calls ∧
      CreationDecided p.config wanted catalog calls result := by
  cases catalog with
  | error cause => exact ⟨browsed, looked, .of_refused hbrowsed (.catalog cause)⟩
  | ok package =>
    show ∃ calls, ((createFrom p.config package wanted).run.run v found).2.exchanges = _ ∧
      CreationDecided _ _ _ _ ((createFrom p.config package wanted).run.run v found).1
    rcases orderFor_cases p.config package wanted with
      ⟨acceptable, prices, priced, ordered⟩ | ⟨cause, refused, failed⟩
    · obtain ⟨answer, later, heq, hlater⟩ := exchanges_createFrom ordered v found
      refine ⟨_, ?_, .of_ordered acceptable priced hbrowsed hlater found.now answer⟩
      rw [heq, looked, List.append_assoc]
    · rw [run_createFrom_error failed]
      exact ⟨browsed, looked, .of_refused hbrowsed refused⟩

/-- A creation submits an order if its request is acceptable, once, and otherwise none: it
then fails with the first fault after looking the catalog up.  So it does against any
vendor, whether a package is kept or the catalog is refreshed, and in a session. -/
theorem create_decides (wanted : CreateRequest) :
    (∀ {σ : Type} (p : Provisioner) (v : Vendor σ) (start : Run σ) (kept : Option ProductPackage),
      let (catalog, found) := (p.lookup kept).run v start
      let (result, ended) := ((p.create wanted).after catalog).run v found
      ∃ calls, ended.exchanges = start.exchanges ++ calls ∧
        CreationDecided p.config wanted catalog calls result) ∧
    ∀ session : Session,
      let (result, after) := session.perform (session.provisioner.create wanted)
      ∃ calls, after.run.exchanges = session.run.exchanges ++ calls ∧
        CreationDecided session.provisioner.config wanted session.catalog.1 calls result := by
  constructor
  · intro σ p v start kept
    obtain ⟨browsed, looked, hbrowsed⟩ := exchanges_lookup p kept v start
    exact run_create_decided p wanted _ v looked hbrowsed
  · intro session
    obtain ⟨kept, hkept⟩ := session.exists_lookup
    obtain ⟨browsed, looked, hbrowsed⟩ :=
      exchanges_lookup session.provisioner kept Simulator.asVendor session.run
    rw [hkept] at looked
    exact run_create_decided session.provisioner wanted session.catalog.1 Simulator.asVendor
      looked hbrowsed

end Provisioning
