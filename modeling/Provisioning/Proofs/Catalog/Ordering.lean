import Provisioning.Proofs.Catalog.Combinations
import Provisioning.Proofs.Catalog.PriceLines
import Provisioning.Proofs.Creation.Stages
import Provisioning.Proofs.Workflow.Looking
import Provisioning.Session

/-!
# What is listed can be ordered

A profile is listed under the prices of its items, joined by commas, and an image
under its price.  An order reads the prices back from these ids
(`parseHardwareId_intercalate`, `parseImageId_toString`), checks the location and
adds the uplink of a guest and the baseline.  So every combination that is listed
is one that an order can be made up from, and a creation submits that order and no
other (`listed_combination_is_ordered`).

`Config.listedPrices` says what is ordered in terms of the items.
-/

namespace Provisioning

variable {σ : Type}

/-! ## Price lines -/

/-- The prices of an order for an image and the items of a profile: those of the
items, the uplink of a guest and the baseline, each at its first place. -/
def Config.listedPrices (config : Config) (package : ProductPackage) (image : ProductItem)
    (items : List ProductItem) : List PriceId :=
  let uplink := match config.kind with
    | .bareMetal => none
    | .virtualGuest => package.uplinkPrice? config.portSpeed
  (image.firstPrice?.toList ++ items.filterMap (·.firstPrice?) ++ uplink.toList ++
    config.prices).eraseDups

/-- All prices are numbers of 64 bits. -/
def ProductPackage.PricesFit (package : ProductPackage) : Prop :=
  ∀ item ∈ package.items, ∀ price ∈ item.prices, price < Text.wordBound

/-! ## What is listed -/

section Listed

variable {package : ProductPackage} {portSpeed : Option Nat}

theorem ProductPackage.PricesFit.firstPrice (fits : package.PricesFit) {item : ProductItem}
    {price : PriceId} (hitem : item ∈ package.items) (hprice : item.firstPrice? = some price) :
    price < Text.wordBound :=
  fits item hitem price (List.mem_of_head? hprice)

/-- An image is the one of an operating system with a price. -/
theorem exists_of_mem_images {image : Image} (h : image ∈ package.images) :
    ∃ item ∈ package.itemsIn Category.operatingSystem, ∃ price,
      item.firstPrice? = some price ∧ image = ⟨toString price, item.id, item.description⟩ := by
  obtain ⟨item, hitem, himage⟩ := List.mem_filterMap.mp h
  obtain ⟨price, hprice, rfl⟩ := Option.map_eq_some_iff.mp himage
  exact ⟨item, hitem, price, hprice, rfl⟩

/-- A guest has an uplink if an item of the wanted speed has a price. -/
theorem uplinkPrice?_isSome {item : ProductItem} (hitem : item ∈ package.itemsIn Category.uplink)
    (matches' : item.matchesSpeed portSpeed = true) (priced : item.firstPrice?.isSome = true) :
    (package.uplinkPrice? portSpeed).isSome = true := by
  rw [ProductPackage.uplinkPrice?, List.findSome?_isSome_iff]
  exact ⟨item, List.mem_filter.mpr ⟨hitem, matches'⟩, priced⟩

end Listed

/-! ## The order -/

section Order

variable {config : Config} {package : ProductPackage} {wanted : CreateRequest}

theorem orderUplink_eq_ok
    (uplink : config.kind = .virtualGuest → (package.uplinkPrice? config.portSpeed).isSome = true) :
    orderUplink config package = .ok (match config.kind with
      | .bareMetal => none
      | .virtualGuest => package.uplinkPrice? config.portSpeed) := by
  unfold orderUplink
  cases hkind : config.kind with
  | bareMetal => rfl
  | virtualGuest =>
    obtain ⟨price, hprice⟩ := Option.isSome_iff_exists.mp (uplink hkind)
    simp only [hprice]

/-- The order for an image and a profile that are listed. -/
theorem orderFor_listed (fits : package.PricesFit) {system : ProductItem} {imagePrice : PriceId}
    (hsystem : system ∈ package.items) (himage : system.firstPrice? = some imagePrice)
    (himageId : wanted.imageId = toString imagePrice) {profile : HardwareProfile}
    (hprofile : profile ∈ package.hardwareProfiles config.kind config.portSpeed)
    (hhardwareId : wanted.hardwareId = profile.id)
    (hlocation : package.shipsTo wanted.location = true)
    (uplink : config.kind = .virtualGuest → (package.uplinkPrice? config.portSpeed).isSome = true) :
    ∃ order, orderFor config package wanted = .ok order ∧
      order.prices = config.listedPrices package system profile.items := by
  obtain ⟨a, ha, b, hb, c, hc, hitems, hid⟩ := items_of_mem_hardwareProfiles hprofile
  have filled : ∀ item ∈ profile.items, item ∈ package.items := by
    rw [hitems]
    simp only [List.mem_cons, List.not_mem_nil, or_false, forall_eq_or_imp, forall_eq]
    exact ⟨(List.mem_filter.mp (priced_of_mem_roleItems ha).1).1,
      (List.mem_filter.mp (priced_of_mem_roleItems hb).1).1,
      (List.mem_filter.mp (priced_of_mem_roleItems hc).1).1⟩
  have priced : profile.items.filterMap (·.firstPrice?) ≠ [] := by
    obtain ⟨price, hprice⟩ := (priced_of_mem_roleItems ha).2
    rw [hitems, List.filterMap_cons_some hprice]
    exact List.cons_ne_nil _ _
  have hardware : parseHardwareId wanted.hardwareId =
      .ok (profile.items.filterMap (·.firstPrice?)) := by
    rw [hhardwareId, hid]
    refine parseHardwareId_intercalate priced fun price hprice => ?_
    obtain ⟨item, hitem, hprice⟩ := List.mem_filterMap.mp hprice
    exact fits.firstPrice (filled item hitem) hprice
  have image : parseImageId wanted.imageId = .ok imagePrice := by
    rw [himageId]
    exact parseImageId_toString (fits.firstPrice hsystem himage)
  have prices : orderPrices wanted.imageId wanted.hardwareId
      (match config.kind with
        | .bareMetal => none
        | .virtualGuest => package.uplinkPrice? config.portSpeed) config.prices =
      .ok (config.listedPrices package system profile.items) := by
    rw [orderPrices_eq_ok image hardware, firstOccurrences_nil_seen, Config.listedPrices, himage,
      candidatePrices, List.append_assoc, List.append_assoc, List.append_assoc]
    rfl
  refine ⟨⟨package.id, wanted.location, config.listedPrices package system profile.items, 1, true,
    ⟨wanted.hostname, wanted.domain.getD config.domain⟩⟩, ?_, rfl⟩
  unfold orderFor
  rw [hlocation, orderUplink_eq_ok uplink]
  show (orderPrices _ _ _ _).bind _ = _
  rw [prices]
  rfl

end Order

/-! ## The creation -/

/-- The order that an exchange submits, if it submits one. -/
def Exchange.order? (exchange : Exchange) : Option Order :=
  match exchange.call with
  | .submitOrder order => some order
  | _ => none

/-- The orders that were submitted in a run, in order. -/
def Run.orders (run : Run σ) : List Order :=
  run.exchanges.filterMap Exchange.order?

/-- Calls of operations that submit nothing. -/
theorem filterMap_order?_eq_nil {asked : Operation → Prop} (submits : ¬asked .submitOrder)
    {calls : List Exchange} (h : ∀ x ∈ calls, asked x.call.operation) :
    calls.filterMap Exchange.order? = [] := by
  refine List.filterMap_eq_nil_iff.mpr fun x hx => ?_
  have known := h x hx
  obtain ⟨time, call, answer⟩ := x
  cases call with
  | submitOrder order => exact absurd known submits
  | _ => rfl

/-- The calls begin as they should, and the others are of these operations. -/
def Journal.GoesOn (Begins : List Exchange → Prop) (asked : Operation → Prop) (j : Journal) :
    Prop :=
  ∃ before later, Begins before ∧ j.exchanges = before ++ later ∧
    ∀ x ∈ later, asked x.call.operation

theorem Surroundings.keeps_goesOn (Begins : List Exchange → Prop) (asked : Operation → Prop) :
    anyVendor.Keeps asked (Journal.GoesOn Begins asked) where
  allows _ _ := trivial
  answers {j call answer _} known_asked known answered := by
    obtain ⟨before, later, begins, heq, hlater⟩ := known
    obtain ⟨delay, rfl⟩ := answered
    refine ⟨before, later ++ [⟨j.now, call, answer⟩], begins, ?_, ?_⟩
    · rw [heq, List.append_assoc]
    · intro x hx
      rcases List.mem_append.mp hx with hmem | hmem
      · exact hlater x hmem
      · rw [List.mem_singleton.mp hmem]
        exact known_asked
  passes known passed := by
    rw [passed]
    exact known

/-- A creation that has its order submits it, and then it only looks. -/
theorem exchanges_createFrom {config : Config} {package : ProductPackage} {wanted : CreateRequest}
    {order : Order} (ordered : orderFor config package wanted = .ok order) (v : Vendor σ)
    (start : Run σ) :
    ∃ answer later, ((createFrom config package wanted).run.run v start).2.exchanges =
        start.exchanges ++ ⟨start.now, .submitOrder order, answer⟩ :: later ∧
      ∀ x ∈ later, x.call.operation.Looks := by
  let Submitted (before : List Exchange) : Prop :=
    ∃ answer, before = start.exchanges ++ [⟨start.now, .submitOrder order, answer⟩]
  have assured : (createFrom config package wanted).Assures .anyVendor
      (fun _ j => j.GoesOn Submitted Operation.Looks)
      (fun _ j => j.GoesOn Submitted Operation.Looks) start.journal := by
    refine (Surroundings.keeps_goesOn Submitted _).createFrom (fun order' ordered' => ?_)
      fun cause failed => ?_
    · cases ordered.symm.trans ordered'
      refine ⟨trivial, fun answer j answered => ?_⟩
      obtain ⟨delay, rfl⟩ := answered
      refine ⟨start.exchanges ++ [⟨start.now, .submitOrder order, answer⟩], [], ⟨answer, rfl⟩, ?_,
        fun x hx => absurd hx List.not_mem_nil⟩
      rw [List.append_nil]
      rfl
    · cases ordered.symm.trans failed
  have goesOn : (createFrom config package wanted).run.Assures .anyVendor
      (fun _ j => j.GoesOn Submitted Operation.Looks) start.journal :=
    Workflow.Assures.mono assured fun result _ h => by cases result <;> exact h
  obtain ⟨_, later, ⟨answer, rfl⟩, heq, hlater⟩ := goesOn.run_anyVendor v start
  exact ⟨answer, later, heq.trans (List.append_assoc _ _ _), hlater⟩

/-- The lookup of the catalog, with the package that is kept if one is. -/
def Provisioner.lookup (p : Provisioner) : Option ProductPackage → Workflow RefreshOutcome
  | some package => .done (.ok package)
  | none => refreshCatalog p.config.packageName p.config.polling.catalogRetry

theorem exchanges_lookup (p : Provisioner) (kept : Option ProductPackage) (v : Vendor σ)
    (start : Run σ) :
    ∃ browsed, ((p.lookup kept).run v start).2.exchanges = start.exchanges ++ browsed ∧
      ∀ x ∈ browsed, x.call.operation.Browses := by
  have known : start.journal.GoesOn (· = start.exchanges) Operation.Browses :=
    ⟨_, [], rfl, (List.append_nil _).symm, fun x hx => absurd hx List.not_mem_nil⟩
  have assured : (p.lookup kept).Assures .anyVendor
      (fun _ j => j.GoesOn (· = start.exchanges) Operation.Browses) start.journal := by
    cases kept with
    | some package => exact known
    | none => exact (Surroundings.keeps_goesOn _ _).refreshCatalog known
  obtain ⟨_, browsed, rfl, heq, hbrowsed⟩ := assured.run_anyVendor v start
  exact ⟨browsed, heq, hbrowsed⟩

/-- The lookup of a session is one of its provisioner. -/
theorem Session.exists_lookup (session : Session) :
    ∃ kept, (session.provisioner.lookup kept).run Simulator.asVendor session.run =
      (session.catalog.1, session.catalog.2.run) := by
  unfold Session.catalog
  dsimp only
  split
  · rename_i package _
    exact ⟨some package, rfl⟩
  · exact ⟨none, rfl⟩

/-- A creation submits the order that it can make up, once. -/
theorem orders_createFrom {config : Config} {package : ProductPackage} {wanted : CreateRequest}
    {order : Order} (ordered : orderFor config package wanted = .ok order) (v : Vendor σ)
    (start : Run σ) :
    ((createFrom config package wanted).run.run v start).2.orders = start.orders ++ [order] := by
  obtain ⟨answer, later, heq, hlater⟩ := exchanges_createFrom ordered v start
  rw [Run.orders, heq, List.filterMap_append, List.filterMap_cons,
    filterMap_order?_eq_nil id hlater]
  rfl

/-- The lookup of the catalog submits nothing. -/
theorem Session.orders_catalog (session : Session) :
    session.catalog.2.run.orders = session.run.orders := by
  obtain ⟨kept, hkept⟩ := session.exists_lookup
  obtain ⟨browsed, heq, hbrowsed⟩ :=
    exchanges_lookup session.provisioner kept Simulator.asVendor session.run
  rw [hkept] at heq
  rw [Run.orders, heq, List.filterMap_append, filterMap_order?_eq_nil id hbrowsed,
    List.append_nil]
  rfl

/-- Every combination that is listed can be ordered.  An image, a hardware profile and
a datacenter of a package name an order that passes every check.  A guest also needs an
uplink of the configured speed that has a price.

A creation submits that order and no other: with the package at hand against any
vendor, and in a session whose lookup of the catalog brings the package. -/
theorem listed_combination_is_ordered (p : Provisioner) {package : ProductPackage}
    (fits : package.PricesFit) {image : Image} (himage : image ∈ package.images)
    {profile : HardwareProfile}
    (hprofile : profile ∈ package.hardwareProfiles p.config.kind p.config.portSpeed)
    {datacenter : Datacenter} (hdatacenter : datacenter ∈ package.datacenters)
    (uplink : p.config.kind = .virtualGuest → ∃ item ∈ package.itemsIn Category.uplink,
      item.matchesSpeed p.config.portSpeed = true ∧ item.firstPrice?.isSome = true)
    {wanted : CreateRequest} (himageId : wanted.imageId = image.id)
    (hhardwareId : wanted.hardwareId = profile.id) (hlocation : wanted.location = datacenter.name) :
    let roles := ProfileRoles.ofKind p.config.kind
    ∃ system ∈ package.itemsIn Category.operatingSystem, Image.ofItem? system = some image ∧
      ∃ a b c, profile.items = [a, b, c] ∧ a ∈ package.itemsIn roles.first ∧
        b ∈ package.itemsIn roles.second ∧ c ∈ package.itemsIn roles.third ∧
        (∀ item ∈ profile.items, item.firstPrice?.isSome = true) ∧
        ∃ order, orderFor p.config package wanted = .ok order ∧
          order.prices = p.config.listedPrices package system profile.items ∧
          (∀ {σ : Type} (v : Vendor σ) (start : Run σ),
            (((p.create wanted).after (.ok package)).run v start).2.orders =
              start.orders ++ [order]) ∧
          ∀ session : Session, session.provisioner = p → session.catalog.1 = .ok package →
            (session.perform (p.create wanted)).2.run.orders = session.run.orders ++ [order] := by
  intro roles
  obtain ⟨system, hsystem, price, hprice, rfl⟩ := exists_of_mem_images himage
  obtain ⟨a, ha, b, hb, c, hc, hitems, -⟩ := items_of_mem_hardwareProfiles hprofile
  have ships : package.shipsTo wanted.location = true := by
    rw [ProductPackage.shipsTo, List.any_eq_true]
    exact ⟨datacenter, hdatacenter, beq_iff_eq.mpr hlocation.symm⟩
  have uplinked : p.config.kind = .virtualGuest →
      (package.uplinkPrice? p.config.portSpeed).isSome = true := by
    intro hguest
    obtain ⟨item, hitem, hspeed, hpriced⟩ := uplink hguest
    exact uplinkPrice?_isSome hitem hspeed hpriced
  obtain ⟨order, hordered, hprices⟩ := orderFor_listed fits (List.mem_filter.mp hsystem).1 hprice
    himageId hprofile hhardwareId ships uplinked
  have priced : ∀ item ∈ profile.items, item.firstPrice?.isSome = true := by
    rw [hitems]
    simp only [List.mem_cons, List.not_mem_nil, or_false, forall_eq_or_imp, forall_eq,
      Option.isSome_iff_exists]
    exact ⟨(priced_of_mem_roleItems ha).2, (priced_of_mem_roleItems hb).2,
      (priced_of_mem_roleItems hc).2⟩
  refine ⟨system, hsystem, by rw [Image.ofItem?, hprice]; rfl, a, b, c, hitems,
    (priced_of_mem_roleItems ha).1, (priced_of_mem_roleItems hb).1, (priced_of_mem_roleItems hc).1,
    priced, order, hordered, hprices, fun v start => orders_createFrom hordered v start, ?_⟩
  intro session hprovisioner hcatalog
  rw [← session.orders_catalog]
  show ((p.create wanted).after session.catalog.1 |>.run _ session.catalog.2.run).2.orders = _
  rw [hcatalog]
  exact orders_createFrom hordered _ _

/-- A guest from the demonstration catalog, with the uplink of 10 megabits. -/
theorem listed_combination_is_ordered_guest :
    let p : Provisioner := ⟨{ kind := .virtualGuest }, by decide⟩
    let wanted : CreateRequest := ⟨"web1", none, "dal05", "17438", "1640,1644,2202"⟩
    ∃ order : Order,
      order.prices = [17438, 1640, 1644, 2202, 272, 21, 55, 57, 58, 1800, 905, 418, 420] ∧
      ∀ (v : Vendor Simulator) (start : Run Simulator),
        (((p.create wanted).after (.ok (Demo.catalog .virtualGuest))).run v start).2.orders =
          start.orders ++ [order] := by
  intro p wanted
  have fits : (Demo.catalog .virtualGuest).PricesFit := by
    intro item hitem price hprice
    have small : ∀ item ∈ (Demo.catalog .virtualGuest).items, ∀ price ∈ item.prices,
        price < 20000 := by decide
    exact Nat.lt_trans (small item hitem price hprice) (by decide)
  have himage : (⟨"17438", 30, "Ubuntu Linux 12.04 LTS Precise Pangolin - Minimal Install (64 bit)"⟩ :
      Image) ∈ (Demo.catalog .virtualGuest).images := by decide
  have hprofile : (⟨"1640,1644,2202",
      [Demo.item 40 "1 x 2.0 GHz Core" Category.guestCores (some 1.0) 1640,
       Demo.item 50 "1 GB" Category.memory (some 1.0) 1644,
       Demo.item 60 "25 GB (SAN)" Category.guestDisk (some 25.0) 2202]⟩ : HardwareProfile) ∈
      (Demo.catalog .virtualGuest).hardwareProfiles .virtualGuest (some 10) :=
    List.mem_cons_self
  have hdatacenter : (⟨3, "dal05", some "Dallas 5"⟩ : Datacenter) ∈
      (Demo.catalog .virtualGuest).datacenters := by decide
  have uplink : ∃ item ∈ (Demo.catalog .virtualGuest).itemsIn Category.uplink,
      item.matchesSpeed (some 10) = true ∧ item.firstPrice?.isSome = true := by decide +kernel
  obtain ⟨_, _, _, _, _, _, _, _, _, _, _, order, hordered, -, hcreated, -⟩ :=
    listed_combination_is_ordered p fits himage hprofile hdatacenter (fun _ => uplink)
      (show wanted.imageId = _ from rfl) rfl rfl
  refine ⟨order, ?_, fun v start => hcreated v start⟩
  have hprices : (orderFor p.config (Demo.catalog .virtualGuest) wanted).map (·.prices) =
      .ok [17438, 1640, 1644, 2202, 272, 21, 55, 57, 58, 1800, 905, 418, 420] := by decide +kernel
  rw [hordered] at hprices
  exact Except.ok.inj hprices

end Provisioning
