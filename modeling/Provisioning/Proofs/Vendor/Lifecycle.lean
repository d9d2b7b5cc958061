import Provisioning.Proofs.Vendor.Cycles
import Provisioning.Proofs.Vendor.Saving

/-!
# The life of a vendor

A vendor that begins with the demonstration catalog and is then called, set to
other delays, saved and loaded in any order keeps its books straight
(`Lifecycle`).  Ids, orders and transactions are never used twice, scripts belong
to resources and have an end, and a resource has its addresses exactly when its
first script is over.

`Regular` is the invariant.  It is about what is saved, so a vendor that comes back
from its text is as regular as before.
-/

namespace Provisioning.Simulator

variable {s s' : Simulator}

/-! ## Operated vendors -/

/-- The controls that set how slow a vendor is and what it tells. -/
def Control.IsSetting : Control → Prop
  | .setDiscoveryDelay _ | .setApprovalDelay _ | .setEchoReceipts _ | .setWithholdPasswords _
  | .pushCatalogFault _ _ | .setCatalogLatency _ => True
  | _ => False

/-- The vendors that calls, settings and save-then-load lead to from the
demonstration catalog.  A call may also have come in and wait for its answer.
Saved numbers are words of 64 and of 32 bits, as they are in the vendor itself. -/
inductive Operated : Simulator → Prop
  | fresh (kind : ResourceKind) : Operated (withDemoCatalog kind)
  | called {s : Simulator} (h : Operated s) (c : Call) : Operated (s.call c).1
  | arrived {s : Simulator} (h : Operated s) (c : Call) : Operated (s.arrive c).1
  | set {s : Simulator} (h : Operated s) (control : Control) (setting : control.IsSetting) :
    Operated (s.control control)
  | reloaded {s s' : Simulator} (h : Operated s) (fits : s.Fits) (kind : ResourceKind)
    (loaded : load (.text s.save) kind = .ok s') : Operated s'

theorem Operated.reached (h : s.Operated) : s.Reached := by
  induction h with
  | fresh kind =>
    have started : load .missing kind = .ok (withDemoCatalog kind) := rfl
    exact .loaded started
  | called _ c ih => exact ih.called c
  | arrived _ c ih => exact ih.arrived c
  | set _ control _ ih => exact ih.controlled control
  | reloaded _ _ kind loaded _ => exact .loaded loaded

/-! ## Regular vendors -/

/-- The orders are numbered from 1000 on, without a gap. -/
def Counted (s : Simulator) : Prop :=
  ∃ count, s.nextOrderId = 1000 + count ∧ s.orders.map HeldOrder.id = List.range' 1000 count

/-- What every step keeps.  Nothing is said of the fields that are not saved, nor
of the kind, the delays and the flags. -/
structure Regular (s : Simulator) : Prop where
  orderly : s.Orderly
  started : 1 ≤ s.nextResourceId ∧ ∀ badge ∈ s.badges, 1 ≤ badge.id.value
  counted : s.Counted
  cycles : ∀ id, (s.holding id).InCycle
  serial : s.Serial
  offers : ∃ kind, s.catalog = some (Demo.catalog kind)

theorem regular_withDemoCatalog (kind : ResourceKind) : (withDemoCatalog kind).Regular where
  orderly := orderly_withDemoCatalog kind
  started := ⟨Nat.le_refl 1, fun _ h => absurd h List.not_mem_nil⟩
  counted := ⟨0, rfl, rfl⟩
  cycles _ := ⟨nofun, nofun, fun _ => nofun⟩
  serial := ⟨nofun, nofun, nofun⟩
  offers := ⟨kind, rfl⟩

/-- The other fields do not matter. -/
theorem Regular.frame (h : s.Regular) (kind : ResourceKind) (discoveryDelay approvalDelay : Nat)
    (echoReceipts withholdPasswords : Bool) (catalogFaults : List CatalogFault)
    (catalogLatencyMs : Nat) (calls : CallCounts) (submitted : List Order) :
    Regular { s with
      kind := kind
      discoveryDelay := discoveryDelay
      approvalDelay := approvalDelay
      echoReceipts := echoReceipts
      withholdPasswords := withholdPasswords
      catalogFaults := catalogFaults
      catalogLatencyMs := catalogLatencyMs
      calls := calls
      submitted := submitted } where
  orderly := ⟨h.orderly.tidy, h.orderly.unreserved, h.orderly.numbered, h.orderly.scripted,
    h.orderly.leftover⟩
  started := h.started
  counted := h.counted
  cycles id := ⟨(h.cycles id).held, (h.cycles id).bare, (h.cycles id).addressed⟩
  serial := ⟨h.serial.numbered, h.serial.apart, h.serial.lasting⟩
  offers := h.offers

theorem Regular.arrive (h : s.Regular) (c : Call) : (s.arrive c).1.Regular := by
  cases c <;> exact h.frame _ _ _ _ _ _ _ _ _

theorem Regular.set (h : s.Regular) {control : Control} (setting : control.IsSetting) :
    (s.control control).Regular := by
  cases control with
  | setCatalog | reserveId | scriptTransactions | insertResource | completeProvisioning =>
    exact setting.elim
  | _ => exact h.frame _ _ _ _ _ _ _ _ _

theorem Regular.reloaded (h : s.Regular) (kind : ResourceKind) : (s.reloaded kind).Regular :=
  h.frame _ _ _ _ _ _ _ _ _

/-! ## Calls -/

theorem Counted.placeOrder (h : s.Counted) (order : Order) : (s.placeOrder order).1.Counted := by
  obtain ⟨count, hnext, hids⟩ := h
  obtain ⟨_, _, _, _, hs, -⟩ := s.placeOrder_fst order
  rw [hs]
  refine ⟨count + 1, ?_, ?_⟩
  · show s.nextOrderId + 1 = _
    omega
  · show (s.orders ++ [HeldOrder.mk s.nextOrderId s.approvalDelay]).map HeldOrder.id = _
    rw [List.map_append, hids, hnext, List.range'_concat, Nat.one_mul]
    rfl

theorem Counted.checkOrder (h : s.Counted) (orderId : Nat) : (s.checkOrder orderId).1.Counted := by
  unfold Simulator.checkOrder
  split
  · exact h
  · split
    · exact h
    · obtain ⟨count, hnext, hids⟩ := h
      refine ⟨count, hnext, Eq.trans ?_ hids⟩
      exact map_changeFirst (·.id == orderId)
        (fun held : HeldOrder => { held with pendingFor := held.pendingFor - 1 }) HeldOrder.id
        (fun _ => rfl) s.orders

theorem Counted.call (h : s.Counted) (c : Call) : (s.call c).1.Counted := by
  by_cases submits : c.operation = .submitOrder
  · cases c with
    | submitOrder order =>
      have arrived : (s.arrive (.submitOrder order)).1.Counted := h
      exact arrived.placeOrder order
    | _ => cases submits
  by_cases checks : c.operation = .billingOrder
  · cases c with
    | billingOrder orderId =>
      have arrived : (s.arrive (.billingOrder orderId)).1.Counted := h
      exact arrived.checkOrder orderId
    | _ => cases checks
  obtain ⟨_, orders, _, _, _, _, heq, horders, -⟩ := s.call_frame submits
  rw [heq, horders checks]
  exact h

theorem Regular.call (h : s.Regular) (c : Call) : (s.call c).1.Regular where
  orderly := h.orderly.call c
  started := by
    obtain ⟨hnext, hids⟩ := h.started
    by_cases submits : c.operation = .submitOrder
    · cases c with
      | submitOrder order =>
        have unreserved : (s.arrive (.submitOrder order)).1.reservedIds = [] :=
          h.orderly.unreserved
        obtain ⟨hid, -, hnext'⟩ := placeOrder_of_unreserved unreserved order
        have hbadges := (s.arrive (.submitOrder order)).1.badges_placeOrder order
        rw [hid] at hbadges
        refine ⟨hnext'.symm ▸ Nat.le_succ_of_le hnext, fun badge hbadge => ?_⟩
        rcases List.mem_append.mp (hbadges ▸ hbadge) with hbadge | hbadge
        · exact hids badge hbadge
        · rw [List.mem_singleton.mp hbadge]
          exact hnext
      | _ => cases submits
    · obtain ⟨_, _, _, _, _, _, heq, -⟩ := s.call_frame submits
      refine ⟨by rw [heq]; exact hnext, fun badge hbadge => ?_⟩
      exact hids badge ((s.badges_call submits).subset hbadge)
  counted := h.counted.call c
  cycles := h.orderly.inCycle_call h.cycles c
  serial := (s.issues_call c).serial h.serial
  offers := by
    obtain ⟨kind, hcatalog⟩ := h.offers
    exact ⟨kind, (s.settings_call c).2.1.trans hcatalog⟩

/-! ## Saving -/

/-- The binary fractions of a regular vendor are those of the demonstration
catalog and the one duration that there is, and a text carries all of them. -/
theorem Regular.floats (h : s.Regular) (keyed : s.Keyed) :
    ∀ x ∈ s.floats, x.isFinite = true ∧ Json.carries x = true := by
  have lasting : Float.isFinite 1.5 = true ∧ Json.carries 1.5 = true := by decide +kernel
  have offered : ∀ kind, ∀ x ∈ (Demo.catalog kind).floats,
      x.isFinite = true ∧ Json.carries x = true := by
    intro kind
    cases kind <;> decide +kernel
  intro x hx
  rcases List.mem_append.mp hx with hx | hx
  · obtain ⟨⟨id, script⟩, hentry, hx⟩ := List.mem_flatMap.mp hx
    obtain ⟨shown, hshown, hx⟩ := List.mem_filterMap.mp hx
    obtain ⟨t, rfl, rfl⟩ := Option.map_eq_some_iff.mp hx
    have shows : s.Shows id t := ⟨script, keyed.scripts.find?_eq_some_iff.mpr hentry, hshown⟩
    rw [h.serial.lasting id t shows]
    exact lasting
  · obtain ⟨kind, hcatalog⟩ := h.offers
    rw [hcatalog] at hx
    obtain ⟨package, hpackage, hx⟩ := List.mem_flatMap.mp hx
    rw [Option.toList_some, List.mem_singleton] at hpackage
    rw [hpackage] at hx
    exact offered kind x hx

theorem Operated.regular (h : s.Operated) : s.Regular := by
  induction h with
  | fresh kind => exact regular_withDemoCatalog kind
  | called _ c ih => exact ih.call c
  | arrived _ c ih => exact ih.arrive c
  | set _ control setting ih => exact ih.set setting
  | reloaded h fits kind loaded ih =>
    have keyed := h.reached.keyed
    have carried := ih.floats keyed
    have read := load_text_save keyed fits (fun x hx => (carried x hx).1)
      (fun x hx => (carried x hx).2) kind
    cases read.symm.trans loaded
    exact ih.reloaded kind

/-! ## The theorem -/

/-- What is promised of a vendor.

* Ids are told apart, and so are billing items (`ids`, `numbered`, `items`).
* Order numbers are told apart (`orderIds`, `orders`).
* A script belongs to a resource and has an end (`scripts`).
* A resource has its addresses when its script is over and not before (`bare`,
  `addressed`).
* Transactions are numbered below the next one, each by one resource
  (`transactions`, `apart`). -/
structure Lifecycle (s : Simulator) : Prop where
  ids : (s.resources.map (·.resource.id)).Nodup
  numbered : ∀ held ∈ s.resources, 1 ≤ held.resource.id.value ∧
    held.resource.id.value < s.nextResourceId ∧
    held.resource.billingItemId = some (10 * held.resource.id.value + 1)
  items : (s.resources.map (·.resource.billingItemId)).Nodup
  orderIds : (s.orders.map (·.id)).Nodup
  orders : ∀ held ∈ s.orders, 1000 ≤ held.id ∧ held.id < s.nextOrderId
  scripts : ∀ entry ∈ s.scripts, (∃ held ∈ s.resources, held.resource.id = entry.1) ∧
    entry.2.entries ≠ [] ∧ entry.2.entries.getLast? = some none
  bare : ∀ held ∈ s.resources, ∀ script, (held.resource.id, script) ∈ s.scripts →
    script.outcome = .provisioned → held.resource.primaryIp = none ∧
      held.resource.primaryBackendIp = none ∧ held.resource.operatingSystem = none
  addressed : ∀ held ∈ s.resources, (∀ script, (held.resource.id, script) ∉ s.scripts) →
    held.resource.primaryIp.isSome = true ∧ held.resource.primaryBackendIp.isSome = true
  transactions : ∀ entry ∈ s.scripts, ∀ t, some t ∈ entry.2.entries → t.id < s.nextTransactionId
  apart : ∀ entry ∈ s.scripts, ∀ entry' ∈ s.scripts, ∀ t t', some t ∈ entry.2.entries →
    some t' ∈ entry'.2.entries → t.id = t'.id → entry.1 = entry'.1

/-- However a vendor is called, set, saved and loaded, its ids, orders, scripts,
addresses and transactions stay in step. -/
theorem lifecycle_of_operated (h : s.Operated) : s.Lifecycle := by
  have regular := h.regular
  have keyed := h.reached.keyed
  have found : ∀ {id script}, (id, script) ∈ s.scripts → s.scripts.find? id = some script :=
    fun hentry => keyed.scripts.find?_eq_some_iff.mpr hentry
  have held_found : ∀ held ∈ s.resources, (s.holding held.resource.id).resource =
      some held.resource := fun held hheld => regular.orderly.tidy.find?_of_mem hheld
  have hbadge : ∀ held ∈ s.resources, held.resource.badge ∈ s.badges :=
    fun held hheld => List.mem_map_of_mem hheld
  refine
    { ids := ?ids
      numbered := ?numbered
      items := ?items
      orderIds := ?orderIds
      orders := ?orders
      scripts := ?scripts
      bare := ?bare
      addressed := ?addressed
      transactions := ?transactions
      apart := ?apart }
  case ids =>
    have pairwise := List.pairwise_map.mp regular.orderly.tidy
    exact List.pairwise_map.mpr (pairwise.imp fun apart => apart.1)
  case numbered =>
    intro held hheld
    obtain ⟨hlt, hitem⟩ := regular.orderly.numbered _ (hbadge held hheld)
    refine ⟨regular.started.2 _ (hbadge held hheld), hlt, ?_⟩
    rw [Nat.mul_comm]
    exact hitem
  case items =>
    have pairwise := List.pairwise_map.mp regular.orderly.tidy
    refine List.pairwise_map.mpr (pairwise.imp_of_mem fun {a b} ha hb apart heq => ?_)
    have hitem := (regular.orderly.numbered _ (hbadge a ha)).2
    exact apart.2 _ hitem (heq.symm.trans hitem)
  case orderIds =>
    obtain ⟨count, -, hids⟩ := regular.counted
    show (s.orders.map HeldOrder.id).Nodup
    rw [hids]
    exact List.nodup_range'
  case orders =>
    obtain ⟨count, hnext, hids⟩ := regular.counted
    intro held hheld
    have hmem : held.id ∈ s.orders.map HeldOrder.id := List.mem_map_of_mem hheld
    rw [hids, List.mem_range'_1] at hmem
    omega
  case scripts =>
    rintro ⟨id, script⟩ hentry
    have hscript := found hentry
    obtain ⟨r, hr⟩ := Option.isSome_iff_exists.mp ((regular.cycles id).held script hscript)
    obtain ⟨held, hfind, -⟩ := Option.map_eq_some_iff.mp hr
    have hid := List.find?_some hfind
    obtain ⟨actives, -, hentries⟩ := regular.orderly.leftover id script hscript
    refine ⟨⟨held, List.mem_of_find?_eq_some hfind, beq_iff_eq.mp hid⟩, ?_, ?_⟩
    · rw [hentries]
      exact List.append_ne_nil_of_right_ne_nil _ (List.cons_ne_nil _ _)
    · rw [hentries]
      exact List.getLast?_concat
  case bare =>
    intro held hheld script hentry houtcome
    exact (regular.cycles _).bare script (found hentry) houtcome _ (held_found held hheld)
  case addressed =>
    intro held hheld none
    refine (regular.cycles _).addressed ?_ _ (held_found held hheld)
    refine Option.eq_none_iff_forall_ne_some.mpr fun script hscript => ?_
    exact none script (keyed.scripts.find?_eq_some_iff.mp hscript)
  case transactions =>
    rintro ⟨id, script⟩ hentry t ht
    exact regular.serial.numbered id t ⟨script, found hentry, ht⟩
  case apart =>
    rintro ⟨id, script⟩ hentry ⟨id', script'⟩ hentry' t t' ht ht'
    exact regular.serial.apart id id' t t' ⟨script, found hentry, ht⟩ ⟨script', found hentry', ht'⟩

/-- A server is ordered, the vendor is saved and loaded for guests, and the order
is cancelled. -/
theorem lifecycle_of_operated_cancelled :
    let wanted : Order := ⟨50, "dal05", [1921], 1, true, ⟨"web1", "example.com"⟩⟩
    let slow := (withDemoCatalog .bareMetal).control (.setDiscoveryDelay 2)
    let ordered := (slow.call (.submitOrder wanted)).1
    let cancelled := ((ordered.reloaded .virtualGuest).call (.cancelBillingItem 11)).1
    load (.text ordered.save) .virtualGuest = .ok (ordered.reloaded .virtualGuest) ∧
      cancelled.scripts.map (·.2.outcome) = [.removed] ∧ cancelled.Lifecycle := by
  intro wanted slow ordered cancelled
  have operated : ordered.Operated :=
    .called (.set (.fresh .bareMetal) (.setDiscoveryDelay 2) trivial) (.submitOrder wanted)
  have fits : ordered.Fits := by decide
  have carried := operated.regular.floats operated.reached.keyed
  have loaded := load_text_save operated.reached.keyed fits (fun x hx => (carried x hx).1)
    (fun x hx => (carried x hx).2) .virtualGuest
  refine ⟨loaded, rfl, lifecycle_of_operated (s := cancelled) ?_⟩
  exact .called (.reloaded operated fits .virtualGuest loaded) (.cancelBillingItem 11)

end Provisioning.Simulator
