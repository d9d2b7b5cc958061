import Provisioning.Proofs.Console.Jobs
import Provisioning.Proofs.Vendor.Alone
import Provisioning.Proofs.Vendor.Lifecycle

/-!
# Room for more orders

The counters of a vendor are saved as numbers of 64 bits.  A vendor `HasRoom` for so
many more orders and cancellations if everything that it holds can be saved and its
counters stay in bounds that long.  Only orders and cancellations use up room
(`HasRoom.call`, `HasRoom.books`), so a vendor with room is one that can be saved and
loaded after any such calls.  A vendor that was loaded has room if its counters and its
fractions allow it (`hasRoom_of_load`).
-/

namespace Provisioning

/-- Finite, and carried by its text. -/
def StorableFloat (x : Float) : Prop :=
  x.isFinite = true ∧ Json.carries x = true
deriving Decidable

/-- The transactions to come have numbers of 64 bits and durations that a text
carries. -/
def Script.Storable (script : Script) : Prop :=
  ∀ shown ∈ script.entries, ∀ t ∈ shown, t.Fits ∧ StorableFloat t.averageDuration

theorem Transaction.storable_new {number : Nat} (h : number < Text.wordBound) (name : String) :
    Transaction.Fits ⟨number, name, 0, 1.5⟩ ∧ StorableFloat 1.5 :=
  ⟨⟨h, (by decide : 0 < Text.wordBound)⟩, by decide +kernel⟩

namespace Script.Storable

variable {script : Script}

theorem provisioning {number : Nat} (h : number + 1 < Text.wordBound) :
    (Script.provisioning number).Storable := by
  intro shown hshown t ht
  simp only [Script.provisioning, List.mem_cons, List.not_mem_nil, or_false] at hshown
  obtain rfl | rfl | rfl | rfl := hshown
  · cases ht
    exact Transaction.storable_new (Nat.lt_of_succ_lt h) _
  · cases ht
    exact Transaction.storable_new h _
  · cases ht
    exact Transaction.storable_new h _
  · cases ht

theorem decommission {number : Nat} (h : number < Text.wordBound) :
    (Script.decommission number).Storable := by
  intro shown hshown t ht
  simp only [Script.decommission, List.mem_cons, List.not_mem_nil, or_false] at hshown
  obtain rfl | rfl | rfl := hshown
  · cases ht
    exact Transaction.storable_new h _
  · cases ht
    exact Transaction.storable_new h _
  · cases ht

theorem tail (h : script.Storable) :
    Script.Storable { script with entries := script.entries.tail } :=
  fun shown hshown => h shown (List.mem_of_mem_tail hshown)

end Script.Storable

namespace Simulator

/-- The counters stay in bounds for so many more orders and cancellations, and the binary
fractions are finite and carried by their texts. -/
structure Spares (room : Nat) (s : Simulator) : Prop where
  floats : ∀ x ∈ s.floats, StorableFloat x
  reservedIds : ∀ entry ∈ s.reservedIds, entry.2.value * 10 + 1 < Text.wordBound
  resourceIds : (s.nextResourceId + room) * 10 + 1 < Text.wordBound
  orderIds : s.nextOrderId + room < Text.wordBound
  transactionIds : s.nextTransactionId + 2 * room < Text.wordBound

/-- Everything can be saved, and the counters stay in bounds for so many more orders
and cancellations. -/
structure HasRoom (room : Nat) (s : Simulator) : Prop where
  keyed : s.Keyed
  resources : ∀ held ∈ s.resources, held.resource.Fits ∧ held.hiddenFor < Text.halfBound
  orders : ∀ held ∈ s.orders, held.id < Text.wordBound ∧ held.pendingFor < Text.halfBound
  scripts : ∀ entry ∈ s.scripts, entry.1.value < Text.wordBound ∧ entry.2.Storable
  reservedIds : ∀ entry ∈ s.reservedIds, entry.2.value * 10 + 1 < Text.wordBound
  catalog : ∀ package ∈ s.catalog, package.Fits ∧ ∀ x ∈ package.floats, StorableFloat x
  discoveryDelay : s.discoveryDelay < Text.halfBound
  approvalDelay : s.approvalDelay < Text.halfBound
  resourceIds : (s.nextResourceId + room) * 10 + 1 < Text.wordBound
  orderIds : s.nextOrderId + room < Text.wordBound
  transactionIds : s.nextTransactionId + 2 * room < Text.wordBound

namespace HasRoom

variable {s : Simulator} {room : Nat}

theorem fits (h : s.HasRoom room) : s.Fits where
  resources := h.resources
  orders := h.orders
  scripts entry hentry := ⟨(h.scripts entry hentry).1,
    fun shown hshown t ht => ((h.scripts entry hentry).2 shown hshown t ht).1⟩
  reservedIds entry hentry := by have := h.reservedIds entry hentry; omega
  catalog package hpackage := (h.catalog package hpackage).1
  nextResourceId := by have := h.resourceIds; omega
  nextOrderId := Nat.lt_of_le_of_lt (Nat.le_add_right _ _) h.orderIds
  nextTransactionId := Nat.lt_of_le_of_lt (Nat.le_add_right _ _) h.transactionIds
  discoveryDelay := h.discoveryDelay
  approvalDelay := h.approvalDelay

theorem floats (h : s.HasRoom room) : ∀ x ∈ s.floats, StorableFloat x := by
  intro x hx
  rcases List.mem_append.mp hx with hx | hx
  · obtain ⟨entry, hentry, hx⟩ := List.mem_flatMap.mp hx
    obtain ⟨shown, hshown, hx⟩ := List.mem_filterMap.mp hx
    obtain ⟨t, rfl, rfl⟩ := Option.map_eq_some_iff.mp hx
    exact ((h.scripts entry hentry).2 _ hshown t rfl).2
  · obtain ⟨package, hpackage, hx⟩ := List.mem_flatMap.mp hx
    exact (h.catalog package (Option.mem_toList.mp hpackage)).2 x hx

/-- A vendor with room is read back from its text. -/
theorem load_saved (h : s.HasRoom room) (kind : ResourceKind) :
    load (.text s.save) kind = .ok (s.reloaded kind) :=
  load_text_save h.keyed h.fits (fun x hx => (h.floats x hx).1) (fun x hx => (h.floats x hx).2) kind

/-- Of a vendor that fits, only the counters and the fractions matter. -/
theorem of_spares (keyed : s.Keyed) (fits : s.Fits) (spares : s.Spares room) : s.HasRoom room where
  keyed := keyed
  resources := fits.resources
  orders := fits.orders
  scripts entry hentry := by
    obtain ⟨hid, hfits⟩ := fits.scripts entry hentry
    refine ⟨hid, fun shown hshown t ht => ⟨hfits shown hshown t ht, spares.floats _ ?_⟩⟩
    refine List.mem_append_left _ (List.mem_flatMap.mpr ⟨entry, hentry, ?_⟩)
    exact List.mem_filterMap.mpr ⟨shown, hshown, congrArg _ ht⟩
  reservedIds := spares.reservedIds
  catalog package hpackage := by
    refine ⟨fits.catalog package hpackage, fun x hx => spares.floats x ?_⟩
    refine List.mem_append_right _ (List.mem_flatMap.mpr ⟨package, ?_, hx⟩)
    exact Option.mem_toList.mpr hpackage
  discoveryDelay := fits.discoveryDelay
  approvalDelay := fits.approvalDelay
  resourceIds := spares.resourceIds
  orderIds := spares.orderIds
  transactionIds := spares.transactionIds

theorem spares (h : s.HasRoom room) : s.Spares room where
  floats := h.floats
  reservedIds := h.reservedIds
  resourceIds := h.resourceIds
  orderIds := h.orderIds
  transactionIds := h.transactionIds

/-- Room may be left unused. -/
theorem mono (h : s.HasRoom room) {less : Nat} (le : less ≤ room) : s.HasRoom less :=
  { h with
    resourceIds := by have := h.resourceIds; omega
    orderIds := by have := h.orderIds; omega
    transactionIds := by have := h.transactionIds; omega }

theorem reloaded (h : s.HasRoom room) (kind : ResourceKind) : (s.reloaded kind).HasRoom room :=
  { h with keyed := ⟨h.keyed.scripts, h.keyed.reservedIds⟩ }

theorem withDemoCatalog (kind : ResourceKind) (h : room < 0x1000000000000000) :
    (Simulator.withDemoCatalog kind).HasRoom room where
  keyed := ⟨Lookup.apart_nil, Lookup.apart_nil⟩
  resources _ h := absurd h List.not_mem_nil
  orders _ h := absurd h List.not_mem_nil
  scripts _ h := absurd h List.not_mem_nil
  reservedIds _ h := absurd h List.not_mem_nil
  catalog package hpackage := by
    cases hpackage
    refine ⟨?_, ?_⟩
    · cases kind <;> decide
    · unfold StorableFloat
      cases kind <;> decide +kernel
  discoveryDelay := (by decide : 0 < Text.halfBound)
  approvalDelay := (by decide : 0 < Text.halfBound)
  resourceIds := by
    show (1 + room) * 10 + 1 < 0x10000000000000000
    omega
  orderIds := by
    show 1000 + room < 0x10000000000000000
    omega
  transactionIds := by
    show 1 + 2 * room < 0x10000000000000000
    omega

/-! ## Calls -/

theorem arrive (h : s.HasRoom room) (c : Call) : (s.arrive c).1.HasRoom room := by
  cases c <;> exact { h with keyed := ⟨h.keyed.scripts, h.keyed.reservedIds⟩ }

/-- A change that leaves the numbers of a resource alone. -/
theorem change (h : s.HasRoom room) (id : ResourceId) {f : Resource → Resource}
    (keeps : ∀ r, r.Fits → (f r).Fits) : (s.change id f).HasRoom room :=
  { h with
    keyed := ⟨h.keyed.scripts, h.keyed.reservedIds⟩
    resources := of_mem_changeFirst (fun _ hheld => ⟨keeps _ hheld.1, hheld.2⟩) h.resources }

theorem finishCycle (h : s.HasRoom room) (id : ResourceId) (outcome : CycleOutcome) :
    (s.finishCycle id outcome).HasRoom room := by
  cases outcome with
  | provisioned => exact h.change id fun r hr => ⟨hr.id, hr.billingItem, hr.datacenter⟩
  | removed =>
    exact { h with
      keyed := ⟨h.keyed.scripts, h.keyed.reservedIds⟩
      resources := fun held hheld => h.resources held (List.mem_filter.mp hheld).1 }

theorem checkOrder (h : s.HasRoom room) (orderId : Nat) :
    (s.checkOrder orderId).1.HasRoom room := by
  unfold Simulator.checkOrder
  split
  · exact h
  · split
    · exact h
    · exact { h with
        keyed := ⟨h.keyed.scripts, h.keyed.reservedIds⟩
        orders := of_mem_changeFirst
          (fun _ hheld => ⟨hheld.1, Nat.lt_of_le_of_lt (Nat.sub_le _ _) hheld.2⟩) h.orders }

theorem listDirectory (h : s.HasRoom room) : s.listDirectory.1.HasRoom room :=
  { h with
    keyed := ⟨h.keyed.scripts, h.keyed.reservedIds⟩
    resources := by
      intro held hheld
      obtain ⟨before, hbefore, rfl⟩ := List.mem_map.mp hheld
      obtain ⟨hfits, hhidden⟩ := h.resources before hbefore
      exact ⟨hfits, Nat.lt_of_le_of_lt (Nat.sub_le _ _) hhidden⟩ }

theorem nextTransaction (h : s.HasRoom room) (id : ResourceId) :
    (s.nextTransaction id).1.HasRoom room := by
  unfold Simulator.nextTransaction
  split
  · exact h
  · rename_i script hscript
    obtain ⟨hid, hstorable⟩ := h.scripts _ (Lookup.mem_of_find?_eq_some hscript)
    dsimp only
    split
    · refine HasRoom.finishCycle ?_ id script.outcome
      exact { h with
        keyed := ⟨h.keyed.scripts.remove id, h.keyed.reservedIds⟩
        scripts := Lookup.forall_remove h.scripts id }
    · exact { h with
        keyed := ⟨h.keyed.scripts.put id _, h.keyed.reservedIds⟩
        scripts := Lookup.forall_put h.scripts ⟨hid, hstorable.tail⟩ }

theorem setPower (h : s.HasRoom room) (id : ResourceId) (power : String) :
    (s.setPower id power).1.HasRoom room := by
  unfold Simulator.setPower
  split
  · exact h
  · exact HasRoom.change (f := .inStatus power) h id
      fun r hr => ⟨hr.id, hr.billingItem, hr.datacenter⟩

/-- Calls that book nothing use up no room. -/
theorem call (h : s.HasRoom room) {c : Call} (books : ¬c.operation.Books) :
    (s.call c).1.HasRoom room := by
  have arrived := h.arrive c
  cases c with
  | submitOrder | cancelBillingItem => exact absurd trivial books
  | billingOrder orderId => exact arrived.checkOrder orderId
  | getResource id => exact arrived
  | listResources => exact arrived.listDirectory
  | activeTransaction id => exact arrived.nextTransaction id
  | activePackageByName name =>
    simp only [Simulator.call, serve]
    split <;> exact arrived
  | packageDetail packageId => exact arrived
  | reboot id => exact arrived.setPower id _
  | pause id => exact arrived.setPower id _
  | resume id => exact arrived.setPower id _

theorem assignId (h : s.HasRoom (room + 1)) (hostname : String) :
    (s.assignId hostname).1.HasRoom room ∧
      (s.assignId hostname).2.value * 10 + 1 < Text.wordBound := by
  unfold Simulator.assignId
  cases hfind : s.reservedIds.find? hostname with
  | some id =>
    have less := h.mono (Nat.le_succ room)
    refine ⟨?_, h.reservedIds _ (Lookup.mem_of_find?_eq_some hfind)⟩
    exact { less with
      keyed := ⟨less.keyed.scripts, less.keyed.reservedIds.remove hostname⟩
      reservedIds := Lookup.forall_remove less.reservedIds hostname }
  | none =>
    have hids := h.resourceIds
    have less := h.mono (Nat.le_succ room)
    refine ⟨?_, by dsimp only; omega⟩
    exact { less with
      keyed := ⟨less.keyed.scripts, less.keyed.reservedIds⟩
      resourceIds := by dsimp only; omega }

/-- The feed of a new resource uses up two numbers. -/
theorem ensureScript {id : ResourceId} (h : s.HasRoom room) (hid : id.value < Text.wordBound)
    (left : s.nextTransactionId + 2 + 2 * room < Text.wordBound) :
    (s.ensureScript id).HasRoom room := by
  unfold Simulator.ensureScript
  split
  · exact h
  · exact { h with
      keyed := ⟨h.keyed.scripts.put id _, h.keyed.reservedIds⟩
      scripts := Lookup.forall_put h.scripts
        ⟨hid, .provisioning (show s.nextTransactionId + 1 < _ by omega)⟩
      transactionIds := left }

theorem holdResource {id : ResourceId} (h : s.HasRoom room)
    (hid : id.value * 10 + 1 < Text.wordBound) (order : Order) :
    (s.holdResource (s.orderedResource order id)).HasRoom room :=
  { h with
    keyed := ⟨h.keyed.scripts, h.keyed.reservedIds⟩
    resources := by
      intro held hheld
      rcases List.mem_append.mp hheld with hheld | hheld
      · exact h.resources held hheld
      · rw [List.mem_singleton.mp hheld]
        refine ⟨⟨Nat.lt_of_le_of_lt (by dsimp only [orderedResource]; omega) hid, ?_, ?_⟩,
          h.discoveryDelay⟩
        · intro item hitem
          cases hitem
          exact hid
        · intro d hd
          obtain ⟨package, hpackage, hd⟩ := Option.bind_eq_some_iff.mp hd
          exact (h.catalog package hpackage).1.datacenters d (List.mem_of_find?_eq_some hd) }

theorem openOrder (h : s.HasRoom room) (left : s.nextOrderId + 1 + room < Text.wordBound)
    (order : Order) : (s.openOrder order).HasRoom room :=
  { h with
    keyed := ⟨h.keyed.scripts, h.keyed.reservedIds⟩
    orders := by
      intro held hheld
      rcases List.mem_append.mp hheld with hheld | hheld
      · exact h.orders held hheld
      · rw [List.mem_singleton.mp hheld]
        exact ⟨by dsimp only; omega, h.approvalDelay⟩
    orderIds := left }

theorem placeOrder (h : s.HasRoom (room + 1)) (order : Order) :
    (s.placeOrder order).1.HasRoom room := by
  obtain ⟨assigned, hitem⟩ := h.assignId order.resource.hostname
  obtain ⟨reservedIds, nextResourceId, hassign⟩ := s.assignId_fst order.resource.hostname
  have horders := h.orderIds
  have htransactions := h.transactionIds
  unfold Simulator.placeOrder
  generalize s.assignId order.resource.hostname = given at assigned hitem hassign
  obtain ⟨s', id⟩ := given
  dsimp only at assigned hitem hassign ⊢
  have scripted : ((s'.holdResource (s'.orderedResource order id)).ensureScript id).HasRoom room := by
    refine (assigned.holdResource hitem order).ensureScript (by omega) ?_
    show s'.nextTransactionId + 2 + 2 * room < _
    rw [hassign]
    dsimp only
    omega
  refine scripted.openOrder ?_ order
  obtain ⟨nextTransactionId, scripts, hensure, -⟩ :=
    ensureScript_eq (s'.holdResource (s'.orderedResource order id)) id
  rw [hensure]
  show s'.nextOrderId + 1 + room < _
  rw [hassign]
  dsimp only
  omega

theorem cancel (h : s.HasRoom (room + 1)) (item : Nat) : (s.cancel item).1.HasRoom room := by
  have less := h.mono (Nat.le_succ room)
  unfold Simulator.cancel
  split
  · exact less
  · rename_i held hfind
    have hheld := (h.resources held (List.mem_of_find?_eq_some hfind)).1
    refine HasRoom.change (f := .reclaimed) ?_ _ fun r hr => ⟨hr.id, hr.billingItem, hr.datacenter⟩
    split
    · rename_i script hscript
      have hstorable := (h.scripts _ (Lookup.mem_of_find?_eq_some hscript)).2
      exact { less with
        keyed := ⟨less.keyed.scripts.put _ _, less.keyed.reservedIds⟩
        scripts := Lookup.forall_put less.scripts ⟨hheld.id, hstorable⟩ }
    · have hnext := h.transactionIds
      exact { less with
        keyed := ⟨less.keyed.scripts.put _ _, less.keyed.reservedIds⟩
        scripts := Lookup.forall_put less.scripts
          ⟨hheld.id, .decommission (show s.nextTransactionId < _ by omega)⟩
        transactionIds := by
          show s.nextTransactionId + 1 + 2 * room < _
          omega }

/-- A call that books something uses up one unit of room at most. -/
theorem books (h : s.HasRoom (room + 1)) {c : Call} (books : c.operation.Books) :
    (s.call c).1.HasRoom room := by
  have arrived := h.arrive c
  cases c with
  | submitOrder order => exact arrived.placeOrder order
  | cancelBillingItem item => exact arrived.cancel item
  | _ => exact books.elim

end HasRoom

theorem hasRoom_of_load {file : FileContent} {kind : ResourceKind} {s : Simulator} {room : Nat}
    (loaded : load file kind = .ok s) (spares : s.Spares room) : s.HasRoom room := by
  obtain ⟨keyed, fits, -⟩ := of_load loaded
  exact .of_spares keyed fits spares

end Simulator

/-! ## Commands -/

/-- Calls that book nothing keep the room of a vendor. -/
theorem Surroundings.keeps_room {asked : Operation → Prop}
    (books : ∀ operation, asked operation → ¬operation.Books) (room : Nat) :
    alone.Keeps asked fun g => g.vendor.HasRoom room where
  allows _ _ := trivial
  answers h known answered := by
    rw [answered.2]
    exact known.call (books _ h)
  passes known passed := by
    rw [passed]
    exact known

namespace Session

variable {s : Session} {room : Nat}

theorem hasRoom_catalog (h : s.simulator.HasRoom room) : s.catalog.2.simulator.HasRoom room := by
  have keeps : Surroundings.alone.Keeps Operation.Browses fun g => g.vendor.HasRoom room :=
    Surroundings.keeps_room (fun _ browses => browses.not_books) room
  have assured : (refreshCatalog s.provisioner.config.packageName
      s.provisioner.config.polling.catalogRetry).Assures .alone
      (fun _ g => g.vendor.HasRoom room) ⟨s.run.now, s.run.vendor⟩ := keeps.refreshCatalog h
  unfold Session.catalog
  dsimp only
  split
  · exact h
  · exact assured.run_alone s.run

/-- A job that keeps something once it has its catalog keeps it in a session. -/
theorem perform_assured {α : Type} {job : Job α} {P : Simulator → Prop}
    (assured : ∀ catalog g, g.vendor.HasRoom room →
      (job.after catalog).Assures .alone (fun _ g => P g.vendor) g)
    (h : s.simulator.HasRoom room) : P (s.perform job).2.simulator := by
  cases job with
  | plain workflow =>
    exact (assured s.catalog.1 ⟨s.run.now, s.run.vendor⟩ h).run_alone s.run
  | withCatalog workflow =>
    exact (assured s.catalog.1 ⟨s.catalog.2.run.now, s.catalog.2.run.vendor⟩
      (hasRoom_catalog h)).run_alone s.catalog.2.run

end Session

namespace Console

variable {s : Session} {room : Nat}

/-- A node command uses up one unit of room at most. -/
theorem NodeCommand.hasRoom_execute (command : NodeCommand)
    (h : s.simulator.HasRoom (room + 1)) : (command.execute s).2.simulator.HasRoom room := by
  have looks : ∀ room, Surroundings.alone.Keeps Operation.Looks fun g => g.vendor.HasRoom room :=
    Surroundings.keeps_room fun _ looks => looks.not_books
  rw [command.execute_eq]
  refine Session.perform_assured (P := Simulator.HasRoom room) (fun catalog g known => ?_) h
  refine command.assures_job (looks (room + 1)) (looks room)
    (fun g known => known.mono (Nat.le_succ room)) (fun g call books known => ?_)
    (fun _ => Surroundings.keeps_room (fun _ powers => powers.not_books) _) catalog known
  refine ⟨trivial, fun answer g' answered => ?_⟩
  rw [answered.2]
  exact known.books books

/-- A catalog command uses up none. -/
theorem CatalogCommand.hasRoom_execute (command : CatalogCommand) (h : s.simulator.HasRoom room) :
    (command.execute s).2.simulator.HasRoom room := by
  rw [command.execute_eq]
  cases command <;> exact Session.hasRoom_catalog h

end Console

end Provisioning
