import Provisioning.Proofs.Vendor.Aftermath
import Provisioning.Proofs.Wire.Reading
import Provisioning.Vendor.Saved

/-!
# A vendor that is saved and loaded

`Reached` are the vendors that there ever are: new ones, loaded ones, and what
controls and calls make of them.  Their tables of scripts and of reservations are
`Keyed`, which is what a text needs to carry a table.  `load_save` says that the
text of such a vendor is read back as the vendor, but for the fields that are not
saved, and that later calls see no difference.

Counts of calls and submitted orders are never looked at by a call, so two vendors
that are `Alike` but for them answer in the same way and stay alike.
-/

namespace Provisioning.Simulator

variable {s t : Simulator}

/-! ## Reached vendors -/

/-- The public controls of a vendor. -/
inductive Control where
  | setCatalog (package : ProductPackage)
  | reserveId (hostname : String) (id : ResourceId)
  | scriptTransactions (id : ResourceId) (entries : List (Option Transaction))
  | setDiscoveryDelay (listings : Nat)
  | setApprovalDelay (checks : Nat)
  | setEchoReceipts (echo : Bool)
  | setWithholdPasswords (withhold : Bool)
  | pushCatalogFault (fault : CatalogFault) (times : Nat)
  | setCatalogLatency (ms : Nat)
  | insertResource (resource : Resource)
  | completeProvisioning (id : ResourceId)

/-- The vendor after a control. -/
def control (s : Simulator) : Control → Simulator
  | .setCatalog package => s.setCatalog package
  | .reserveId hostname id => s.reserveId hostname id
  | .scriptTransactions id entries => s.scriptTransactions id entries
  | .setDiscoveryDelay listings => s.setDiscoveryDelay listings
  | .setApprovalDelay checks => s.setApprovalDelay checks
  | .setEchoReceipts echo => s.setEchoReceipts echo
  | .setWithholdPasswords withhold => s.setWithholdPasswords withhold
  | .pushCatalogFault fault times => s.pushCatalogFault fault times
  | .setCatalogLatency ms => s.setCatalogLatency ms
  | .insertResource resource => s.insertResource resource
  | .completeProvisioning id => s.completeProvisioning id

/-- The vendors that there are: new and loaded ones, and those that controls and
calls lead to.  A call may also have come in and wait for its answer. -/
inductive Reached : Simulator → Prop
  | empty (kind : ResourceKind) : Reached (empty kind)
  | loaded {file : FileContent} {kind : ResourceKind} {s : Simulator}
      (h : load file kind = .ok s) : Reached s
  | controlled {s : Simulator} (h : Reached s) (control : Control) : Reached (s.control control)
  | arrived {s : Simulator} (h : Reached s) (c : Call) : Reached (s.arrive c).1
  | called {s : Simulator} (h : Reached s) (c : Call) : Reached (s.call c).1

theorem Keyed.control (h : s.Keyed) (control : Control) : (s.control control).Keyed := by
  cases control with
  | reserveId hostname id => exact ⟨h.scripts, h.reservedIds.put hostname id⟩
  | scriptTransactions id entries => exact ⟨h.scripts.put id _, h.reservedIds⟩
  | _ => exact ⟨h.scripts, h.reservedIds⟩

theorem Keyed.finishCycle (h : s.Keyed) (id : ResourceId) (outcome : CycleOutcome) :
    (s.finishCycle id outcome).Keyed := by
  cases outcome with
  | provisioned => exact ⟨h.scripts, h.reservedIds⟩
  | removed => exact ⟨h.scripts, h.reservedIds⟩

theorem Keyed.assignId (h : s.Keyed) (hostname : String) : (s.assignId hostname).1.Keyed := by
  unfold Simulator.assignId
  split
  · exact ⟨h.scripts, h.reservedIds.remove hostname⟩
  · exact ⟨h.scripts, h.reservedIds⟩

theorem Keyed.ensureScript (h : s.Keyed) (id : ResourceId) : (s.ensureScript id).Keyed := by
  unfold Simulator.ensureScript
  split
  · exact h
  · exact ⟨h.scripts.put id _, h.reservedIds⟩

theorem Keyed.placeOrder (h : s.Keyed) (order : Order) : (s.placeOrder order).1.Keyed := by
  have hassigned := h.assignId order.resource.hostname
  unfold Simulator.placeOrder
  generalize s.assignId order.resource.hostname = given at hassigned
  obtain ⟨s', id⟩ := given
  have hheld : (s'.holdResource (s'.orderedResource order id)).Keyed :=
    ⟨hassigned.scripts, hassigned.reservedIds⟩
  have hscripted := hheld.ensureScript id
  exact ⟨hscripted.scripts, hscripted.reservedIds⟩

theorem Keyed.nextTransaction (h : s.Keyed) (id : ResourceId) : (s.nextTransaction id).1.Keyed := by
  unfold Simulator.nextTransaction
  split
  · exact h
  · dsimp only
    split
    · have hremoved : ({ s with scripts := s.scripts.remove id } : Simulator).Keyed :=
        ⟨h.scripts.remove id, h.reservedIds⟩
      exact hremoved.finishCycle id _
    · exact ⟨h.scripts.put id _, h.reservedIds⟩

theorem Keyed.cancel (h : s.Keyed) (item : Nat) : (s.cancel item).1.Keyed := by
  unfold Simulator.cancel
  split
  · exact h
  · dsimp only
    split
    · exact ⟨h.scripts.put _ _, h.reservedIds⟩
    · exact ⟨h.scripts.put _ _, h.reservedIds⟩

theorem Keyed.arrive (h : s.Keyed) (c : Call) : (s.arrive c).1.Keyed := by
  cases c <;> exact ⟨h.scripts, h.reservedIds⟩

theorem Keyed.call (h : s.Keyed) (c : Call) : (s.call c).1.Keyed := by
  have harrived := h.arrive c
  by_cases submits : c.operation = .submitOrder
  · cases c <;> cases submits
    exact harrived.placeOrder _
  by_cases looks : c.operation = .activeTransaction
  · cases c <;> cases looks
    exact harrived.nextTransaction _
  by_cases cancels : c.operation = .cancelBillingItem
  · cases c <;> cases cancels
    exact harrived.cancel _
  · constructor
    · rw [scripts_call s submits looks cancels]
      exact h.scripts
    · rw [reservedIds_call s submits]
      exact h.reservedIds

/-- A loaded vendor fits, and it has nothing in the fields that are not saved. -/
theorem of_load {file : FileContent} {kind : ResourceKind} (h : load file kind = .ok s) :
    s.Keyed ∧ s.Fits ∧ s.reloaded kind = s := by
  cases file with
  | missing =>
    cases h
    exact ⟨⟨Lookup.apart_nil, Lookup.apart_nil⟩, by cases kind <;> decide, rfl⟩
  | unreadable reason => cases h
  | text content =>
    simp only [load, restore] at h
    split at h
    · cases h
    · split at h
      · cases h
      · rename_i saved hread
        cases h
        obtain ⟨keyed, fits, unsaved⟩ := Wire.ensures_simulator _ saved hread
        exact ⟨⟨keyed.scripts, keyed.reservedIds⟩, { fits with },
          congrArg (fun v : Simulator => { v with kind := kind }) unsaved⟩

theorem Reached.keyed (h : s.Reached) : s.Keyed := by
  induction h with
  | empty kind => exact ⟨Lookup.apart_nil, Lookup.apart_nil⟩
  | loaded h => exact (of_load h).1
  | controlled _ control ih => exact ih.control control
  | arrived _ c ih => exact ih.arrive c
  | called _ c ih => exact ih.call c

/-! ## Vendors that calls cannot tell apart -/

/-- The vendors differ at most in the counts of calls and the submitted orders. -/
def Alike (s t : Simulator) : Prop :=
  ∃ calls submitted, s = { t with calls := calls, submitted := submitted }

theorem Alike.refl (s : Simulator) : s.Alike s :=
  ⟨s.calls, s.submitted, rfl⟩

theorem Alike.trans {u : Simulator} (h : s.Alike t) (h' : t.Alike u) : s.Alike u := by
  obtain ⟨calls, submitted, rfl⟩ := h
  obtain ⟨calls', submitted', rfl⟩ := h'
  exact ⟨calls, submitted, rfl⟩

theorem Alike.symm (h : s.Alike t) : t.Alike s := by
  obtain ⟨calls, submitted, rfl⟩ := h
  exact ⟨t.calls, t.submitted, rfl⟩

/-- The same answer from vendors that stay alike. -/
structure Agree {α : Type} (a b : Simulator × α) : Prop where
  answer : a.2 = b.2
  alike : a.1.Alike b.1

/-- The answers to a sequence of calls. -/
def answers (s : Simulator) : List Call → List ((c : Call) × c.Answer)
  | [] => []
  | c :: rest => ⟨c, (s.call c).2⟩ :: answers (s.call c).1 rest

theorem Alike.finishCycle (h : s.Alike t) (id : ResourceId) (outcome : CycleOutcome) :
    (s.finishCycle id outcome).Alike (t.finishCycle id outcome) := by
  obtain ⟨calls, submitted, rfl⟩ := h
  cases outcome <;> exact ⟨calls, submitted, rfl⟩

theorem Alike.assignId (h : s.Alike t) (hostname : String) :
    Agree (s.assignId hostname) (t.assignId hostname) := by
  obtain ⟨calls, submitted, rfl⟩ := h
  unfold Simulator.assignId
  cases t.reservedIds.find? hostname with
  | none => exact ⟨rfl, _, _, rfl⟩
  | some id => exact ⟨rfl, _, _, rfl⟩

theorem Alike.ensureScript (h : s.Alike t) (id : ResourceId) :
    (s.ensureScript id).Alike (t.ensureScript id) := by
  obtain ⟨calls, submitted, rfl⟩ := h
  unfold Simulator.ensureScript
  split
  · exact ⟨_, _, rfl⟩
  · exact ⟨_, _, rfl⟩

theorem Alike.placeOrder (h : s.Alike t) (order : Order) :
    Agree (s.placeOrder order) (t.placeOrder order) := by
  obtain ⟨hid, hassigned⟩ := h.assignId order.resource.hostname
  unfold Simulator.placeOrder
  generalize s.assignId order.resource.hostname = given at hid hassigned
  generalize t.assignId order.resource.hostname = given' at hid hassigned
  obtain ⟨s', id⟩ := given
  obtain ⟨t', id'⟩ := given'
  dsimp only at hid hassigned ⊢
  subst hid
  have hheld : (s'.holdResource (s'.orderedResource order id)).Alike
      (t'.holdResource (t'.orderedResource order id)) := by
    obtain ⟨calls, submitted, rfl⟩ := hassigned
    exact ⟨_, _, rfl⟩
  have hscripted := hheld.ensureScript id
  have hresource : s'.orderedResource order id = t'.orderedResource order id := by
    obtain ⟨calls, submitted, rfl⟩ := hassigned
    rfl
  rw [hresource] at hscripted ⊢
  generalize (s'.holdResource (t'.orderedResource order id)).ensureScript id = u at hscripted
  obtain ⟨calls, submitted, rfl⟩ := hscripted
  exact ⟨rfl, _, _, rfl⟩

theorem Alike.checkOrder (h : s.Alike t) (orderId : Nat) :
    Agree (s.checkOrder orderId) (t.checkOrder orderId) := by
  obtain ⟨calls, submitted, rfl⟩ := h
  unfold Simulator.checkOrder
  cases t.orders.find? (·.id == orderId) with
  | none => exact ⟨rfl, _, _, rfl⟩
  | some held =>
    dsimp only
    split <;> exact ⟨rfl, _, _, rfl⟩

theorem Alike.nextTransaction (h : s.Alike t) (id : ResourceId) :
    Agree (s.nextTransaction id) (t.nextTransaction id) := by
  obtain ⟨calls, submitted, rfl⟩ := h
  unfold Simulator.nextTransaction
  cases t.scripts.find? id with
  | none => exact ⟨rfl, _, _, rfl⟩
  | some script =>
    dsimp only
    have hremoved : Alike
        { t with scripts := t.scripts.remove id, calls := calls, submitted := submitted }
        { t with scripts := t.scripts.remove id } := ⟨_, _, rfl⟩
    cases script.entries.tail with
    | nil => exact ⟨rfl, hremoved.finishCycle id script.outcome⟩
    | cons entry rest => exact ⟨rfl, _, _, rfl⟩

theorem Alike.cancel (h : s.Alike t) (item : Nat) : Agree (s.cancel item) (t.cancel item) := by
  obtain ⟨calls, submitted, rfl⟩ := h
  unfold Simulator.cancel
  cases t.resources.find? (·.resource.billingItemId == some item) with
  | none => exact ⟨rfl, _, _, rfl⟩
  | some held =>
    dsimp only
    cases t.scripts.find? held.resource.id with
    | none => exact ⟨rfl, _, _, rfl⟩
    | some script => exact ⟨rfl, _, _, rfl⟩

theorem Alike.setPower (h : s.Alike t) (id : ResourceId) (power : String) :
    Agree (s.setPower id power) (t.setPower id power) := by
  obtain ⟨calls, submitted, rfl⟩ := h
  unfold Simulator.setPower
  have hfind : ({ t with calls := calls, submitted := submitted } : Simulator).find? id =
      t.find? id := rfl
  rw [hfind]
  cases t.find? id with
  | none => exact ⟨rfl, _, _, rfl⟩
  | some r => exact ⟨rfl, _, _, rfl⟩

theorem Alike.arrive (h : s.Alike t) (c : Call) : Agree (s.arrive c) (t.arrive c) := by
  obtain ⟨calls, submitted, rfl⟩ := h
  cases c <;> exact ⟨rfl, _, _, rfl⟩

/-- A call is answered in the same way, and leaves vendors alike. -/
theorem Alike.call (h : s.Alike t) (c : Call) : Agree (s.call c) (t.call c) := by
  obtain ⟨hadmission, harrived⟩ := h.arrive c
  unfold Simulator.call
  generalize s.arrive c = given at hadmission harrived
  generalize t.arrive c = given' at hadmission harrived
  obtain ⟨s', admission⟩ := given
  obtain ⟨t', admission'⟩ := given'
  dsimp only at hadmission harrived ⊢
  subst hadmission
  cases c with
  | submitOrder order =>
    obtain ⟨hreceipt, hnext⟩ := harrived.placeOrder order
    exact ⟨congrArg Except.ok hreceipt, hnext⟩
  | billingOrder orderId => exact harrived.checkOrder orderId
  | getResource id =>
    obtain ⟨calls, submitted, rfl⟩ := harrived
    exact ⟨rfl, _, _, rfl⟩
  | listResources =>
    obtain ⟨calls, submitted, rfl⟩ := harrived
    exact ⟨rfl, _, _, rfl⟩
  | activeTransaction id =>
    obtain ⟨hentry, hnext⟩ := harrived.nextTransaction id
    exact ⟨congrArg Except.ok hentry, hnext⟩
  | cancelBillingItem item =>
    obtain ⟨hdone, hnext⟩ := harrived.cancel item
    exact ⟨congrArg Except.ok hdone, hnext⟩
  | activePackageByName name =>
    obtain ⟨calls, submitted, rfl⟩ := harrived
    simp only [serve]
    cases admission.fault <;> exact ⟨rfl, _, _, rfl⟩
  | packageDetail packageId =>
    obtain ⟨calls, submitted, rfl⟩ := harrived
    exact ⟨rfl, _, _, rfl⟩
  | reboot id => exact harrived.setPower id "RUNNING"
  | pause id => exact harrived.setPower id "PAUSED"
  | resume id => exact harrived.setPower id "RUNNING"

/-- Counts of calls and submitted orders are not saved. -/
theorem Alike.save_eq (h : s.Alike t) : s.save = t.save := by
  obtain ⟨calls, submitted, rfl⟩ := h
  rfl

theorem Alike.reloaded_eq (h : s.Alike t) (kind : ResourceKind) :
    s.reloaded kind = t.reloaded kind := by
  obtain ⟨calls, submitted, rfl⟩ := h
  rfl

theorem Alike.answers_eq (h : s.Alike t) (calls : List Call) :
    s.answers calls = t.answers calls := by
  induction calls generalizing s t with
  | nil => rfl
  | cons c rest ih =>
    obtain ⟨hanswer, hnext⟩ := h.call c
    rw [answers, answers, hanswer, ih hnext]

/-! ## Saving and loading -/

/-- The text of a vendor is read back. -/
theorem load_text_save (keyed : s.Keyed) (fits : s.Fits)
    (finite : ∀ x ∈ s.floats, x.isFinite = true) (carried : ∀ x ∈ s.floats, Json.carries x = true)
    (kind : ResourceKind) : load (.text s.save) kind = .ok (s.reloaded kind) := by
  obtain ⟨hlegible, hread⟩ := Wire.read_simulator fits keyed
    fun x hx => Json.keeps_float (finite x hx) (carried x hx)
  have hparse : Json.parse? s.save = some (Wire.simulator.write s).spelled :=
    Json.parse?_pretty hlegible
  have hload : load (.text s.save) kind = restore s.save kind := rfl
  rw [hload, restore, hparse]
  simp only [hread]
  rfl

/-- Saving a vendor and loading it for any kind of resource succeeds.  Only the
pending faults, the latency of the catalog, the counts of calls and the submitted
orders are lost; and if the kind is the vendor's own and there are no faults and
no latency, then every later call is answered as before. -/
theorem load_save {s : Simulator} (reached : s.Reached) (fits : s.Fits)
    (finite : ∀ x ∈ s.floats, x.isFinite = true) (carried : ∀ x ∈ s.floats, Json.carries x = true)
    (kind : ResourceKind) :
    load (.text s.save) kind = .ok (s.reloaded kind) ∧
      (kind = s.kind → s.catalogFaults = [] → s.catalogLatencyMs = 0 →
        ∀ calls, (s.reloaded kind).answers calls = s.answers calls) := by
  constructor
  · exact load_text_save reached.keyed fits finite carried kind
  · rintro rfl hfaults hlatency calls
    refine Alike.answers_eq ?_ calls
    refine ⟨{}, [], ?_⟩
    unfold reloaded
    rw [← hfaults, ← hlatency]

/-- A vendor with the demonstration catalog, a reservation and a first order, saved
before anything happens to the order. -/
theorem load_save_ordered :
    let wanted : Order := ⟨50, "dal05", [1921], 1, true, ⟨"web1", "example.com"⟩⟩
    let offering := (empty .bareMetal).control (.setCatalog (Demo.catalog .bareMetal))
    let vendor := ((offering.control (.reserveId "db01" ⟨77⟩)).call (.submitOrder wanted)).1
    vendor.Fits ∧
      load (.text vendor.save) .bareMetal = .ok (vendor.reloaded .bareMetal) ∧
        ∀ calls, (vendor.reloaded .bareMetal).answers calls = vendor.answers calls := by
  intro wanted offering vendor
  have offered : offering.Reached :=
    .controlled (.empty .bareMetal) (.setCatalog (Demo.catalog .bareMetal))
  have reached : vendor.Reached :=
    .called (.controlled offered (.reserveId "db01" ⟨77⟩)) (.submitOrder wanted)
  have fits : vendor.Fits := by decide
  have finite : ∀ x ∈ vendor.floats, x.isFinite = true := by decide +kernel
  have carried : ∀ x ∈ vendor.floats, Json.carries x = true := by decide +kernel
  obtain ⟨hload, hanswers⟩ := load_save reached fits finite carried .bareMetal
  exact ⟨fits, hload, hanswers rfl rfl rfl⟩

end Provisioning.Simulator
