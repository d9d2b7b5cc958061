import Provisioning.Proofs.Vendor.Aftermath

/-!
# Resources in their cycles

From its order to its removal a resource is always somewhere in a cycle of
transactions, and its snapshot and its script agree on where
(`Holding.InCycle`).  The transactions of all scripts are numbered in the order
in which they are made, so no two scripts show the same one
(`Simulator.Serial`).  Calls keep both.
-/

namespace Provisioning

/-! ## One resource -/

/-- The resource has no address and no operating system. -/
def Resource.Bare (r : Resource) : Prop :=
  r.primaryIp = none ∧ r.primaryBackendIp = none ∧ r.operatingSystem = none

/-- The resource has both of its addresses. -/
def Resource.Addressed (r : Resource) : Prop :=
  r.primaryIp.isSome = true ∧ r.primaryBackendIp.isSome = true

/-- The snapshot of a resource whose status is another one. -/
def Resource.inStatus (status : String) (r : Resource) : Resource :=
  { r with status := some status }

/-- The power state that a call brings about. -/
def Call.power? : Call → Option String
  | .reboot _ | .resume _ => some "RUNNING"
  | .pause _ => some "PAUSED"
  | _ => none

/-- Only a resource has a script.  While it is to be provisioned it is bare, and
without a script it has been provisioned. -/
structure Holding.InCycle (h : Holding) : Prop where
  held : ∀ script, h.script = some script → h.resource.isSome = true
  bare : ∀ script, h.script = some script → script.outcome = .provisioned →
    ∀ r, h.resource = some r → r.Bare
  addressed : h.script = none → ∀ r, h.resource = some r → r.Addressed

namespace Holding.InCycle

variable {h : Holding}

/-- A resource that has just been ordered is bare, and is to be provisioned. -/
theorem ordered {r : Resource} (bare : r.Bare) (kind : ResourceKind) (withhold : Bool)
    (script : Script) : (Holding.mk kind withhold (some r) (some script)).InCycle where
  held _ _ := rfl
  bare _ _ _ r' hr' := by
    cases hr'
    exact bare
  addressed hscript := nomatch hscript

/-- A change of the snapshot that leaves the addresses and the operating system
alone. -/
theorem changed (hcycle : h.InCycle) {f : Resource → Resource}
    (bare : ∀ r, r.Bare → (f r).Bare) (addressed : ∀ r, r.Addressed → (f r).Addressed) :
    Holding.InCycle { h with resource := h.resource.map f } where
  held script hscript := by
    rw [Option.isSome_map]
    exact hcycle.held script hscript
  bare script hscript houtcome r hr := by
    obtain ⟨r', hr', rfl⟩ := Option.map_eq_some_iff.mp hr
    exact bare r' (hcycle.bare script hscript houtcome r' hr')
  addressed hscript r hr := by
    obtain ⟨r', hr', rfl⟩ := Option.map_eq_some_iff.mp hr
    exact addressed r' (hcycle.addressed hscript r' hr')

/-- The look that takes the last entry ends the cycle: the resource gets its
addresses or goes. -/
theorem look (hcycle : h.InCycle) : h.look.1.InCycle := by
  unfold Holding.look
  cases hscript : h.script with
  | none => exact hcycle
  | some script =>
    dsimp only
    split
    · refine ⟨nofun, nofun, fun _ r hr => ?_⟩
      cases houtcome : script.outcome with
      | provisioned =>
        rw [houtcome] at hr
        obtain ⟨r', -, rfl⟩ := Option.map_eq_some_iff.mp hr
        exact ⟨rfl, rfl⟩
      | removed =>
        rw [houtcome] at hr
        cases hr
    · refine ⟨fun _ _ => hcycle.held script hscript, ?_, nofun⟩
      rintro _ ⟨⟩ houtcome r hr
      exact hcycle.bare script hscript houtcome r hr

/-- A cancelled resource is not to be provisioned. -/
theorem cancelled (held : h.resource.isSome = true) (number : Nat) :
    (h.cancelled number).InCycle where
  held _ _ := by
    show (h.resource.map _).isSome = true
    rw [Option.isSome_map]
    exact held
  bare script hscript houtcome := by
    cases hscript
    split at houtcome
    · cases houtcome
    · cases houtcome
  addressed hscript := nomatch hscript

end Holding.InCycle

namespace Simulator

variable {s s' : Simulator} {id : ResourceId}

/-! ## All resources -/

/-- In a tidy vendor a resource is found under its id. -/
theorem Tidy.find?_of_mem (h : s.Tidy) {held : HeldResource} (mem : held ∈ s.resources) :
    s.find? held.resource.id = some held.resource := by
  have pairwise : s.resources.Pairwise fun a b => a.resource.badge.Apart b.resource.badge :=
    List.pairwise_map.mp h
  unfold find?
  cases hfind : s.resources.find? (·.resource.id == held.resource.id) with
  | none => exact absurd (beq_self_eq_true _) (List.find?_eq_none.mp hfind held mem)
  | some found =>
    have hid := List.find?_some hfind
    have symmetric : Std.Symm fun a b : HeldResource =>
        a.resource.badge.Apart b.resource.badge := ⟨fun _ _ => Badge.Apart.symm⟩
    by_cases heq : found = held
    · rw [heq]
      rfl
    · exact absurd (beq_iff_eq.mp hid)
        (List.Pairwise.forall pairwise (List.mem_of_find?_eq_some hfind) mem heq).1

/-- A change of the power state is a change of one snapshot, if there is one. -/
theorem holding_setPower (s : Simulator) (id other : ResourceId) (power : String) :
    (s.setPower id power).1.holding other = (s.change id (.inStatus power)).holding other := by
  unfold setPower
  cases hfind : s.find? id with
  | some r => rfl
  | none =>
    show s.holding other = _
    by_cases heq : other = id
    · rw [heq, holding_change_self (.inStatus power) fun _ => rfl, hfind]
      unfold holding
      rw [hfind]
      rfl
    · rw [holding_change_of_ne (.inStatus power) (fun _ => rfl) heq]

/-- What is true of every holding stays true through a call, if it is true of a new
resource and stays true through a look, a cancellation and a change of the power
state. -/
theorem Orderly.holding_call {P : Holding → Prop} (h : s.Orderly) (all : ∀ id, P (s.holding id))
    (c : Call)
    (ordered : ∀ order id script,
      P ⟨s.kind, s.withholdPasswords, some (s.orderedResource order id), some script⟩)
    (looked : ∀ held, P held → P held.look.1)
    (cancelled : ∀ held number, held.resource.isSome = true → P held → P (held.cancelled number))
    (powered : ∀ held power, c.power? = some power → P held →
      P { held with resource := held.resource.map (.inStatus power) })
    (id : ResourceId) : P ((s.call c).1.holding id) := by
  have set : ∀ (t : Simulator) (other : ResourceId) (power : String), c.power? = some power →
      P (t.holding id) → P ((t.setPower other power).1.holding id) := by
    intro t other power hpower ht
    rw [holding_setPower]
    by_cases heq : id = other
    · rw [← heq, holding_change_self (.inStatus power) fun _ => rfl]
      exact powered _ power hpower ht
    · rw [holding_change_of_ne (.inStatus power) (fun _ => rfl) heq]
      exact ht
  cases c with
  | submitOrder order =>
    obtain ⟨hid, -⟩ := placeOrder_of_unreserved h.unreserved order
    by_cases heq : id = s.givenId order.resource.hostname
    · have gone : s.find? (s.givenId order.resource.hostname) = none := by
        rw [hid]
        refine find?_eq_none_of_badges fun badge hbadge heq => ?_
        have hlt := (h.numbered badge hbadge).1
        rw [heq] at hlt
        exact absurd hlt (Nat.lt_irrefl _)
      rw [heq, holding_call_submitOrder_self gone]
      exact ordered _ _ _
    · rw [holding_call_submitOrder_of_ne heq]
      exact all id
  | billingOrder orderId =>
    rw [holding_call_billingOrder]
    exact all id
  | getResource other => exact all id
  | listResources =>
    rw [holding_call_listResources]
    exact all id
  | activeTransaction other =>
    by_cases heq : id = other
    · have self : (s.call (.activeTransaction other)).1.holding other = (s.holding other).look.1 :=
        holding_nextTransaction_self (s := (s.arrive (.activeTransaction other)).1)
      rw [heq, self]
      exact looked _ (all other)
    · rw [holding_call_activeTransaction_of_ne _ heq]
      exact all id
  | cancelBillingItem item =>
    cases hfind : s.resources.find? (·.resource.billingItemId == some item) with
    | none =>
      have same : (s.call (.cancelBillingItem item)).1.holding id = s.holding id := by
        simp only [Simulator.call, Simulator.arrive, Simulator.serve, Simulator.cancel, hfind]
        rfl
      rw [same]
      exact all id
    | some held =>
      have found := h.tidy.find?_of_mem (List.mem_of_find?_eq_some hfind)
      have billed := List.find?_some hfind
      have billed := beq_iff_eq.mp billed
      by_cases heq : id = held.resource.id
      · rw [heq, s.holding_call_cancel_self h.tidy found billed]
        exact cancelled _ _ (Option.isSome_iff_exists.mpr ⟨_, found⟩) (all _)
      · rw [s.holding_call_cancel_of_ne h.tidy found billed heq]
        exact all id
  | activePackageByName name =>
    have same : (s.call (.activePackageByName name)).1.holding id = s.holding id := by
      simp only [Simulator.call, Simulator.arrive, Simulator.serve]
      split <;> rfl
    rw [same]
    exact all id
  | packageDetail packageId => exact all id
  | reboot other => exact set (s.arrive (.reboot other)).1 other _ rfl (all id)
  | pause other => exact set (s.arrive (.pause other)).1 other _ rfl (all id)
  | resume other => exact set (s.arrive (.resume other)).1 other _ rfl (all id)

/-- Calls keep every resource in its cycle. -/
theorem Orderly.inCycle_call (h : s.Orderly) (cycles : ∀ id, (s.holding id).InCycle) (c : Call)
    (id : ResourceId) : ((s.call c).1.holding id).InCycle :=
  h.holding_call cycles c (fun _ _ script => .ordered ⟨rfl, rfl, rfl⟩ _ _ script)
    (fun _ hcycle => hcycle.look) (fun _ number held _ => .cancelled held number)
    (fun _ _ _ hcycle => hcycle.changed (fun _ bare => bare) fun _ addressed => addressed) id

/-! ## Transactions -/

/-- The script of this id has the transaction still to show. -/
def Shows (s : Simulator) (id : ResourceId) (t : Transaction) : Prop :=
  ∃ script, s.scripts.find? id = some script ∧ some t ∈ script.entries

/-- What is shown after `s` was shown before, or was made for one resource under
the next numbers. -/
structure Issues (s s' : Simulator) : Prop where
  later : s.nextTransactionId ≤ s'.nextTransactionId
  made : ∃ id, ∀ id' t, s'.Shows id' t → s.Shows id' t ∨
    id' = id ∧ s.nextTransactionId ≤ t.id ∧ t.id < s'.nextTransactionId ∧ t.averageDuration = 1.5

theorem issues_of_shows (hnext : s'.nextTransactionId = s.nextTransactionId)
    (shows' : ∀ id t, s'.Shows id t → s.Shows id t) : Issues s s' where
  later := Nat.le_of_eq hnext.symm
  made := ⟨⟨0⟩, fun id t h => .inl (shows' id t h)⟩

theorem issues_of_scripts (hnext : s'.nextTransactionId = s.nextTransactionId)
    (hscripts : s'.scripts = s.scripts) : Issues s s' := by
  refine issues_of_shows hnext fun id t h => ?_
  unfold Shows at h
  rw [hscripts] at h
  exact h

/-- A script that shows nothing but new transactions is put in place. -/
theorem issues_of_put {script : Script} (hscripts : s'.scripts = s.scripts.put id script)
    (later : s.nextTransactionId ≤ s'.nextTransactionId)
    (made : ∀ t, some t ∈ script.entries → s.nextTransactionId ≤ t.id ∧
      t.id < s'.nextTransactionId ∧ t.averageDuration = 1.5) : Issues s s' where
  later := later
  made := by
    refine ⟨id, fun id' t => ?_⟩
    rintro ⟨script', hfind, ht⟩
    rw [hscripts, Lookup.find?_put] at hfind
    split at hfind
    · rename_i heq
      cases hfind
      exact .inr ⟨heq, made t ht⟩
    · exact .inl ⟨script', hfind, ht⟩

/-- A script shows no more than the one that it takes the place of. -/
theorem issues_of_less {script less : Script} (hfind : s.scripts.find? id = some script)
    (hscripts : s'.scripts = s.scripts.put id less)
    (hnext : s'.nextTransactionId = s.nextTransactionId)
    (hless : ∀ entry ∈ less.entries, entry ∈ script.entries) : Issues s s' := by
  refine issues_of_shows hnext fun id' t h => ?_
  obtain ⟨script', hfind', ht⟩ := h
  rw [hscripts, Lookup.find?_put] at hfind'
  split at hfind'
  · rename_i heq
    cases hfind'
    exact ⟨script, heq ▸ hfind, hless _ ht⟩
  · exact ⟨script', hfind', ht⟩

theorem issues_ensureScript (s : Simulator) (id : ResourceId) : Issues s (s.ensureScript id) := by
  unfold ensureScript
  split
  · exact issues_of_scripts rfl rfl
  · have hnext : (s.scriptProvisioning id).nextTransactionId = s.nextTransactionId + 2 := rfl
    refine issues_of_put rfl (by omega) fun t ht => ?_
    rw [hnext]
    simp only [List.mem_cons, Option.some.injEq, reduceCtorEq, List.not_mem_nil,
      or_false] at ht
    rcases ht with rfl | rfl | rfl
    · exact ⟨Nat.le_refl _, by dsimp only; omega, rfl⟩
    · exact ⟨Nat.le_succ _, by dsimp only; omega, rfl⟩
    · exact ⟨Nat.le_succ _, by dsimp only; omega, rfl⟩

theorem issues_placeOrder (s : Simulator) (order : Order) : Issues s (s.placeOrder order).1 := by
  obtain ⟨reservedIds, nextResourceId, hassign⟩ := s.assignId_fst order.resource.hostname
  unfold placeOrder
  generalize s.assignId order.resource.hostname = given at hassign
  obtain ⟨s', id⟩ := given
  dsimp only at hassign ⊢
  subst hassign
  obtain ⟨later, made⟩ := issues_ensureScript
    (holdResource { s with reservedIds := reservedIds, nextResourceId := nextResourceId }
      (orderedResource { s with reservedIds := reservedIds, nextResourceId := nextResourceId }
        order id)) id
  exact ⟨later, made⟩

theorem issues_nextTransaction (s : Simulator) (id : ResourceId) :
    Issues s (s.nextTransaction id).1 := by
  unfold nextTransaction
  cases hfind : s.scripts.find? id with
  | none => exact issues_of_scripts rfl rfl
  | some script =>
    dsimp only
    split
    · obtain ⟨resources, heq⟩ :=
        finishCycle_eq { s with scripts := s.scripts.remove id } id script.outcome
      rw [heq]
      refine issues_of_shows rfl fun id' t h => ?_
      obtain ⟨script', hfind', ht⟩ := h
      dsimp only at hfind'
      rw [Lookup.find?_remove] at hfind'
      split at hfind'
      · cases hfind'
      · exact ⟨script', hfind', ht⟩
    · exact issues_of_less hfind rfl rfl fun entry hentry => List.mem_of_mem_tail hentry

theorem issues_cancel (s : Simulator) (item : Nat) : Issues s (s.cancel item).1 := by
  unfold cancel
  cases s.resources.find? (·.resource.billingItemId == some item) with
  | none => exact issues_of_scripts rfl rfl
  | some held =>
    dsimp only
    cases hfind : s.scripts.find? held.resource.id with
    | some script => exact issues_of_less hfind rfl rfl fun entry hentry => hentry
    | none =>
      refine issues_of_put rfl (Nat.le_succ _) fun t ht => ?_
      simp only [List.mem_cons, Option.some.injEq, reduceCtorEq, List.not_mem_nil,
        or_false] at ht
      rcases ht with rfl | rfl
      · exact ⟨Nat.le_refl _, Nat.lt_succ_self _, rfl⟩
      · exact ⟨Nat.le_refl _, Nat.lt_succ_self _, rfl⟩

theorem issues_setPower (s : Simulator) (id : ResourceId) (power : String) :
    Issues s (s.setPower id power).1 := by
  unfold setPower
  split <;> exact issues_of_scripts rfl rfl

/-- A call makes transactions for one resource at most. -/
theorem issues_call (s : Simulator) (c : Call) : Issues s (s.call c).1 := by
  have arrived : ∀ t, Issues (s.arrive c).1 t → Issues s t := by
    intro t h
    cases c <;> exact ⟨h.later, h.made⟩
  apply arrived
  cases c with
  | submitOrder order => exact issues_placeOrder _ order
  | billingOrder orderId =>
    simp only [call, serve, checkOrder]
    split
    · exact issues_of_scripts rfl rfl
    · split <;> exact issues_of_scripts rfl rfl
  | getResource id => exact issues_of_scripts rfl rfl
  | listResources => exact issues_of_scripts rfl rfl
  | activeTransaction id => exact issues_nextTransaction _ id
  | cancelBillingItem item => exact issues_cancel _ item
  | activePackageByName name =>
    simp only [call, serve]
    split <;> exact issues_of_scripts rfl rfl
  | packageDetail packageId => exact issues_of_scripts rfl rfl
  | reboot id => exact issues_setPower _ id _
  | pause id => exact issues_setPower _ id _
  | resume id => exact issues_setPower _ id _

/-- Every transaction that is shown has a number below the next one, and no two
resources show one of the same number. -/
structure Serial (s : Simulator) : Prop where
  numbered : ∀ id t, s.Shows id t → t.id < s.nextTransactionId
  apart : ∀ id id' t t', s.Shows id t → s.Shows id' t' → t.id = t'.id → id = id'
  lasting : ∀ id t, s.Shows id t → t.averageDuration = 1.5

theorem Issues.serial (h : Issues s s') (serial : s.Serial) : s'.Serial := by
  obtain ⟨later, made, hmade⟩ := h
  refine ⟨fun id t ht => ?_, fun id id' t t' ht ht' heq => ?_, fun id t ht => ?_⟩
  · rcases hmade id t ht with old | ⟨-, -, hlt, -⟩
    · exact Nat.lt_of_lt_of_le (serial.numbered id t old) later
    · exact hlt
  · rcases hmade id t ht with old | ⟨hid, hle, -, -⟩ <;>
      rcases hmade id' t' ht' with old' | ⟨hid', hle', -, -⟩
    · exact serial.apart id id' t t' old old' heq
    · have hlt := serial.numbered id t old
      omega
    · have hlt := serial.numbered id' t' old'
      omega
    · rw [hid, hid']
  · rcases hmade id t ht with old | ⟨-, -, -, hlasting⟩
    · exact serial.lasting id t old
    · exact hlasting

end Simulator

end Provisioning
