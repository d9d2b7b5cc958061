import Provisioning.Vendor.Simulator

/-!
# What the vendor holds for one resource

Most of a simulated vendor does not concern a given resource.  What does is its
snapshot, its feed, and the two settings that decide how a cycle ends.
`Simulator.holding` is that part, and this module says how calls change it.

* Calls about a resource: the look at its feed is `Holding.look`, which needs
  nothing but the holding.
* Calls about other resources, and calls about no resource, leave it alone.

The second kind of lemma is what lets workflows on different resources run over
one vendor.
-/

namespace Provisioning

/-- The part of a simulated vendor that concerns one resource. -/
structure Holding where
  kind : ResourceKind
  withholdPasswords : Bool
  resource : Option Resource
  script : Option Script

namespace Holding

/-- The resource at the end of its cycle. -/
def finish (h : Holding) : CycleOutcome → Option Resource
  | .provisioned => h.resource.map (Simulator.provision h.kind !h.withholdPasswords)
  | .removed => none

/-- A look at the feed. -/
def look (h : Holding) : Holding × Option Transaction :=
  match h.script with
  | none => (h, none)
  | some script =>
    (match script.entries.tail with
      | [] => { h with resource := h.finish script.outcome, script := none }
      | rest => { h with script := some { script with entries := rest } },
      script.entries.head?.join)

/-- The holding after so many looks at the feed of a script. -/
def played (h : Holding) (script : Script) (count : Nat) : Holding :=
  if count = 0 ∨ count < script.entries.length then
    { h with script := some { script with entries := script.entries.drop count } }
  else { h with resource := h.finish script.outcome, script := none }

theorem played_zero {h : Holding} {script : Script} (hscript : h.script = some script) :
    h.played script 0 = h := by
  unfold played
  rw [if_pos (.inl rfl), List.drop_zero, ← hscript]

/-- The looks at a feed show the entries of its script in order, and nothing
after the last one. -/
theorem look_played (h : Holding) (script : Script) (count : Nat) :
    (h.played script count).look =
      (h.played script (count + 1), script.entries[count]?.join) := by
  by_cases hunder : count = 0 ∨ count < script.entries.length
  · have hplayed : h.played script count =
        { h with script := some { script with entries := script.entries.drop count } } :=
      if_pos hunder
    rw [hplayed]
    unfold look
    dsimp only
    rw [List.tail_drop, List.head?_drop]
    by_cases hnext : count + 1 < script.entries.length
    · have hrest : script.entries.drop (count + 1) ≠ [] := by
        intro hnil
        have hlength := List.drop_eq_nil_iff.mp hnil
        omega
      have hnextPlayed : h.played script (count + 1) =
          { h with script := some { script with entries := script.entries.drop (count + 1) } } :=
        if_pos (.inr hnext)
      rw [hnextPlayed]
      cases hdrop : script.entries.drop (count + 1) with
      | nil => exact absurd hdrop hrest
      | cons entry rest => rfl
    · have hover : ¬(count + 1 = 0 ∨ count + 1 < script.entries.length) := by omega
      have hnextPlayed : h.played script (count + 1) =
          { h with resource := h.finish script.outcome, script := none } := if_neg hover
      rw [hnextPlayed, List.drop_eq_nil_of_le (by omega)]
      rfl
  · have hplayed : h.played script count =
        { h with resource := h.finish script.outcome, script := none } := if_neg hunder
    have hover : ¬(count + 1 = 0 ∨ count + 1 < script.entries.length) := by omega
    have hnextPlayed : h.played script (count + 1) =
        { h with resource := h.finish script.outcome, script := none } := if_neg hover
    rw [hplayed, hnextPlayed, List.getElem?_eq_none (by omega)]
    rfl

end Holding

/-- The feed of a new resource whose transactions are numbered from here. -/
def Script.provisioning (number : Nat) : Script :=
  ⟨[some ⟨number, "PROVISION_SERVER", 0, 1.5⟩, some ⟨number + 1, "OS_RELOAD", 0, 1.5⟩,
    some ⟨number + 1, "OS_RELOAD", 0, 1.5⟩, none], .provisioned⟩

/-- The feed of a resource that is taken away. -/
def Script.decommission (number : Nat) : Script :=
  ⟨[some ⟨number, "RECLAIM_WAIT", 0, 1.5⟩, some ⟨number, "RECLAIM_WAIT", 0, 1.5⟩, none], .removed⟩

namespace Simulator

/-- What the vendor holds for a resource id. -/
def holding (s : Simulator) (id : ResourceId) : Holding :=
  ⟨s.kind, s.withholdPasswords, s.find? id, s.scripts.find? id⟩

variable {s : Simulator} {id other : ResourceId}

/-! ## Changing one resource -/

theorem find?_changeFirst {α : Type} (p q : α → Bool) (f : α → α)
    (keeps : ∀ a, q (f a) = q a) (l : List α) (disjoint : ∀ a, p a = true → q a = false) :
    (changeFirst p f l).find? q = l.find? q := by
  induction l with
  | nil => rfl
  | cons a rest ih =>
    unfold changeFirst
    by_cases hp : p a = true
    · rw [if_pos hp, List.find?_cons, List.find?_cons, keeps, disjoint a hp]
    · rw [if_neg hp, List.find?_cons, List.find?_cons, ih]

theorem find?_changeFirst_self {α : Type} (p : α → Bool) (f : α → α)
    (keeps : ∀ a, p (f a) = p a) (l : List α) :
    (changeFirst p f l).find? p = (l.find? p).map f := by
  induction l with
  | nil => rfl
  | cons a rest ih =>
    unfold changeFirst
    by_cases hp : p a = true
    · rw [if_pos hp, List.find?_cons, List.find?_cons, keeps, hp]
      rfl
    · have hp : p a = false := Bool.eq_false_iff.mpr hp
      rw [hp, if_neg Bool.false_ne_true, List.find?_cons, List.find?_cons, hp, ih]

/-- Changing an element of a list keeps what does not depend on the change. -/
theorem of_mem_changeFirst {α : Type} {p : α → Bool} {f : α → α} {q : α → Prop}
    (keeps : ∀ a, q a → q (f a)) {l : List α} (h : ∀ a ∈ l, q a) :
    ∀ a ∈ changeFirst p f l, q a := by
  induction l with
  | nil => exact h
  | cons a rest ih =>
    have hrest := ih fun b hb => h b (List.mem_cons_of_mem _ hb)
    unfold changeFirst
    split
    · intro b hb
      rcases List.mem_cons.mp hb with hb | hb
      · rw [hb]
        exact keeps a (h a List.mem_cons_self)
      · exact h b (List.mem_cons_of_mem _ hb)
    · intro b hb
      rcases List.mem_cons.mp hb with hb | hb
      · rw [hb]
        exact h a List.mem_cons_self
      · exact hrest b hb

theorem find?_change_self (f : Resource → Resource) (keeps : ∀ r, (f r).id = r.id) :
    (s.change id f).find? id = (s.find? id).map f := by
  unfold find? change
  rw [find?_changeFirst_self, Option.map_map, Option.map_map]
  · rfl
  · intro held
    simp only [keeps]

theorem find?_change_of_ne (f : Resource → Resource) (keeps : ∀ r, (f r).id = r.id)
    (h : other ≠ id) : (s.change id f).find? other = s.find? other := by
  unfold find? change
  rw [find?_changeFirst]
  · intro held
    simp only [keeps]
  · intro held hid
    have hid : held.resource.id = id := by simpa using hid
    rw [hid]
    exact beq_eq_false_iff_ne.mpr h.symm

theorem find?_removeResource_self : (s.removeResource id).find? id = none := by
  unfold find? removeResource
  rw [Option.map_eq_none_iff, List.find?_eq_none]
  intro held hmem hid
  have hne := (List.mem_filter.mp hmem).2
  simp_all

theorem find?_removeResource_of_ne (h : other ≠ id) :
    (s.removeResource id).find? other = s.find? other := by
  unfold find? removeResource
  rw [List.find?_filter]
  congr 2
  funext held
  by_cases hid : held.resource.id = other
  · simp [hid, h]
  · simp [hid]

/-! ## The end of a cycle -/

theorem find?_finishCycle_self (outcome : CycleOutcome) :
    (s.finishCycle id outcome).find? id = (s.holding id).finish outcome := by
  cases outcome with
  | provisioned => exact find?_change_self _ fun _ => rfl
  | removed => exact find?_removeResource_self

theorem find?_finishCycle_of_ne (outcome : CycleOutcome) (h : other ≠ id) :
    (s.finishCycle id outcome).find? other = s.find? other := by
  cases outcome with
  | provisioned => exact find?_change_of_ne _ (fun _ => rfl) h
  | removed => exact find?_removeResource_of_ne h

/-- Nothing but the resources changes at the end of a cycle. -/
theorem finishCycle_eq (s : Simulator) (id : ResourceId) (outcome : CycleOutcome) :
    ∃ resources, s.finishCycle id outcome = { s with resources := resources } := by
  cases outcome with
  | provisioned => exact ⟨_, rfl⟩
  | removed => exact ⟨_, rfl⟩

/-! ## Looking at a feed -/

theorem nextTransaction_snd : (s.nextTransaction id).2 = (s.holding id).look.2 := by
  unfold nextTransaction Holding.look holding
  cases s.scripts.find? id with
  | none => rfl
  | some script =>
    dsimp only
    split <;> rfl

theorem holding_nextTransaction_self :
    (s.nextTransaction id).1.holding id = (s.holding id).look.1 := by
  unfold nextTransaction Holding.look
  have hscript : (s.holding id).script = s.scripts.find? id := rfl
  rw [hscript]
  cases s.scripts.find? id with
  | none => rfl
  | some script =>
    dsimp only
    cases script.entries.tail with
    | nil =>
      obtain ⟨resources, heq⟩ :=
        finishCycle_eq { s with scripts := s.scripts.remove id } id script.outcome
      have hfind : _ = Holding.finish (holding { s with scripts := s.scripts.remove id } id) _ :=
        find?_finishCycle_self script.outcome
      unfold holding
      rw [hfind, heq]
      simp only [Lookup.find?_remove, if_true]
      rfl
    | cons entry rest =>
      simp only [holding, Lookup.find?_put, if_true]
      rfl

theorem holding_nextTransaction_of_ne (h : other ≠ id) :
    (s.nextTransaction id).1.holding other = s.holding other := by
  unfold nextTransaction
  cases s.scripts.find? id with
  | none => rfl
  | some script =>
    dsimp only
    cases script.entries.tail with
    | nil =>
      obtain ⟨resources, heq⟩ :=
        finishCycle_eq { s with scripts := s.scripts.remove id } id script.outcome
      have hfind := find?_finishCycle_of_ne (s := { s with scripts := s.scripts.remove id })
        script.outcome h
      unfold holding
      rw [hfind, heq]
      simp only [Lookup.find?_remove, if_neg h]
      rfl
    | cons entry rest =>
      simp only [holding, Lookup.find?_put, if_neg h]
      rfl

/-! ## Calls about no resource -/

theorem holding_arrive (s : Simulator) (id : ResourceId) (call : Call) :
    (s.arrive call).1.holding id = s.holding id := by
  cases call <;> rfl

theorem holding_checkOrder (orderId : Nat) :
    (s.checkOrder orderId).1.holding id = s.holding id := by
  unfold checkOrder
  split
  · rfl
  · split <;> rfl

theorem holding_listDirectory : s.listDirectory.1.holding id = s.holding id := by
  have hfind : s.listDirectory.1.find? id = s.find? id := by
    unfold find? listDirectory
    rw [List.find?_map, Option.map_map]
    rfl
  unfold holding
  rw [hfind]
  rfl

/-! ## What calls leave alone -/

/-- A call that is no order changes neither the settings of the vendor nor what
it has in store for orders; only a check changes the orders, and of the faults to come
none is added. -/
theorem call_frame (s : Simulator) {c : Call} (submits : c.operation ≠ .submitOrder) :
    ∃ resources orders scripts nextTransactionId catalogFaults calls,
      (s.call c).1 = { s with
        resources := resources
        orders := orders
        scripts := scripts
        nextTransactionId := nextTransactionId
        catalogFaults := catalogFaults
        calls := calls } ∧
      (c.operation ≠ .billingOrder → orders = s.orders) ∧ catalogFaults <:+ s.catalogFaults := by
  cases c with
  | submitOrder order => exact absurd rfl submits
  | billingOrder orderId =>
    simp only [call, arrive, serve, checkOrder]
    split
    · exact ⟨_, _, _, _, _, _, rfl, fun h => absurd rfl h, List.suffix_rfl⟩
    · split <;> exact ⟨_, _, _, _, _, _, rfl, fun h => absurd rfl h, List.suffix_rfl⟩
  | getResource id => exact ⟨_, _, _, _, _, _, rfl, fun _ => rfl, List.suffix_rfl⟩
  | listResources => exact ⟨_, _, _, _, _, _, rfl, fun _ => rfl, List.suffix_rfl⟩
  | packageDetail packageId => exact ⟨_, _, _, _, _, _, rfl, fun _ => rfl, List.suffix_rfl⟩
  | activePackageByName name =>
    simp only [call, arrive, serve]
    split <;> exact ⟨_, _, _, _, _, _, rfl, fun _ => rfl, List.tail_suffix _⟩
  | activeTransaction id =>
    simp only [call, arrive, serve, nextTransaction]
    split
    · exact ⟨_, _, _, _, _, _, rfl, fun _ => rfl, List.suffix_rfl⟩
    · rename_i script _
      split
      · cases script.outcome <;> exact ⟨_, _, _, _, _, _, rfl, fun _ => rfl, List.suffix_rfl⟩
      · exact ⟨_, _, _, _, _, _, rfl, fun _ => rfl, List.suffix_rfl⟩
  | cancelBillingItem billingItemId =>
    simp only [call, arrive, serve, cancel]
    split
    · exact ⟨_, _, _, _, _, _, rfl, fun _ => rfl, List.suffix_rfl⟩
    · dsimp only
      split <;> exact ⟨_, _, _, _, _, _, rfl, fun _ => rfl, List.suffix_rfl⟩
  | reboot id =>
    simp only [call, arrive, serve, setPower]
    split <;> exact ⟨_, _, _, _, _, _, rfl, fun _ => rfl, List.suffix_rfl⟩
  | pause id =>
    simp only [call, arrive, serve, setPower]
    split <;> exact ⟨_, _, _, _, _, _, rfl, fun _ => rfl, List.suffix_rfl⟩
  | resume id =>
    simp only [call, arrive, serve, setPower]
    split <;> exact ⟨_, _, _, _, _, _, rfl, fun _ => rfl, List.suffix_rfl⟩

/-! ## A new resource -/

/-- The id that the next order for a hostname is given. -/
def givenId (s : Simulator) (hostname : String) : ResourceId :=
  match s.reservedIds.find? hostname with
  | some id => id
  | none => ⟨s.nextResourceId⟩

theorem assignId_snd (s : Simulator) (hostname : String) :
    (s.assignId hostname).2 = s.givenId hostname := by
  unfold assignId givenId
  cases s.reservedIds.find? hostname <;> rfl

/-- The script that a new resource of this id has: the one in place, or else a
new provisioning. -/
def firstScript (s : Simulator) (id : ResourceId) : Script :=
  match s.scripts.find? id with
  | some script => script
  | none => .provisioning s.nextTransactionId

theorem assignId_fst (s : Simulator) (hostname : String) :
    ∃ reservedIds nextResourceId, (s.assignId hostname).1 =
      { s with reservedIds := reservedIds, nextResourceId := nextResourceId } := by
  unfold assignId
  split
  · exact ⟨_, _, rfl⟩
  · exact ⟨_, _, rfl⟩

theorem ensureScript_eq (s : Simulator) (id : ResourceId) :
    ∃ nextTransactionId scripts, s.ensureScript id =
        { s with nextTransactionId := nextTransactionId, scripts := scripts } ∧
      ∀ other, scripts.find? other =
        if other = id then some (s.firstScript id) else s.scripts.find? other := by
  unfold ensureScript
  by_cases hscript : (s.scripts.find? id).isSome = true
  · rw [if_pos hscript]
    refine ⟨s.nextTransactionId, s.scripts, rfl, fun other => ?_⟩
    obtain ⟨script, hscript⟩ := Option.isSome_iff_exists.mp hscript
    unfold firstScript
    rw [hscript]
    split
    · rename_i heq
      rw [heq, hscript]
    · rfl
  · rw [if_neg hscript]
    refine ⟨s.nextTransactionId + 1 + 1, _, rfl, fun other => ?_⟩
    have hnone : s.scripts.find? id = none := by
      simpa using hscript
    unfold firstScript
    rw [hnone]
    exact Lookup.find?_put _ _ _ _

/-- What an order does to the vendor. -/
theorem placeOrder_fst (s : Simulator) (order : Order) :
    ∃ reservedIds nextResourceId nextTransactionId scripts,
      (s.placeOrder order).1 = { s with
        reservedIds := reservedIds
        nextResourceId := nextResourceId
        nextTransactionId := nextTransactionId
        scripts := scripts
        resources := s.resources ++
          [⟨s.orderedResource order (s.givenId order.resource.hostname), s.discoveryDelay⟩]
        orders := s.orders ++ [⟨s.nextOrderId, s.approvalDelay⟩]
        nextOrderId := s.nextOrderId + 1
        submitted := s.submitted ++ [order] } ∧
      ∀ id, scripts.find? id =
        if id = s.givenId order.resource.hostname then
          some (s.firstScript (s.givenId order.resource.hostname))
        else s.scripts.find? id := by
  obtain ⟨reservedIds, nextResourceId, hassign⟩ := s.assignId_fst order.resource.hostname
  rw [← assignId_snd]
  unfold placeOrder
  generalize hgiven : s.assignId order.resource.hostname = given at hassign
  obtain ⟨s', id⟩ := given
  dsimp only at hassign ⊢
  subst hassign
  obtain ⟨nextTransactionId, scripts, hensure, hscripts⟩ := ensureScript_eq
    (holdResource { s with reservedIds := reservedIds, nextResourceId := nextResourceId }
      (orderedResource { s with reservedIds := reservedIds, nextResourceId := nextResourceId }
        order id)) id
  refine ⟨reservedIds, nextResourceId, nextTransactionId, scripts, ?_, hscripts⟩
  rw [hensure]
  rfl

/-- A call is counted once, and nothing else is. -/
theorem calls_call (s : Simulator) (c : Call) : (s.call c).1.calls = s.calls.record c.operation := by
  cases c with
  | submitOrder order =>
    obtain ⟨_, _, _, _, hs, -⟩ := (s.arrive (.submitOrder order)).1.placeOrder_fst order
    rw [show (s.call (.submitOrder order)).1 = _ from hs]
    rfl
  | activeTransaction id =>
    simp only [call, arrive, serve, nextTransaction]
    split
    · rfl
    · rename_i script _
      split
      · cases script.outcome <;> rfl
      · rfl
  | cancelBillingItem item =>
    simp only [call, arrive, serve, cancel]
    split
    · rfl
    · dsimp only
      split <;> rfl
  | billingOrder orderId =>
    simp only [call, arrive, serve, checkOrder]
    split
    · rfl
    · split <;> rfl
  | activePackageByName name =>
    simp only [call, arrive, serve]
    split <;> rfl
  | reboot id | pause id | resume id =>
    simp only [call, arrive, serve, setPower]
    split <;> rfl
  | getResource id | listResources | packageDetail packageId => rfl

/-- No call changes the kind, the catalog or its latency, and none adds a fault to come. -/
theorem settings_call (s : Simulator) (c : Call) :
    (s.call c).1.kind = s.kind ∧ (s.call c).1.catalog = s.catalog ∧
      (s.call c).1.catalogLatencyMs = s.catalogLatencyMs ∧
      (s.call c).1.catalogFaults <:+ s.catalogFaults := by
  by_cases submits : c.operation = .submitOrder
  · cases c with
    | submitOrder order =>
      obtain ⟨_, _, _, _, hs, -⟩ := (s.arrive (.submitOrder order)).1.placeOrder_fst order
      rw [show (s.call (.submitOrder order)).1 = _ from hs]
      exact ⟨rfl, rfl, rfl, List.suffix_rfl⟩
    | _ => cases submits
  · obtain ⟨_, _, _, _, _, _, heq, -, faults⟩ := s.call_frame submits
    rw [heq]
    exact ⟨rfl, rfl, rfl, faults⟩

/-- What an order is answered with. -/
theorem placeOrder_snd (s : Simulator) (order : Order) :
    (s.placeOrder order).2 = ⟨s.nextOrderId, order,
      if s.echoReceipts then [s.orderedResource order (s.givenId order.resource.hostname)]
      else []⟩ := by
  obtain ⟨reservedIds, nextResourceId, hassign⟩ := s.assignId_fst order.resource.hostname
  rw [← assignId_snd]
  unfold placeOrder
  generalize hgiven : s.assignId order.resource.hostname = given at hassign
  obtain ⟨s', id⟩ := given
  dsimp only at hassign ⊢
  subst hassign
  obtain ⟨nextTransactionId, scripts, hensure, -⟩ := ensureScript_eq
    (holdResource { s with reservedIds := reservedIds, nextResourceId := nextResourceId }
      (orderedResource { s with reservedIds := reservedIds, nextResourceId := nextResourceId }
        order id)) id
  rw [hensure]
  rfl

theorem holding_placeOrder_self {order : Order}
    (fresh : s.find? (s.givenId order.resource.hostname) = none) :
    (s.placeOrder order).1.holding (s.givenId order.resource.hostname) =
      ⟨s.kind, s.withholdPasswords,
        some (s.orderedResource order (s.givenId order.resource.hostname)),
        some (s.firstScript (s.givenId order.resource.hostname))⟩ := by
  obtain ⟨reservedIds, nextResourceId, nextTransactionId, scripts, hs, hscripts⟩ :=
    s.placeOrder_fst order
  rw [hs]
  unfold holding
  have hfind : ∀ held : HeldResource, held.resource.id = s.givenId order.resource.hostname →
      (s.resources ++ [held]).find? (·.resource.id == s.givenId order.resource.hostname) =
        some held := by
    intro held hid
    unfold find? at fresh
    rw [List.find?_append, Option.map_eq_none_iff.mp fresh]
    simp [hid]
  unfold find?
  dsimp only
  rw [hfind _ rfl, hscripts, if_pos rfl]
  rfl

theorem holding_placeOrder_of_ne {order : Order} (h : id ≠ s.givenId order.resource.hostname) :
    (s.placeOrder order).1.holding id = s.holding id := by
  obtain ⟨reservedIds, nextResourceId, nextTransactionId, scripts, hs, hscripts⟩ :=
    s.placeOrder_fst order
  rw [hs]
  unfold holding find?
  dsimp only
  have hne : (s.orderedResource order (s.givenId order.resource.hostname)).id ≠ id := h.symm
  rw [hscripts, if_neg h, List.find?_append]
  simp [hne]

/-! ## Calls -/

variable {order : Order}

theorem holding_call_billingOrder (s : Simulator) (id : ResourceId) (orderId : Nat) :
    (s.call (.billingOrder orderId)).1.holding id = s.holding id :=
  holding_checkOrder (s := (s.arrive (.billingOrder orderId)).1) orderId

theorem holding_call_listResources (s : Simulator) (id : ResourceId) :
    (s.call .listResources).1.holding id = s.holding id :=
  holding_listDirectory (s := (s.arrive .listResources).1)

theorem holding_call_activeTransaction_of_ne (s : Simulator) (h : other ≠ id) :
    (s.call (.activeTransaction id)).1.holding other = s.holding other :=
  holding_nextTransaction_of_ne (s := (s.arrive (.activeTransaction id)).1) h

theorem call_submitOrder (s : Simulator) (order : Order) :
    (s.call (.submitOrder order)).2 = .ok ⟨s.nextOrderId, order,
      if s.echoReceipts then [s.orderedResource order (s.givenId order.resource.hostname)]
      else []⟩ :=
  congrArg Except.ok ((s.arrive (.submitOrder order)).1.placeOrder_snd order)

theorem holding_call_submitOrder_self
    (fresh : s.find? (s.givenId order.resource.hostname) = none) :
    (s.call (.submitOrder order)).1.holding (s.givenId order.resource.hostname) =
      ⟨s.kind, s.withholdPasswords,
        some (s.orderedResource order (s.givenId order.resource.hostname)),
        some (s.firstScript (s.givenId order.resource.hostname))⟩ :=
  holding_placeOrder_self (s := (s.arrive (.submitOrder order)).1) fresh

theorem holding_call_submitOrder_of_ne (h : id ≠ s.givenId order.resource.hostname) :
    (s.call (.submitOrder order)).1.holding id = s.holding id :=
  holding_placeOrder_of_ne (s := (s.arrive (.submitOrder order)).1) h

end Simulator

end Provisioning
