import Mathlib.Data.List.Induction
import Mathlib.Data.List.Nodup
import Provisioning.Proofs.Vendor.Aftermath
import Provisioning.Proofs.Vendor.Deeds

/-!
# The delays of a vendor

Every resource has a counter of the listings that still omit it and every order a
counter of the checks until it is approved.  The counters are set when an order
comes in, and calls about anything count them down.  `Books` relates them to the
run: a counter is the delay that was set less what has been counted since, and the
resources that are left are, in their order, those of the orders that were placed.

The resources are compared as a sublist and not as a list because a resource may
go and takes its counter with it, while an order stays.
-/

namespace Provisioning.Simulator

variable {s : Simulator} {deed : Deed} {deeds : List Deed}

/-! ## The orders of a run -/

/-- The deed is a listing. -/
def Deed.lists : Deed → Bool
  | .call .listResources => true
  | _ => false

/-- The deed is a check of the order. -/
def Deed.checks (orderId : Nat) : Deed → Bool
  | .call (.billingOrder other) => other == orderId
  | _ => false

/-- The number of listings in a run. -/
def listings (deeds : List Deed) : Nat :=
  deeds.countP (·.lists)

/-- The number of checks of an order in a run. -/
def checks (orderId : Nat) (deeds : List Deed) : Nat :=
  deeds.countP (·.checks orderId)

/-- An order that was placed: the id that its resource was given, the number in its
receipt, the delays that were set when it came in, and what has been done since. -/
structure Placed where
  id : ResourceId
  orderId : Nat
  hiddenFor : Nat
  pendingFor : Nat
  since : List Deed

namespace Placed

/-- The number of listings that still omit the resource. -/
def hidden (p : Placed) : Nat :=
  p.hiddenFor - listings p.since

/-- The number of checks until the order is approved. -/
def pending (p : Placed) : Nat :=
  p.pendingFor - checks p.orderId p.since

/-- The order after one more deed. -/
def later (deed : Deed) (p : Placed) : Placed :=
  { p with since := p.since ++ [deed] }

theorem hidden_later (deed : Deed) (p : Placed) :
    (p.later deed).hidden = p.hidden - if deed.lists then 1 else 0 := by
  simp only [hidden, later, listings, List.countP_append, List.countP_singleton, Nat.sub_add_eq]

theorem pending_later (deed : Deed) (p : Placed) :
    (p.later deed).pending = p.pending - if deed.checks p.orderId then 1 else 0 := by
  simp only [pending, later, checks, List.countP_append, List.countP_singleton, Nat.sub_add_eq]

end Placed

/-- The order that a deed places, if it does. -/
def placement? (s : Simulator) (since : List Deed) : Deed → Option Placed
  | .call (.submitOrder order) =>
    some ⟨(s.assignId order.resource.hostname).2, (s.placeOrder order).2.orderId,
      s.discoveryDelay, s.approvalDelay, since⟩
  | _ => none

/-- The orders of a run as they came in. -/
def placed (s : Simulator) : List Deed → List Placed
  | [] => []
  | deed :: rest => (s.placement? rest deed).toList ++ (s.does deed).placed rest

theorem placement?_concat (s : Simulator) (since : List Deed) (first deed : Deed) :
    s.placement? (since ++ [deed]) first = (s.placement? since first).map (·.later deed) := by
  unfold placement?
  split <;> rfl

theorem placed_concat (s : Simulator) (deeds : List Deed) (deed : Deed) :
    s.placed (deeds ++ [deed]) =
      (s.placed deeds).map (·.later deed) ++ ((s.after deeds).placement? [] deed).toList := by
  induction deeds generalizing s with
  | nil => simp [placed]
  | cons first rest ih =>
    rw [List.cons_append, placed, placed, ih, placement?_concat, List.map_append,
      List.append_assoc, after_cons]
    cases s.placement? rest first <;> rfl

/-! ## The counters -/

/-- The resources by their ids, with the number of listings that still omit them. -/
def delays (s : Simulator) : List (ResourceId × Nat) :=
  s.resources.map fun held => (held.resource.id, held.hiddenFor)

theorem lasting_delay : Lasting fun held => (held.resource.id, held.hiddenFor) :=
  fun _ _ same => Prod.ext (congrArg Badge.id same) rfl

/-- A deed that neither reserves an id nor inserts a resource. -/
def Deed.Ordinary : Deed → Prop
  | .control (.reserveId _ _) | .control (.insertResource _) => False
  | _ => True

/-- A deed that places no order. -/
def Deed.Quiet (deed : Deed) : Prop :=
  ∀ order, deed ≠ .call (.submitOrder order)

theorem Deed.Quiet.submits {c : Call} (quiet : Quiet (.call c)) : c.operation ≠ .submitOrder := by
  cases c with
  | submitOrder order => exact absurd rfl (quiet order)
  | _ => nofun

theorem placement?_of_quiet (quiet : deed.Quiet) (since : List Deed) :
    s.placement? since deed = none := by
  unfold placement?
  split
  · rename_i order
    exact absurd rfl (quiet order)
  · rfl

/-- Only orders take numbers and ids. -/
theorem numbers_does (ordinary : deed.Ordinary) (quiet : deed.Quiet) :
    (s.does deed).reservedIds = s.reservedIds ∧
      (s.does deed).nextResourceId = s.nextResourceId ∧
      (s.does deed).nextOrderId = s.nextOrderId := by
  cases deed with
  | call c =>
    obtain ⟨_, _, _, _, _, _, heq, -⟩ := s.call_frame quiet.submits
    rw [does, heq]
    exact ⟨rfl, rfl, rfl⟩
  | arrival c => cases c <;> exact ⟨rfl, rfl, rfl⟩
  | control control =>
    cases control with
    | reserveId hostname id => exact ordinary.elim
    | _ => exact ⟨rfl, rfl, rfl⟩

/-- A listing counts all resources down, and nothing else does. -/
theorem delays_does (ordinary : deed.Ordinary) (quiet : deed.Quiet) :
    (s.does deed).delays.Sublist
      (s.delays.map fun (id, hiddenFor) => (id, hiddenFor - if deed.lists then 1 else 0)) := by
  have kept : deed.lists = false → (s.does deed).delays.Sublist s.delays →
      (s.does deed).delays.Sublist
        (s.delays.map fun (id, hiddenFor) =>
          (id, hiddenFor - if deed.lists then 1 else 0)) := by
    intro blind sub
    simpa only [blind, Bool.false_eq_true, if_false, Nat.sub_zero, List.map_id'] using sub
  cases deed with
  | arrival c =>
    refine kept rfl (sublist_of_eq ?_)
    cases c <;> rfl
  | control control =>
    cases control with
    | insertResource resource => exact ordinary.elim
    | completeProvisioning id =>
      exact kept rfl (map_finishCycle lasting_delay id .provisioned)
    | _ => exact kept rfl (List.Sublist.refl _)
  | call c =>
    by_cases lists : c.operation = .listResources
    · cases c with
      | listResources =>
        refine sublist_of_eq ?_
        show (s.listDirectory.1.resources.map _) = (List.map _ (List.map _ _))
        unfold listDirectory
        rw [List.map_map, List.map_map]
        rfl
      | _ => cases lists
    · refine kept ?_ (map_call lasting_delay s quiet.submits lists)
      cases c with
      | listResources => exact absurd rfl lists
      | _ => rfl

/-- What is told apart by a key is found by it. -/
theorem find?_of_nodup {α β : Type} [BEq β] [LawfulBEq β] {key : α → β} {l : List α}
    (nodup : (l.map key).Nodup) {a : α} (mem : a ∈ l) : l.find? (key · == key a) = some a := by
  cases hfind : l.find? (key · == key a) with
  | none => exact absurd (beq_self_eq_true _) (List.find?_eq_none.mp hfind a mem)
  | some b =>
    have same := List.find?_some hfind
    rw [List.inj_on_of_nodup_map nodup (List.mem_of_find?_eq_some hfind) mem (beq_iff_eq.mp same)]

theorem changeFirst_eq_map {α β : Type} [BEq β] [LawfulBEq β] {key : α → β} {l : List α}
    (nodup : (l.map key).Nodup) (k : β) (f : α → α) :
    changeFirst (key · == k) f l = l.map fun a => if key a == k then f a else a := by
  induction l with
  | nil => rfl
  | cons a rest ih =>
    obtain ⟨apart, nodup⟩ := List.nodup_cons.mp nodup
    rw [changeFirst, List.map_cons]
    split
    · rename_i found
      have others : ∀ b ∈ rest, (if key b == k then f b else b) = b := by
        intro b hb
        refine if_neg fun same => apart ?_
        rw [beq_iff_eq.mp found, ← beq_iff_eq.mp same]
        exact List.mem_map_of_mem hb
      rw [List.map_congr_left others, List.map_id']
    · rw [ih nodup]

/-- A check counts its order down. -/
theorem orders_checkOrder (numbers : (s.orders.map (·.id)).Nodup) (orderId : Nat) :
    (s.checkOrder orderId).1.orders = s.orders.map fun held =>
      ⟨held.id, held.pendingFor - if held.id == orderId then 1 else 0⟩ := by
  have unchanged : (∀ held ∈ s.orders, held.id = orderId → held.pendingFor = 0) →
      s.orders = s.orders.map fun held =>
        ⟨held.id, held.pendingFor - if held.id == orderId then 1 else 0⟩ := by
    intro none
    refine (List.map_id' _).symm.trans (List.map_congr_left fun held hheld => ?_)
    split
    · rename_i same
      have approved := none held hheld (beq_iff_eq.mp same)
      exact congrArg (HeldOrder.mk held.id) (by omega)
    · rfl
  unfold checkOrder
  cases hfind : s.orders.find? (·.id == orderId) with
  | none =>
    refine unchanged fun held hheld same => ?_
    exact absurd (beq_iff_eq.mpr same) (List.find?_eq_none.mp hfind held hheld)
  | some found =>
    dsimp only
    split
    · rename_i approved
      refine unchanged fun held hheld same => ?_
      have hheld := find?_of_nodup numbers hheld
      rw [same, hfind] at hheld
      cases hheld
      exact approved
    · refine (changeFirst_eq_map numbers orderId _).trans (List.map_congr_left fun held _ => ?_)
      split <;> rfl

theorem orders_does (quiet : deed.Quiet) (numbers : (s.orders.map (·.id)).Nodup) :
    (s.does deed).orders = s.orders.map fun held =>
      ⟨held.id, held.pendingFor - if deed.checks held.id then 1 else 0⟩ := by
  have kept : (∀ orderId, deed.checks orderId = false) → (s.does deed).orders = s.orders →
      (s.does deed).orders = s.orders.map fun held =>
        ⟨held.id, held.pendingFor - if deed.checks held.id then 1 else 0⟩ := by
    intro blind same
    simp only [same, blind, Bool.false_eq_true, if_false, Nat.sub_zero, List.map_id']
  cases deed with
  | arrival c => cases c <;> exact kept (fun _ => rfl) rfl
  | control control => cases control <;> exact kept (fun _ => rfl) rfl
  | call c =>
    by_cases checks : c.operation = .billingOrder
    · cases c with
      | billingOrder orderId =>
        have counted :=
          orders_checkOrder (s := (s.arrive (.billingOrder orderId)).1) numbers orderId
        simp only [Deed.checks, eq_comm (a := orderId), beq_eq_decide] at counted ⊢
        exact counted
      | _ => cases checks
    · obtain ⟨_, orders, _, _, _, _, heq, horders, -⟩ := s.call_frame quiet.submits
      refine kept (fun orderId => ?_) ?_
      · cases c with
        | billingOrder other => exact absurd rfl checks
        | _ => rfl
      · rw [does, heq]
        exact horders checks

/-! ## The books -/

/-- The counters of a vendor are those of the orders that were placed. -/
structure Books (s : Simulator) (placed : List Placed) : Prop where
  unreserved : s.reservedIds = []
  given : ∀ p ∈ placed, p.id.value < s.nextResourceId
  ids : (placed.map (·.id)).Nodup
  delays : s.delays.Sublist (placed.map fun p => (p.id, p.hidden))
  numbered : ∀ p ∈ placed, p.orderId < s.nextOrderId
  numbers : (placed.map (·.orderId)).Nodup
  orders : s.orders = placed.map fun p => ⟨p.orderId, p.pending⟩

namespace Books

variable {placed : List Placed}

theorem empty (kind : ResourceKind) : (empty kind).Books [] where
  unreserved := rfl
  given := nofun
  ids := List.nodup_nil
  delays := List.Sublist.refl _
  numbered := nofun
  numbers := List.nodup_nil
  orders := rfl

/-- The ids and the numbers of orders stay, whatever is done. -/
theorem map_later {α : Type} (f : Placed → α) (keeps : ∀ p since, f { p with since := since } = f p)
    (deed : Deed) (placed : List Placed) : (placed.map (·.later deed)).map f = placed.map f := by
  rw [List.map_map]
  exact List.map_congr_left fun p _ => keeps p _

theorem delays_later (deed : Deed) (placed : List Placed) :
    (placed.map (·.later deed)).map (fun p => (p.id, p.hidden)) =
      (placed.map fun p => (p.id, p.hidden)).map fun (id, hiddenFor) =>
        (id, hiddenFor - if deed.lists then 1 else 0) := by
  rw [List.map_map, List.map_map]
  exact List.map_congr_left fun p _ => Prod.ext rfl (p.hidden_later deed)

theorem orders_later (deed : Deed) (placed : List Placed) :
    (placed.map (·.later deed)).map (fun p => HeldOrder.mk p.orderId p.pending) =
      (placed.map fun p => HeldOrder.mk p.orderId p.pending).map fun held =>
        ⟨held.id, held.pendingFor - if deed.checks held.id then 1 else 0⟩ := by
  rw [List.map_map, List.map_map]
  exact List.map_congr_left fun p _ => congrArg (HeldOrder.mk p.orderId) (p.pending_later deed)

/-- The orders that the vendor has are told apart by their numbers. -/
theorem nodup_orders (h : s.Books placed) : (s.orders.map (·.id)).Nodup := by
  rw [h.orders, List.map_map]
  exact h.numbers

/-- A deed that is no order counts down what it counts. -/
theorem quiet (h : s.Books placed) (ordinary : deed.Ordinary) (quiet : deed.Quiet) :
    (s.does deed).Books (placed.map (·.later deed)) := by
  obtain ⟨hreserved, hresource, horder⟩ := numbers_does (s := s) ordinary quiet
  refine
    { unreserved := hreserved.trans h.unreserved
      given := ?given
      ids := ?ids
      delays := ?delays
      numbered := ?numbered
      numbers := ?numbers
      orders := ?orders }
  case given =>
    rw [hresource]
    exact List.forall_mem_map.mpr h.given
  case ids =>
    rw [map_later _ fun _ _ => rfl]
    exact h.ids
  case delays =>
    rw [delays_later]
    exact (delays_does ordinary quiet).trans (h.delays.map _)
  case numbered =>
    rw [horder]
    exact List.forall_mem_map.mpr h.numbered
  case numbers =>
    rw [map_later _ fun _ _ => rfl]
    exact h.numbers
  case orders =>
    rw [orders_later, ← h.orders]
    exact orders_does quiet h.nodup_orders

/-- An order is entered at the end, under a new id and a new number. -/
theorem submit (h : s.Books placed) (order : Order) :
    (s.call (.submitOrder order)).1.Books (placed.map (·.later (.call (.submitOrder order))) ++
      [⟨(s.assignId order.resource.hostname).2, (s.placeOrder order).2.orderId, s.discoveryDelay,
        s.approvalDelay, []⟩]) := by
  rw [assignId_snd, placeOrder_snd]
  obtain ⟨hid, hreserved, hnext⟩ :=
    placeOrder_of_unreserved (s := (s.arrive (.submitOrder order)).1) h.unreserved order
  have hid : s.givenId order.resource.hostname = ⟨s.nextResourceId⟩ := hid
  have hnext : (s.call (.submitOrder order)).1.nextResourceId = s.nextResourceId + 1 := hnext
  obtain ⟨_, _, _, _, hs, -⟩ := (s.arrive (.submitOrder order)).1.placeOrder_fst order
  have hs : (s.call (.submitOrder order)).1 = _ := hs
  have hdelays : (s.call (.submitOrder order)).1.delays =
      s.delays ++ [(s.givenId order.resource.hostname, s.discoveryDelay)] := by
    rw [hs]
    exact List.map_append
  have horders : (s.call (.submitOrder order)).1.orders =
      s.orders ++ [⟨s.nextOrderId, s.approvalDelay⟩] := by
    rw [hs]
    rfl
  have hnumber : (s.call (.submitOrder order)).1.nextOrderId = s.nextOrderId + 1 := by
    rw [hs]
    rfl
  refine
    { unreserved := hreserved
      given := ?given
      ids := ?ids
      delays := ?delays
      numbered := ?numbered
      numbers := ?numbers
      orders := ?orders }
  case given =>
    rw [hnext]
    refine List.forall_mem_append.mpr ⟨List.forall_mem_map.mpr fun p hp => ?_, ?_⟩
    · exact Nat.lt_succ_of_lt (h.given p hp)
    · rw [List.forall_mem_singleton, hid]
      exact Nat.lt_succ_self _
  case ids =>
    rw [List.map_append, map_later _ fun _ _ => rfl]
    refine h.ids.append (List.nodup_singleton _) ?_
    rw [List.map_singleton, List.disjoint_singleton, hid]
    intro hmem
    obtain ⟨p, hp, heq⟩ := List.mem_map.mp hmem
    exact absurd (h.given p hp) (by rw [heq]; exact Nat.lt_irrefl _)
  case delays =>
    rw [hdelays, List.map_append, delays_later]
    refine List.Sublist.append ?_ (List.Sublist.refl _)
    simpa only [Deed.lists, Bool.false_eq_true, if_false, Nat.sub_zero, List.map_id'] using h.delays
  case numbered =>
    rw [hnumber]
    refine List.forall_mem_append.mpr ⟨List.forall_mem_map.mpr fun p hp => ?_, ?_⟩
    · exact Nat.lt_succ_of_lt (h.numbered p hp)
    · rw [List.forall_mem_singleton]
      exact Nat.lt_succ_self _
  case numbers =>
    rw [List.map_append, map_later _ fun _ _ => rfl]
    refine h.numbers.append (List.nodup_singleton _) ?_
    rw [List.map_singleton, List.disjoint_singleton]
    intro hmem
    obtain ⟨p, hp, heq⟩ := List.mem_map.mp hmem
    exact absurd (h.numbered p hp) (by rw [heq]; exact Nat.lt_irrefl _)
  case orders =>
    rw [horders, List.map_append, orders_later, ← h.orders]
    refine congrArg₂ _ ?_ rfl
    simp [Deed.checks]

end Books

/-- The books of a run. -/
theorem books_after (kind : ResourceKind) (ordinary : ∀ deed ∈ deeds, deed.Ordinary) :
    ((empty kind).after deeds).Books ((empty kind).placed deeds) := by
  induction deeds using List.reverseRecOn with
  | nil => exact .empty kind
  | append_singleton before deed ih =>
    obtain ⟨hbefore, hdeed⟩ := List.forall_mem_append.mp ordinary
    have books := ih hbefore
    rw [after_append, placed_concat]
    by_cases quiet : deed.Quiet
    · rw [placement?_of_quiet quiet, Option.toList_none, List.append_nil]
      exact books.quiet (hdeed deed List.mem_cons_self) quiet
    · obtain ⟨order, rfl⟩ : ∃ order, deed = .call (.submitOrder order) := by
        simpa [Deed.Quiet] using quiet
      exact books.submit order

/-! ## The replies -/

/-- What the vendor answers, compared with the orders that were placed.

* A listing omits a resource as long as its delay is not over (`hidden`), shows it
  afterwards if it is still there (`shown`), and shows what there is now (`current`).
* It goes through the resources in the order in which they were ordered (`ordered`),
  and no two of these have one id (`distinct`).
* A check finds an order approved just when its delay is over (`checked`). -/
structure Punctual (s : Simulator) (placed : List Placed) (listed : List Resource) : Prop where
  listing : (s.call .listResources).2 = .ok listed
  hidden : ∀ p ∈ placed, listings p.since < p.hiddenFor → ∀ r ∈ listed, r.id ≠ p.id
  shown : ∀ p ∈ placed, p.hiddenFor ≤ listings p.since → ∀ r, s.find? p.id = some r → r ∈ listed
  current : ∀ r ∈ listed, s.find? r.id = some r
  ordered : (listed.map (·.id)).Sublist (placed.map (·.id))
  distinct : (placed.map (·.id)).Nodup
  checked : ∀ p ∈ placed, (s.call (.billingOrder p.orderId)).2 = .ok
    ⟨p.orderId, if checks p.orderId p.since < p.pendingFor then .pendingApproval else .approved⟩

theorem checkOrder_snd {orderId : Nat} {held : HeldOrder}
    (found : s.orders.find? (·.id == orderId) = some held) :
    (s.checkOrder orderId).2 =
      .ok ⟨orderId, if 0 < held.pendingFor then .pendingApproval else .approved⟩ := by
  unfold checkOrder
  rw [found]
  dsimp only
  by_cases approved : held.pendingFor = 0
  · rw [if_pos approved, if_neg (by omega)]
  · rw [if_neg approved, if_pos (by omega)]

namespace Books

variable {placed : List Placed}

/-- The counter of a resource is that of its order. -/
theorem hiddenFor_eq (h : s.Books placed) {held : HeldResource} (mem : held ∈ s.resources)
    {p : Placed} (hp : p ∈ placed) (same : held.resource.id = p.id) :
    held.hiddenFor = p.hidden := by
  have entered : (held.resource.id, held.hiddenFor) ∈ placed.map fun p => (p.id, p.hidden) :=
    h.delays.subset (List.mem_map_of_mem mem)
  obtain ⟨q, hq, heq⟩ := List.mem_map.mp entered
  have hid : q.id = p.id := (congrArg Prod.fst heq).trans same
  rw [← List.inj_on_of_nodup_map h.ids hq hp hid]
  exact (congrArg Prod.snd heq).symm

/-- The resources that are left are in the order of their orders. -/
theorem sublist_ids (h : s.Books placed) :
    (s.resources.map (·.resource.id)).Sublist (placed.map (·.id)) := by
  have ids := h.delays.map Prod.fst
  rw [Simulator.delays, List.map_map, List.map_map] at ids
  exact ids

theorem punctual (h : s.Books placed) :
    s.Punctual placed ((s.resources.filter (·.hiddenFor == 0)).map (·.resource)) := by
  have of_listed : ∀ r ∈ (s.resources.filter (·.hiddenFor == 0)).map (·.resource),
      ∃ held ∈ s.resources, held.hiddenFor = 0 ∧ held.resource = r := by
    intro r hr
    obtain ⟨held, hheld, heq⟩ := List.mem_map.mp hr
    obtain ⟨mem, visible⟩ := List.mem_filter.mp hheld
    exact ⟨held, mem, beq_iff_eq.mp visible, heq⟩
  refine
    { listing := rfl
      hidden := ?hidden
      shown := ?shown
      current := ?current
      ordered := ?ordered
      distinct := h.ids
      checked := ?checked }
  case hidden =>
    intro p hp early r hr same
    obtain ⟨held, mem, visible, rfl⟩ := of_listed r hr
    have counter := h.hiddenFor_eq mem hp same
    rw [visible, Placed.hidden] at counter
    omega
  case shown =>
    intro p hp late r found
    obtain ⟨held, hfind, rfl⟩ := Option.map_eq_some_iff.mp found
    have mem := List.mem_of_find?_eq_some hfind
    have same := List.find?_some hfind
    have counter := h.hiddenFor_eq mem hp (beq_iff_eq.mp same)
    rw [Placed.hidden] at counter
    exact List.mem_map_of_mem (List.mem_filter.mpr ⟨mem, beq_iff_eq.mpr (by omega)⟩)
  case current =>
    intro r hr
    obtain ⟨held, mem, -, rfl⟩ := of_listed r hr
    exact congrArg (Option.map (·.resource)) (find?_of_nodup (h.sublist_ids.nodup h.ids) mem)
  case ordered =>
    rw [List.map_map]
    exact (List.filter_sublist.map _).trans h.sublist_ids
  case checked =>
    intro p hp
    have mem : (⟨p.orderId, p.pending⟩ : HeldOrder) ∈ s.orders := by
      rw [h.orders]
      exact List.mem_map_of_mem hp
    have found := find?_of_nodup h.nodup_orders mem
    refine (checkOrder_snd (s := (s.arrive (.billingOrder p.orderId)).1) found).trans ?_
    simp only [Placed.pending, Nat.sub_pos_iff_lt]

end Books

/-- However calls and delays come together, every delay is kept exactly. -/
theorem delays_exact (kind : ResourceKind) (ordinary : ∀ deed ∈ deeds, deed.Ordinary) :
    ∃ listed, ((empty kind).after deeds).Punctual ((empty kind).placed deeds) listed :=
  ⟨_, (books_after kind ordinary).punctual⟩

/-- Two servers are ordered under different delays.  The second one is listed, and
the first one is still out of the directory. -/
theorem delays_exact_overtaken :
    let wanted (hostname : String) : Order :=
      ⟨50, "dal05", [1921], 1, true, ⟨hostname, "example.com"⟩⟩
    let deeds : List Deed := [.control (.setDiscoveryDelay 2), .call (.submitOrder (wanted "web1")),
      .call .listResources, .control (.setDiscoveryDelay 0), .control (.setApprovalDelay 1),
      .call (.submitOrder (wanted "web2")), .call (.billingOrder 1000)]
    (∀ deed ∈ deeds, deed.Ordinary) ∧
      ∃ listed, ((empty .bareMetal).after deeds).Punctual ((empty .bareMetal).placed deeds) listed ∧
        listed.map (·.id) = [⟨2⟩] := by
  intro wanted deeds
  have ordinary : ∀ deed ∈ deeds, deed.Ordinary := by
    simp only [deeds, List.forall_mem_cons, Deed.Ordinary, List.not_mem_nil, false_implies,
      implies_true, and_self]
  obtain ⟨listed, punctual⟩ := delays_exact .bareMetal ordinary
  have reply : Except.ok listed = _ := punctual.listing.symm
  cases reply
  exact ⟨ordinary, _, punctual, rfl⟩

end Provisioning.Simulator
