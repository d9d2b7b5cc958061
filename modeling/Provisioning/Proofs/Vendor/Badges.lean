import Mathlib.Data.List.Pairwise
import Provisioning.Proofs.Vendor.Holding

/-!
# What tells resources apart

A resource is known by its id, its hostname and its billing item.  Calls never
change these three, so the list of them only shrinks, when a resource goes, and
grows, when one is ordered.  A vendor is tidy if no two of its resources share
an id or a billing item.

A billing item of a tidy vendor stands for one resource, so its cancellation is
a change to the holding of that resource alone.
-/

namespace Provisioning

/-- What a resource is known by. -/
structure Badge where
  id : ResourceId
  hostname : String
  billingItemId : Option Nat

/-- The badge of a resource. -/
def Resource.badge (r : Resource) : Badge :=
  ⟨r.id, r.hostname, r.billingItemId⟩

/-- The snapshot of a resource whose billing item is cancelled. -/
def Resource.reclaimed (r : Resource) : Resource :=
  { r with status := some "RECLAIM" }

/-- Neither the id nor the billing item is the same. -/
def Badge.Apart (a b : Badge) : Prop :=
  a.id ≠ b.id ∧ ∀ item, a.billingItemId = some item → b.billingItemId ≠ some item

theorem Badge.Apart.symm {a b : Badge} (h : a.Apart b) : b.Apart a :=
  ⟨h.1.symm, fun item hb ha => h.2 item ha hb⟩

namespace Simulator

variable {s : Simulator}

/-- The badges of the resources. -/
def badges (s : Simulator) : List Badge :=
  s.resources.map (·.resource.badge)

/-- No two resources share an id or a billing item. -/
def Tidy (s : Simulator) : Prop :=
  s.badges.Pairwise Badge.Apart

/-! ## Badges under calls -/

theorem map_changeFirst {α β : Type} (p : α → Bool) (f : α → α) (g : α → β)
    (keeps : ∀ a, g (f a) = g a) (l : List α) : (changeFirst p f l).map g = l.map g := by
  induction l with
  | nil => rfl
  | cons a rest ih =>
    unfold changeFirst
    split
    · rw [List.map_cons, List.map_cons, keeps]
    · rw [List.map_cons, List.map_cons, ih]

theorem sublist_of_eq {α : Type} {l l' : List α} (h : l = l') : l.Sublist l' :=
  h ▸ List.Sublist.refl l

/-- Something that is seen of a resource and does not change with its snapshot as
long as the badge stays the same. -/
def Lasting {α : Type} (seen : HeldResource → α) : Prop :=
  ∀ held r, r.badge = held.resource.badge → seen { held with resource := r } = seen held

section Lasting

variable {α : Type} {seen : HeldResource → α}

theorem map_change (lasting : Lasting seen) (id : ResourceId) (f : Resource → Resource)
    (keeps : ∀ r, (f r).badge = r.badge) :
    (s.change id f).resources.map seen = s.resources.map seen :=
  map_changeFirst _ _ _ (fun held => lasting held _ (keeps held.resource)) _

theorem map_finishCycle (lasting : Lasting seen) (id : ResourceId) (outcome : CycleOutcome) :
    ((s.finishCycle id outcome).resources.map seen).Sublist (s.resources.map seen) := by
  cases outcome with
  | provisioned => exact sublist_of_eq (map_change lasting id _ fun _ => rfl)
  | removed => exact List.filter_sublist.map _

theorem map_nextTransaction (lasting : Lasting seen) (id : ResourceId) :
    ((s.nextTransaction id).1.resources.map seen).Sublist (s.resources.map seen) := by
  unfold nextTransaction
  split
  · exact List.Sublist.refl _
  · rename_i script _
    dsimp only
    split
    · exact map_finishCycle (s := { s with scripts := s.scripts.remove id }) lasting id
        script.outcome
    · exact List.Sublist.refl _

theorem map_cancel (lasting : Lasting seen) (item : Nat) :
    (s.cancel item).1.resources.map seen = s.resources.map seen := by
  unfold cancel
  split
  · rfl
  · refine (map_change lasting _ Resource.reclaimed fun _ => rfl).trans ?_
    split <;> rfl

theorem map_setPower (lasting : Lasting seen) (id : ResourceId) (power : String) :
    (s.setPower id power).1.resources.map seen = s.resources.map seen := by
  unfold setPower
  split
  · rfl
  · exact map_change lasting id _ fun _ => rfl

theorem resources_checkOrder (orderId : Nat) :
    (s.checkOrder orderId).1.resources = s.resources := by
  unfold checkOrder
  split
  · rfl
  · split <;> rfl

/-- Only an order adds a resource and only a listing brings one nearer to the
directory. -/
theorem map_call (lasting : Lasting seen) (s : Simulator) {c : Call}
    (submits : c.operation ≠ .submitOrder) (lists : c.operation ≠ .listResources) :
    ((s.call c).1.resources.map seen).Sublist (s.resources.map seen) := by
  cases c with
  | submitOrder order => exact absurd rfl submits
  | listResources => exact absurd rfl lists
  | billingOrder orderId =>
    exact sublist_of_eq (congrArg (List.map seen) (resources_checkOrder orderId))
  | getResource id => exact List.Sublist.refl _
  | activeTransaction id =>
    exact map_nextTransaction (s := (s.arrive (.activeTransaction id)).1) lasting id
  | cancelBillingItem item => exact sublist_of_eq (map_cancel lasting item)
  | activePackageByName name =>
    simp only [call, arrive, serve]
    split <;> exact List.Sublist.refl _
  | packageDetail packageId => exact List.Sublist.refl _
  | reboot id => exact sublist_of_eq (map_setPower lasting id _)
  | pause id => exact sublist_of_eq (map_setPower lasting id _)
  | resume id => exact sublist_of_eq (map_setPower lasting id _)

end Lasting

theorem badges_listDirectory : s.listDirectory.1.badges = s.badges := by
  unfold badges listDirectory
  rw [List.map_map]
  rfl

theorem badges_placeOrder (order : Order) :
    (s.placeOrder order).1.badges = s.badges ++
      [⟨s.givenId order.resource.hostname, order.resource.hostname,
        some ((s.givenId order.resource.hostname).value * 10 + 1)⟩] := by
  obtain ⟨reservedIds, nextResourceId, nextTransactionId, scripts, hs, -⟩ := s.placeOrder_fst order
  rw [hs]
  unfold badges
  rw [List.map_append]
  rfl

/-- Only an order adds a resource. -/
theorem badges_call (s : Simulator) {c : Call} (submits : c.operation ≠ .submitOrder) :
    (s.call c).1.badges.Sublist s.badges := by
  by_cases lists : c.operation = .listResources
  · cases c with
    | listResources => exact sublist_of_eq badges_listDirectory
    | _ => cases lists
  · exact map_call (fun _ _ same => same) s submits lists

/-- A resource that is listed is one of the vendor's. -/
theorem badge_mem_of_listed {r : Resource} (h : r ∈ s.listDirectory.2) : r.badge ∈ s.badges := by
  obtain ⟨held, hheld, heq⟩ := List.mem_map.mp h
  rw [← heq]
  exact List.mem_map_of_mem (List.mem_filter.mp hheld).1

theorem badge_mem_of_find? {id : ResourceId} {r : Resource} (h : s.find? id = some r) :
    r.badge ∈ s.badges ∧ r.id = id := by
  obtain ⟨held, hfind, heq⟩ := Option.map_eq_some_iff.mp h
  have hid := List.find?_some hfind
  rw [← heq]
  exact ⟨List.mem_map_of_mem (List.mem_of_find?_eq_some hfind), beq_iff_eq.mp hid⟩

theorem find?_eq_none_of_badges {id : ResourceId} (h : ∀ badge ∈ s.badges, badge.id ≠ id) :
    s.find? id = none := by
  cases hfind : s.find? id with
  | none => rfl
  | some r =>
    obtain ⟨hmem, hid⟩ := badge_mem_of_find? hfind
    exact absurd hid (h r.badge hmem)

/-! ## Tidy vendors -/

theorem Tidy.call (h : s.Tidy) {c : Call} (submits : c.operation ≠ .submitOrder) :
    (s.call c).1.Tidy :=
  List.Pairwise.sublist (s.badges_call submits) h

/-- An order under a new id and a new billing item leaves the vendor tidy. -/
theorem Tidy.placeOrder (h : s.Tidy) (order : Order)
    (fresh : ∀ badge ∈ s.badges, badge.id ≠ s.givenId order.resource.hostname ∧
      badge.billingItemId ≠ some ((s.givenId order.resource.hostname).value * 10 + 1)) :
    (s.placeOrder order).1.Tidy := by
  unfold Tidy
  rw [badges_placeOrder, List.pairwise_append]
  refine ⟨h, List.pairwise_singleton _ _, ?_⟩
  intro badge hbadge new hnew
  rw [List.mem_singleton.mp hnew]
  obtain ⟨hid, hitem⟩ := fresh badge hbadge
  refine ⟨hid, fun item hold hnew => ?_⟩
  cases hnew
  exact hitem hold

/-- In a tidy vendor a billing item stands for one id. -/
theorem Tidy.id_eq (h : s.Tidy) {a b : Badge} (ha : a ∈ s.badges) (hb : b ∈ s.badges) {item : Nat}
    (hitem : a.billingItemId = some item) (hitem' : b.billingItemId = some item) : a.id = b.id := by
  by_cases heq : a = b
  · rw [heq]
  · have symmetric : Std.Symm Badge.Apart := ⟨fun _ _ => Badge.Apart.symm⟩
    exact absurd hitem' ((List.Pairwise.forall h ha hb heq).2 item hitem)

/-! ## Cancellation -/

end Simulator

/-- The holding after the cancellation of the resource's billing item, where
`number` is the number of a new transaction. -/
def Holding.cancelled (h : Holding) (number : Nat) : Holding :=
  { h with
    resource := h.resource.map .reclaimed
    script := some (match h.script with
      | some script => { script with outcome := .removed }
      | none => .decommission number) }

/-- Only the first cancellation changes anything. -/
theorem Holding.cancelled_cancelled (h : Holding) (number number' : Nat) :
    (h.cancelled number).cancelled number' = h.cancelled number := by
  unfold Holding.cancelled
  cases h.script <;> simp only [Option.map_map] <;> rfl

namespace Simulator

variable {s : Simulator} {id other : ResourceId} {r : Resource} {item : Nat}

/-- Changing the snapshot of a resource in a way that leaves its id. -/
theorem holding_change_of_ne (f : Resource → Resource) (keeps : ∀ r, (f r).id = r.id)
    (h : other ≠ id) : (s.change id f).holding other = s.holding other := by
  unfold holding
  rw [find?_change_of_ne f keeps h]
  rfl

theorem holding_change_self (f : Resource → Resource) (keeps : ∀ r, (f r).id = r.id) :
    (s.change id f).holding id = { s.holding id with resource := (s.find? id).map f } := by
  unfold holding
  rw [find?_change_self f keeps]
  rfl

/-- In a tidy vendor a cancellation concerns the resource of the billing item. -/
theorem cancel_eq (tidy : s.Tidy) (found : s.find? id = some r)
    (billed : r.billingItemId = some item) :
    ∃ nextTransactionId scripts,
      s.cancel item =
        (({ s with nextTransactionId := nextTransactionId, scripts := scripts }).change id
          .reclaimed, true) ∧
      (∀ other, other ≠ id → scripts.find? other = s.scripts.find? other) ∧
      scripts.find? id = ((s.holding id).cancelled s.nextTransactionId).script := by
  obtain ⟨hmem, hid⟩ := badge_mem_of_find? found
  have one : ∀ held ∈ s.resources, held.resource.billingItemId = some item →
      held.resource.id = id := by
    intro held hheld hitem
    rw [← hid]
    exact tidy.id_eq (List.mem_map_of_mem hheld) hmem hitem billed
  unfold cancel
  cases hfind : s.resources.find? (·.resource.billingItemId == some item) with
  | none =>
    obtain ⟨held, hheld, hbadge⟩ := List.mem_map.mp hmem
    have hitem : held.resource.billingItemId = some item := by
      rw [← billed]
      exact congrArg Badge.billingItemId hbadge
    exact absurd (beq_iff_eq.mpr hitem) (List.find?_eq_none.mp hfind held hheld)
  | some held =>
    have hitem := List.find?_some hfind
    have hidHeld := one held (List.mem_of_find?_eq_some hfind) (beq_iff_eq.mp hitem)
    dsimp only
    rw [hidHeld]
    cases hscript : s.scripts.find? id with
    | some script =>
      refine ⟨_, _, rfl, fun other hne => ?_, ?_⟩
      · rw [Lookup.find?_put, if_neg hne]
      · rw [Lookup.find?_put, if_pos rfl]
        unfold Holding.cancelled holding
        rw [hscript]
    | none =>
      refine ⟨_, _, rfl, fun other hne => ?_, ?_⟩
      · rw [Lookup.find?_put, if_neg hne]
      · rw [Lookup.find?_put, if_pos rfl]
        unfold Holding.cancelled holding
        rw [hscript]
        rfl

theorem holding_cancel_self (tidy : s.Tidy) (found : s.find? id = some r)
    (billed : r.billingItemId = some item) :
    (s.cancel item).1.holding id = (s.holding id).cancelled s.nextTransactionId := by
  obtain ⟨nextTransactionId, scripts, heq, -, hscript⟩ := cancel_eq tidy found billed
  rw [heq]
  refine (holding_change_self Resource.reclaimed fun _ => rfl).trans ?_
  show (⟨s.kind, s.withholdPasswords, (s.find? id).map .reclaimed, scripts.find? id⟩ : Holding) = _
  rw [hscript]
  rfl

theorem holding_cancel_of_ne (tidy : s.Tidy) (found : s.find? id = some r)
    (billed : r.billingItemId = some item) (h : other ≠ id) :
    (s.cancel item).1.holding other = s.holding other := by
  obtain ⟨nextTransactionId, scripts, heq, hscripts, -⟩ := cancel_eq tidy found billed
  rw [heq]
  refine (holding_change_of_ne Resource.reclaimed (fun _ => rfl) h).trans ?_
  unfold holding
  rw [hscripts other h]
  rfl

theorem cancel_snd (tidy : s.Tidy) (found : s.find? id = some r)
    (billed : r.billingItemId = some item) : (s.cancel item).2 = true := by
  obtain ⟨nextTransactionId, scripts, heq, -, -⟩ := cancel_eq tidy found billed
  rw [heq]

theorem holding_call_cancel_self (s : Simulator) (tidy : s.Tidy) (found : s.find? id = some r)
    (billed : r.billingItemId = some item) :
    (s.call (.cancelBillingItem item)).1.holding id =
      (s.holding id).cancelled s.nextTransactionId :=
  holding_cancel_self (s := (s.arrive (.cancelBillingItem item)).1) tidy found billed

theorem holding_call_cancel_of_ne (s : Simulator) (tidy : s.Tidy) (found : s.find? id = some r)
    (billed : r.billingItemId = some item) (h : other ≠ id) :
    (s.call (.cancelBillingItem item)).1.holding other = s.holding other :=
  holding_cancel_of_ne (s := (s.arrive (.cancelBillingItem item)).1) tidy found billed h

theorem call_cancel (s : Simulator) (tidy : s.Tidy) (found : s.find? id = some r)
    (billed : r.billingItemId = some item) :
    (s.call (.cancelBillingItem item)).2 = .ok true :=
  congrArg Except.ok
    (cancel_snd (s := (s.arrive (.cancelBillingItem item)).1) tidy found billed)

/-! ## Reservations -/

theorem reservedIds_call (s : Simulator) {c : Call} (submits : c.operation ≠ .submitOrder) :
    (s.call c).1.reservedIds = s.reservedIds := by
  obtain ⟨_, _, _, _, _, _, heq, -⟩ := s.call_frame submits
  rw [heq]

/-- An order uses up no reservation but that of its own hostname. -/
theorem reservedIds_placeOrder (order : Order) {hostname : String}
    (h : hostname ≠ order.resource.hostname) :
    (s.placeOrder order).1.reservedIds.find? hostname = s.reservedIds.find? hostname := by
  have assigned : (s.assignId order.resource.hostname).1.reservedIds.find? hostname =
      s.reservedIds.find? hostname := by
    unfold assignId
    split
    · exact (Lookup.find?_remove _ _ _).trans (if_neg h)
    · rfl
  rw [← assigned]
  unfold placeOrder
  generalize s.assignId order.resource.hostname = given
  obtain ⟨s', id⟩ := given
  obtain ⟨nextTransactionId, scripts, hensure, -⟩ :=
    ensureScript_eq (s'.holdResource (s'.orderedResource order id)) id
  dsimp only
  rw [hensure]
  rfl

end Simulator

end Provisioning
