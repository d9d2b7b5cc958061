import Provisioning.Proofs.Vendor.Deeds
import Provisioning.Proofs.Vendor.Room

/-!
# One resource for each id

A look-up, a cancellation and the end of a cycle go by the id of a resource, and they
take it for granted that there is one resource of that id.  Ids come from three sides:
an order is given the id that is reserved for its hostname or else the next one, and a
resource may be put in place from outside.  A resource that is put in place takes the
place of another one of its id.  An order does not look whether its id is taken.

So ids stay apart exactly as long as every order is given an id that no resource has
(`ids_apart_iff`).  Without reservations and without resources from outside this is
always so, because the next id is above all others (`Consecutive`).
-/

namespace Provisioning.Simulator

variable {s : Simulator}

/-! ## Histories -/

/-- What may happen to a vendor: a deed, or that it is saved and loaded for a kind of
resource. -/
inductive Event where
  | deed (deed : Deed)
  | reload (kind : ResourceKind)

/-- The vendor after an event.  One whose text cannot be loaded stays. -/
def undergoes (s : Simulator) : Event → Simulator
  | .deed deed => s.does deed
  | .reload kind => (load (.text s.save) kind).toOption.getD s

/-- The vendor after a history of events. -/
def through (s : Simulator) (history : List Event) : Simulator :=
  history.foldl undergoes s

theorem through_append_singleton (history : List Event) (event : Event) :
    s.through (history ++ [event]) = (s.through history).undergoes event := by
  simp [through]

/-- The vendor as far as the next event of a history. -/
theorem through_take_succ {history : List Event} {n : Nat} {event : Event}
    (h : history[n]? = some event) :
    s.through (history.take (n + 1)) = (s.through (history.take n)).undergoes event := by
  rw [List.take_add_one, h, Option.toList_some, through_append_singleton]

/-- What is true at first and stays true through every event is true at every moment. -/
theorem forall_through {P : Simulator → Prop} {history : List Event} (start : P s)
    (kept : ∀ n event, history[n]? = some event → P (s.through (history.take n)) →
      P ((s.through (history.take n)).undergoes event)) (n : Nat) :
    P (s.through (history.take n)) := by
  induction n with
  | zero => exact start
  | succ n ih =>
    cases hevent : history[n]? with
    | some event =>
      rw [through_take_succ hevent]
      exact kept n event hevent ih
    | none =>
      have hend := List.getElem?_eq_none_iff.mp hevent
      rw [List.take_of_length_le hend] at ih
      rw [List.take_of_length_le (by omega)]
      exact ih

/-- What is saved of the vendor fits, and the text carries it. -/
structure Storable (s : Simulator) : Prop where
  fits : s.Fits
  floats : ∀ x ∈ s.floats, StorableFloat x

theorem Reached.undergoes (h : s.Reached) (event : Event) : (s.undergoes event).Reached := by
  cases event with
  | deed deed =>
    cases deed with
    | call c => exact h.called c
    | arrival c => exact h.arrived c
    | control control => exact h.controlled control
  | reload kind =>
    rw [Simulator.undergoes]
    cases hload : load (.text s.save) kind with
    | ok loaded => exact .loaded hload
    | error cause => exact h

theorem reached_through (kind : ResourceKind) (history : List Event) :
    ((empty kind).through history).Reached := by
  induction history using List.reverseRecOn with
  | nil => exact .empty kind
  | append_singleton history event ih =>
    rw [through_append_singleton]
    exact ih.undergoes event

/-- A vendor that can be saved comes back as it was. -/
theorem undergoes_reload (reached : s.Reached) (storable : s.Storable) (kind : ResourceKind) :
    s.undergoes (.reload kind) = s.reloaded kind := by
  have hload := load_text_save reached.keyed storable.fits (fun x hx => (storable.floats x hx).1)
    (fun x hx => (storable.floats x hx).2) kind
  rw [undergoes, hload]
  rfl

/-! ## Ids under deeds -/

/-- No two resources have the same id. -/
def IdsApart (s : Simulator) : Prop :=
  (s.resources.map (·.resource.id)).Nodup

theorem map_id_eq (s : Simulator) : s.resources.map (·.resource.id) = s.badges.map (·.id) := by
  simp [badges, Resource.badge]

theorem idsApart_empty (kind : ResourceKind) : (empty kind).IdsApart :=
  List.nodup_nil

/-- A resource is found by its id. -/
theorem find?_eq_none_iff {id : ResourceId} :
    s.find? id = none ↔ id ∉ s.resources.map (·.resource.id) := by
  simp [find?]

/-- A vendor whose resources are some of those that there were keeps its ids apart. -/
theorem IdsApart.of_sublist {s' : Simulator} (h : s.IdsApart)
    (fewer : s'.badges.Sublist s.badges) : s'.IdsApart := by
  unfold IdsApart at h ⊢
  rw [map_id_eq] at h ⊢
  exact (fewer.map _).nodup h

/-- After an order the ids are apart if they were and the order was given a new one. -/
theorem idsApart_submitOrder_iff (order : Order) :
    (s.does (.call (.submitOrder order))).IdsApart ↔
      s.IdsApart ∧ s.find? (s.givenId order.resource.hostname) = none := by
  have hbadges := (s.arrive (.submitOrder order)).1.badges_placeOrder order
  have hids : (s.does (.call (.submitOrder order))).resources.map (·.resource.id) =
      s.resources.map (·.resource.id) ++ [s.givenId order.resource.hostname] := by
    rw [map_id_eq, map_id_eq]
    exact (congrArg (List.map Badge.id) hbadges).trans List.map_append
  unfold IdsApart
  rw [hids, List.nodup_append_comm, List.singleton_append, List.nodup_cons, find?_eq_none_iff,
    and_comm]

/-- A resource that is put in place leaves no other one of its id. -/
theorem IdsApart.insertResource (h : s.IdsApart) (resource : Resource) :
    (s.insertResource resource).IdsApart := by
  have hids : (s.insertResource resource).resources.map (·.resource.id) =
      (s.removeResource resource.id).resources.map (·.resource.id) ++ [resource.id] := by
    simp [Simulator.insertResource]
  have hfewer : (s.removeResource resource.id).IdsApart :=
    h.of_sublist (List.filter_sublist.map _)
  unfold IdsApart at hfewer ⊢
  rw [hids, List.nodup_append_comm, List.singleton_append, List.nodup_cons]
  exact ⟨find?_eq_none_iff.mp find?_removeResource_self, hfewer⟩

theorem IdsApart.control (h : s.IdsApart) (control : Control) : (s.control control).IdsApart := by
  cases control with
  | insertResource resource => exact h.insertResource resource
  | completeProvisioning id =>
    exact h.of_sublist (sublist_of_eq (map_change (fun _ _ same => same) id _ fun _ => rfl))
  | _ => exact h

/-- Only an order can bring an id twice. -/
theorem IdsApart.does (h : s.IdsApart) {deed : Deed}
    (fresh : ∀ order, deed = .call (.submitOrder order) →
      s.find? (s.givenId order.resource.hostname) = none) : (s.does deed).IdsApart := by
  cases deed with
  | arrival c => cases c <;> exact h
  | control control => exact h.control control
  | call c =>
    by_cases submits : c.operation = .submitOrder
    · cases c with
      | submitOrder order => exact (idsApart_submitOrder_iff order).mpr ⟨h, fresh order rfl⟩
      | _ => cases submits
    · exact h.of_sublist (s.badges_call submits)

/-! ## Ids that are given in order -/

/-- No id is reserved, and every resource has an id below the next one. -/
structure Consecutive (s : Simulator) : Prop where
  unreserved : s.reservedIds = []
  below : ∀ badge ∈ s.badges, badge.id.value < s.nextResourceId

/-- The event brings an id from outside: a reservation, or a resource that is put in
place. -/
def Event.BringsId : Event → Prop
  | .deed (.control (.reserveId _ _)) | .deed (.control (.insertResource _)) => True
  | _ => False

theorem consecutive_empty (kind : ResourceKind) : (empty kind).Consecutive :=
  ⟨rfl, fun _ h => absurd h List.not_mem_nil⟩

/-- The next id is new. -/
theorem Consecutive.find?_givenId (h : s.Consecutive) (hostname : String) :
    s.find? (s.givenId hostname) = none := by
  have hgiven : s.givenId hostname = ⟨s.nextResourceId⟩ := by
    simp [givenId, h.unreserved, Lookup.find?]
  rw [hgiven]
  refine find?_eq_none_of_badges fun badge hbadge heq => ?_
  have hlt := h.below badge hbadge
  rw [heq] at hlt
  exact Nat.lt_irrefl _ hlt

theorem Consecutive.call (h : s.Consecutive) (c : Call) : (s.call c).1.Consecutive := by
  by_cases submits : c.operation = .submitOrder
  · cases c with
    | submitOrder order =>
      have hnone : (s.arrive (.submitOrder order)).1.reservedIds = [] := h.unreserved
      obtain ⟨hid, hreserved, hnext⟩ := placeOrder_of_unreserved hnone order
      have hbadges := (s.arrive (.submitOrder order)).1.badges_placeOrder order
      rw [hid] at hbadges
      refine ⟨hreserved, fun badge hbadge => ?_⟩
      have hbound : (s.call (.submitOrder order)).1.nextResourceId = s.nextResourceId + 1 := hnext
      rw [hbound]
      rcases List.mem_append.mp (hbadges ▸ hbadge) with hold | hnew
      · exact Nat.lt_succ_of_lt (h.below badge hold)
      · rw [List.mem_singleton.mp hnew]
        exact Nat.lt_succ_self _
    | _ => cases submits
  · obtain ⟨_, _, _, _, _, _, heq, -⟩ := s.call_frame submits
    refine ⟨(reservedIds_call s submits).trans h.unreserved, fun badge hbadge => ?_⟩
    have hnext : (s.call c).1.nextResourceId = s.nextResourceId := by rw [heq]
    rw [hnext]
    exact h.below badge ((s.badges_call submits).subset hbadge)

theorem Consecutive.undergoes (h : s.Consecutive) {event : Event} (own : ¬event.BringsId)
    (reached : s.Reached) (storable : ∀ kind, event = .reload kind → s.Storable) :
    (s.undergoes event).Consecutive := by
  cases event with
  | reload kind =>
    rw [undergoes_reload reached (storable kind rfl)]
    exact ⟨h.unreserved, h.below⟩
  | deed deed =>
    cases deed with
    | call c => exact h.call c
    | arrival c => cases c <;> exact ⟨h.unreserved, h.below⟩
    | control control =>
      cases control with
      | reserveId | insertResource => exact absurd trivial own
      | completeProvisioning id =>
        have hbadges : (s.completeProvisioning id).badges = s.badges :=
          map_change (fun _ _ same => same) id _ fun _ => rfl
        exact ⟨h.unreserved, fun badge hbadge => h.below badge (hbadges ▸ hbadge)⟩
      | _ => exact ⟨h.unreserved, h.below⟩

/-! ## The theorem -/

theorem IdsApart.undergoes (h : s.IdsApart) {event : Event} (reached : s.Reached)
    (storable : ∀ kind, event = .reload kind → s.Storable)
    (fresh : ∀ order, event = .deed (.call (.submitOrder order)) →
      s.find? (s.givenId order.resource.hostname) = none) : (s.undergoes event).IdsApart := by
  cases event with
  | deed deed => exact h.does fun order heq => fresh order (congrArg Event.deed heq)
  | reload kind =>
    rw [undergoes_reload reached (storable kind rfl)]
    exact h

/-- The ids of a vendor are apart at every moment of its history if and only if every
order was given an id that no resource had.  If no event brings an id from outside, they
are. -/
theorem ids_apart_iff (kind : ResourceKind) (history : List Event)
    (storable : ∀ n kind', history[n]? = some (.reload kind') →
      ((empty kind).through (history.take n)).Storable) :
    ((∀ n, ((empty kind).through (history.take n)).IdsApart) ↔
      ∀ n order, history[n]? = some (.deed (.call (.submitOrder order))) →
        let vendor := (empty kind).through (history.take n)
        vendor.find? (vendor.givenId order.resource.hostname) = none) ∧
    ((∀ event ∈ history, ¬event.BringsId) →
      ∀ n, ((empty kind).through (history.take n)).IdsApart) := by
  have reached : ∀ n, ((empty kind).through (history.take n)).Reached :=
    fun n => reached_through kind (history.take n)
  have saved : ∀ {n event}, history[n]? = some event → ∀ kind', event = .reload kind' →
      ((empty kind).through (history.take n)).Storable := by
    rintro n _ hevent kind' rfl
    exact storable n kind' hevent
  refine ⟨⟨fun apart n order hevent => ?_, fun fresh => ?_⟩, fun own => ?_⟩
  · have hnext := apart (n + 1)
    rw [through_take_succ hevent] at hnext
    exact ((idsApart_submitOrder_iff order).mp hnext).2
  · refine forall_through (idsApart_empty kind) fun n event hevent apart => ?_
    refine apart.undergoes (reached n) (saved hevent) fun order heq => ?_
    exact fresh n order (heq ▸ hevent)
  · have consecutive : ∀ n, ((empty kind).through (history.take n)).Consecutive := by
      refine forall_through (consecutive_empty kind) fun n event hevent before => ?_
      exact before.undergoes (own event (List.mem_of_getElem? hevent)) (reached n) (saved hevent)
    refine forall_through (idsApart_empty kind) fun n event hevent apart => ?_
    refine apart.undergoes (reached n) (saved hevent) fun order _ => ?_
    exact (consecutive n).find?_givenId order.resource.hostname

/-- A vendor is saved and loaded for guests, once after two orders and once between
them.  With a reservation ids stay apart because both orders are given ids that no
resource has. -/
theorem ids_apart_iff_reloaded :
    let order (hostname : String) : Event :=
      .deed (.call (.submitOrder ⟨50, "dal05", [1921], 1, true, ⟨hostname, "example.com"⟩⟩))
    let reserving : List Event := [.deed (.control (.reserveId "web2" ⟨7⟩)), order "web1",
      order "web2", .reload .virtualGuest]
    let plain : List Event := [order "web1", .reload .virtualGuest, order "web2"]
    ((empty .bareMetal).through (reserving.take 3)).Storable ∧
      (∀ n, ((empty .bareMetal).through (reserving.take n)).IdsApart) ∧
      ((empty .bareMetal).through (plain.take 1)).Storable ∧
      ∀ n, ((empty .bareMetal).through (plain.take n)).IdsApart := by
  intro order reserving plain
  have storable : ((empty .bareMetal).through (reserving.take 3)).Storable :=
    ⟨by decide, by decide +kernel⟩
  have storable' : ((empty .bareMetal).through (plain.take 1)).Storable :=
    ⟨by decide, by decide +kernel⟩
  refine ⟨storable, (ids_apart_iff .bareMetal reserving ?reloads).1.mpr ?unheld, storable',
    (ids_apart_iff .bareMetal plain ?reloads').2 ?own⟩
  case reloads =>
    intro n kind hevent
    match n with
    | 0 | 1 | 2 => cases hevent
    | 3 => exact storable
    | n + 4 => cases hevent
  case unheld =>
    intro n wanted hevent
    match n with
    | 0 | 3 => cases hevent
    | 1 =>
      cases hevent
      decide +kernel
    | 2 =>
      cases hevent
      decide +kernel
    | n + 4 => cases hevent
  case reloads' =>
    intro n kind hevent
    match n with
    | 0 | 2 => cases hevent
    | 1 => exact storable'
    | n + 3 => cases hevent
  case own =>
    intro event hevent
    simp only [plain, List.mem_cons, List.not_mem_nil, or_false] at hevent
    obtain rfl | rfl | rfl := hevent <;> exact id

/-- A resource is put in place under the id that the next order is given. -/
theorem id_given_twice :
    let held : Resource := { id := ⟨1⟩, hostname := "db1", domain := "example.com" }
    let wanted : Order := ⟨50, "dal05", [1921], 1, true, ⟨"web1", "example.com"⟩⟩
    let vendor := (empty .bareMetal).through
      [.deed (.control (.insertResource held)), .deed (.call (.submitOrder wanted))]
    vendor.resources.map (·.resource.id) = [⟨1⟩, ⟨1⟩] ∧ ¬vendor.IdsApart := by
  intro held wanted vendor
  have hids : vendor.resources.map (·.resource.id) = [⟨1⟩, ⟨1⟩] := by decide
  refine ⟨hids, ?_⟩
  unfold IdsApart
  rw [hids]
  decide

end Provisioning.Simulator
