import Provisioning.Proofs.Vendor.Alone
import Provisioning.Proofs.Workflow.Attempts
import Provisioning.Workflow.Create

/-!
# The placement of an order with the simulated vendor

From the order to the discovery of its resource, with nobody else about.
`Awaiting` is the state in between: so many checks until the order is approved,
and so many listings until its resource is shown.  An attempt of the discovery
takes one of them away, and `assures_awaitDiscovery_alone` counts the attempts.
-/

namespace Provisioning

theorem Simulator.checkOrder_approved {s : Simulator} {orderId : Nat}
    (h : s.orders.find? (·.id == orderId) = some ⟨orderId, 0⟩) :
    s.checkOrder orderId = (s, .ok ⟨orderId, .approved⟩) := by
  unfold checkOrder
  rw [h]
  rfl

theorem Simulator.checkOrder_pending {s : Simulator} {orderId pendingFor : Nat}
    (h : s.orders.find? (·.id == orderId) = some ⟨orderId, pendingFor + 1⟩) :
    s.checkOrder orderId =
      ({ s with
        orders := changeFirst (·.id == orderId)
          (fun held => { held with pendingFor := held.pendingFor - 1 }) s.orders },
        .ok ⟨orderId, .pendingApproval⟩) := by
  unfold checkOrder
  rw [h]
  rfl

/-- A resource that is told from all others is found among the visible ones
exactly if it is visible. -/
theorem find?_visible {resources : List HeldResource} {p : Resource → Bool} {resource : Resource}
    {hiddenFor : Nat} (held : ⟨resource, hiddenFor⟩ ∈ resources) (own : p resource = true)
    (only : ∀ held ∈ resources, p held.resource = true → held = ⟨resource, hiddenFor⟩) :
    ((resources.filter (·.hiddenFor == 0)).map (·.resource)).find? p =
      if hiddenFor = 0 then some resource else none := by
  have found : ∀ r, r ∈ (resources.filter (·.hiddenFor == 0)).map (·.resource) → p r = true →
      r = resource ∧ hiddenFor = 0 := by
    intro r hr hp
    obtain ⟨held, hmem, rfl⟩ := List.mem_map.mp hr
    obtain ⟨hheld, hvisible⟩ := List.mem_filter.mp hmem
    rw [only held hheld hp] at hvisible ⊢
    exact ⟨rfl, beq_iff_eq.mp hvisible⟩
  cases hfind : ((resources.filter (·.hiddenFor == 0)).map (·.resource)).find? p with
  | some r =>
    obtain ⟨hr, hvisible⟩ := found r (List.mem_of_find?_eq_some hfind) (List.find?_some hfind)
    rw [hr, if_pos hvisible]
  | none =>
    rw [if_neg]
    intro hvisible
    have visible : (⟨resource, hiddenFor⟩ : HeldResource) ∈ resources.filter (·.hiddenFor == 0) :=
      List.mem_filter.mpr ⟨held, beq_iff_eq.mpr hvisible⟩
    exact List.find?_eq_none.mp hfind resource (List.mem_map.mpr ⟨_, visible, rfl⟩) own

/-- An order is for the hostname that was asked for. -/
theorem hostname_of_orderFor {config : Config} {package : ProductPackage} {wanted : CreateRequest}
    {order : Order} (h : orderFor config package wanted = .ok order) :
    order.resource.hostname = wanted.hostname := by
  unfold orderFor at h
  split at h
  · cases h
  · simp only [bind, Except.bind, pure, Except.pure] at h
    split at h
    · cases h
    · split at h
      · cases h
      · cases h
        rfl

/-- Whether a listed resource is the one that a receipt is about. -/
def OrderReceipt.isFor (receipt : OrderReceipt) (r : Resource) : Bool :=
  match receipt.resources.head? with
  | some echoed => r.id == echoed.id
  | none => r.hostname == receipt.order.resource.hostname

theorem OrderReceipt.findIn_eq (receipt : OrderReceipt) (listed : List Resource) :
    receipt.findIn listed = listed.find? receipt.isFor := by
  unfold findIn isFor
  cases receipt.resources.head? <;> rfl

/-- An order that takes so many checks until it is approved, and its resource,
which takes so many listings until it is shown. -/
structure Awaiting (receipt : OrderReceipt) (resource : Resource) (h : Holding)
    (pendingFor hiddenFor : Nat) (s : Simulator) : Prop where
  order : s.orders.find? (·.id == receipt.orderId) = some ⟨receipt.orderId, pendingFor⟩
  held : ⟨resource, hiddenFor⟩ ∈ s.resources
  own : receipt.isFor resource = true
  only : ∀ held ∈ s.resources, receipt.isFor held.resource = true → held = ⟨resource, hiddenFor⟩
  holding : s.holding resource.id = h

namespace Awaiting

variable {receipt : OrderReceipt} {resource : Resource} {h : Holding}
  {pendingFor hiddenFor : Nat} {s : Simulator}

/-- A check of an approved order. -/
theorem checked (awaiting : Awaiting receipt resource h 0 hiddenFor s) :
    (s.call (.billingOrder receipt.orderId)).2 = .ok ⟨receipt.orderId, .approved⟩ ∧
      Awaiting receipt resource h 0 hiddenFor (s.call (.billingOrder receipt.orderId)).1 := by
  have hcall : s.call (.billingOrder receipt.orderId) =
      ((s.arrive (.billingOrder receipt.orderId)).1, .ok ⟨receipt.orderId, .approved⟩) :=
    Simulator.checkOrder_approved awaiting.order
  rw [hcall]
  exact ⟨rfl, awaiting.order, awaiting.held, awaiting.own, awaiting.only, awaiting.holding⟩

/-- A check of a pending order brings its approval nearer. -/
theorem checked_pending (awaiting : Awaiting receipt resource h (pendingFor + 1) hiddenFor s) :
    (s.call (.billingOrder receipt.orderId)).2 = .ok ⟨receipt.orderId, .pendingApproval⟩ ∧
      Awaiting receipt resource h pendingFor hiddenFor
        (s.call (.billingOrder receipt.orderId)).1 := by
  have hcall : s.call (.billingOrder receipt.orderId) = _ :=
    Simulator.checkOrder_pending (s := (s.arrive (.billingOrder receipt.orderId)).1) awaiting.order
  rw [hcall]
  refine ⟨rfl, ?_, awaiting.held, awaiting.own, awaiting.only, awaiting.holding⟩
  show List.find? _ (Simulator.changeFirst _ _ s.orders) = _
  rw [Simulator.find?_changeFirst_self, awaiting.order]
  · rfl
  · exact fun _ => rfl

/-- A listing shows the resource when it is no longer hidden, and brings it
nearer. -/
theorem listed (awaiting : Awaiting receipt resource h pendingFor hiddenFor s) :
    (∃ listed, (s.call .listResources).2 = .ok listed ∧
      receipt.findIn listed = if hiddenFor = 0 then some resource else none) ∧
      Awaiting receipt resource h pendingFor (hiddenFor - 1) (s.call .listResources).1 := by
  refine ⟨⟨_, rfl, ?_⟩, awaiting.order, ?_, awaiting.own, ?_, ?_⟩
  · rw [OrderReceipt.findIn_eq]
    exact find?_visible awaiting.held awaiting.own awaiting.only
  · exact List.mem_map.mpr ⟨_, awaiting.held, rfl⟩
  · intro held hmem hfor
    obtain ⟨before, hbefore, rfl⟩ := List.mem_map.mp hmem
    rw [awaiting.only before hbefore hfor]
  · show Simulator.holding (Simulator.listDirectory _).1 _ = _
    rw [Simulator.holding_listDirectory]
    exact awaiting.holding

end Awaiting

/-- An attempt of the discovery takes a check or a listing away. -/
theorem assures_attemptDiscovery_alone {receipt : OrderReceipt} {resource : Resource} {h : Holding}
    {pendingFor hiddenFor : Nat} {g : Solitude}
    (awaiting : Awaiting receipt resource h pendingFor hiddenFor g.vendor) :
    (attemptDiscovery receipt).Assures .alone
      (fun found g' =>
        found = (if pendingFor = 0 ∧ hiddenFor = 0 then some resource else none) ∧
        g'.now = g.now ∧ Awaiting receipt resource h (pendingFor - 1)
          (if pendingFor = 0 then hiddenFor - 1 else hiddenFor) g'.vendor)
      (fun _ _ => False) g := by
  simp only [attemptDiscovery, Procedure.assures_bind]
  cases pendingFor with
  | succ pendingFor =>
    obtain ⟨hreply, awaiting'⟩ := awaiting.checked_pending
    refine assures_request_alone (fun h => (by cases h)) (fun order horder => ?_)
      fun cause hcause => ?_
    · rw [hreply] at horder
      cases horder
      rw [if_neg (fun h => (by cases h)), if_neg (by omega), if_neg (by omega)]
      exact ⟨rfl, rfl, awaiting'⟩
    · rw [hreply] at hcause
      cases hcause
  | zero =>
    obtain ⟨hreply, awaiting'⟩ := awaiting.checked
    refine assures_request_alone (fun h => (by cases h)) (fun order horder => ?_)
      fun cause hcause => ?_
    · rw [hreply] at horder
      cases horder
      rw [if_pos rfl, Procedure.assures_bind]
      obtain ⟨⟨listed, hlisted, hfound⟩, awaiting''⟩ := awaiting'.listed
      refine assures_request_alone (fun h => (by cases h)) (fun reply hreply' => ?_)
        fun cause hcause => ?_
      · rw [hlisted] at hreply'
        cases hreply'
        rw [Procedure.assures_pure, hfound]
        refine ⟨?_, rfl, awaiting''⟩
        by_cases hidden : hiddenFor = 0
        · rw [if_pos hidden, if_pos ⟨rfl, hidden⟩]
        · rw [if_neg hidden, if_neg fun both => hidden both.2]
      · rw [hlisted] at hcause
        cases hcause
    · rw [hreply] at hcause
      cases hcause

/-- The discovery takes as many attempts as there are checks and listings to
wait for, and one more. -/
theorem assures_awaitDiscovery_alone {policy : StagePolicy} {receipt : OrderReceipt}
    {resource : Resource} {h : Holding} {pendingFor hiddenFor : Nat} {g : Solitude}
    (awaiting : Awaiting receipt resource h pendingFor hiddenFor g.vendor) :
    (awaitDiscovery policy receipt).Assures .alone
      (fun found g' => pendingFor + hiddenFor + 1 ≤ policy.attempts ∧ found = resource ∧
        g'.vendor.holding resource.id = h)
      (fun cause _ => policy.attempts < pendingFor + hiddenFor + 1 ∧ cause =
        .stageTimeout .orderApproved receipt.order.resource.hostname policy.maxWaitMs) g := by
  simp only [awaitDiscovery, Procedure.assures_bind]
  refine (assures_pollUntil_counted
    (fun count => if pendingFor + hiddenFor ≤ count then some resource else none)
    (fun count _ g' => Awaiting receipt resource h (pendingFor - count)
      (hiddenFor - (count - pendingFor)) g'.vendor)
    (fun _ _ g' => g'.vendor.holding resource.id = h) Surroundings.timed_alone ?_ ?_ () g
    (by simpa using awaiting)).mono ?_ fun _ _ (h : False) => h.elim
  · intro count _ g' ms g'' awaiting' passed
    rw [passed]
    exact awaiting'
  · intro count _ g' awaiting'
    rw [Procedure.assures_bind]
    refine (assures_attemptDiscovery_alone awaiting').mono ?_ fun _ _ h => h
    intro found g'' hfound
    obtain ⟨hfound, hnow, awaiting''⟩ := hfound
    rw [Procedure.assures_pure]
    refine ⟨?_, hnow, ?_⟩
    · rw [hfound]
      by_cases hle : pendingFor + hiddenFor ≤ count
      · rw [if_pos hle, if_pos (by omega)]
      · rw [if_neg hle, if_neg (by omega)]
    · by_cases hle : pendingFor + hiddenFor ≤ count
      · rw [if_pos hle]
        exact awaiting''.holding
      · rw [if_neg hle]
        have hpending : pendingFor - count - 1 = pendingFor - (count + 1) := by omega
        have hhidden : (if pendingFor - count = 0 then hiddenFor - (count - pendingFor) - 1
            else hiddenFor - (count - pendingFor)) = hiddenFor - (count + 1 - pendingFor) := by
          split <;> omega
        rw [hpending, hhidden] at awaiting''
        exact awaiting''
  · intro result g' hresult
    obtain ⟨count, ⟨hcount, hearlier, hbrings, hlast⟩, hafter⟩ := hresult
    dsimp only at hbrings
    cases hfound : result.2 with
    | some found =>
      rw [hfound] at hbrings hafter
      have hle : pendingFor + hiddenFor ≤ count := by
        by_contra hlt
        rw [if_neg hlt] at hbrings
        cases hbrings
      rw [if_pos hle] at hbrings
      cases hbrings
      exact ⟨by omega, rfl, hafter⟩
    | none =>
      rw [hfound] at hbrings
      have hlt : ¬pendingFor + hiddenFor ≤ count := by
        intro hle
        rw [if_pos hle] at hbrings
        cases hbrings
      have hattempts := hlast hfound
      exact ⟨by omega, rfl⟩

end Provisioning
