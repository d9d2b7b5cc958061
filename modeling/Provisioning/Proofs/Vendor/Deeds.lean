import Provisioning.Proofs.Vendor.Alone
import Provisioning.Proofs.Vendor.Cycles
import Provisioning.Proofs.Vendor.Saving

/-!
# What is done to a vendor

Calls come in and are answered, and in between the vendor is set.  A run of such
deeds, in any order and about any resources, is a list of them
(`Simulator.after`).

What a deed does to one resource depends on what the vendor holds for it and on
little else.  `Simulator.heldAfter` says what, and `holding_does` says that this
is what happens, provided that the vendor is tidy.  Whatever is proved of one
resource in a run starts from this lemma and never opens a call.
-/

namespace Provisioning.Simulator

variable {s : Simulator} {id other : ResourceId}

/-! ## Deeds -/

/-- Something that is done to a vendor: a call with its answer, a call that has
come in and is not answered yet, or a control. -/
inductive Deed where
  | call (c : Call)
  | arrival (c : Call)
  | control (control : Control)

/-- The vendor after a deed. -/
def does (s : Simulator) : Deed → Simulator
  | .call c => (s.call c).1
  | .arrival c => (s.arrive c).1
  | .control control => s.control control

/-- The vendor after a run of deeds. -/
def after (s : Simulator) (deeds : List Deed) : Simulator :=
  deeds.foldl does s

@[simp]
theorem after_nil (s : Simulator) : s.after [] = s :=
  rfl

@[simp]
theorem after_cons (s : Simulator) (deed : Deed) (deeds : List Deed) :
    s.after (deed :: deeds) = (s.does deed).after deeds :=
  rfl

@[simp]
theorem after_append (s : Simulator) (before later : List Deed) :
    s.after (before ++ later) = (s.after before).after later :=
  List.foldl_append

/-! ## One resource -/

/-- The resource of this id has the billing item. -/
def bills (s : Simulator) (id : ResourceId) (item : Nat) : Bool :=
  (s.find? id).any (·.billingItemId == some item)

theorem bills_iff {item : Nat} :
    s.bills id item = true ↔ ∃ r, s.find? id = some r ∧ r.billingItemId = some item := by
  simp only [bills, Option.any_eq_true, beq_iff_eq]

/-- The holding of a resource after a deed. -/
def heldAfter (s : Simulator) (id : ResourceId) : Deed → Holding
  | .call (.submitOrder order) =>
    if s.givenId order.resource.hostname = id then
      { s.holding id with
        resource := (s.find? id).or (some (s.orderedResource order id))
        script := some (s.firstScript id) }
    else s.holding id
  | .call (.activeTransaction other) =>
    if other = id then (s.holding id).look.1 else s.holding id
  | .call (.cancelBillingItem item) =>
    if s.bills id item then (s.holding id).cancelled s.nextTransactionId else s.holding id
  | .call (.reboot other) | .call (.resume other) =>
    if other = id then { s.holding id with resource := (s.find? id).map (.inStatus "RUNNING") }
    else s.holding id
  | .call (.pause other) =>
    if other = id then { s.holding id with resource := (s.find? id).map (.inStatus "PAUSED") }
    else s.holding id
  | .control (.scriptTransactions other entries) =>
    if other = id then { s.holding id with script := some ⟨entries, .provisioned⟩ }
    else s.holding id
  | .control (.setWithholdPasswords withhold) =>
    { s.holding id with withholdPasswords := withhold }
  | .control (.insertResource resource) =>
    if resource.id = id then { s.holding id with resource := some resource } else s.holding id
  | .control (.completeProvisioning other) =>
    if other = id then
      { s.holding id with resource := (s.find? id).map (provision s.kind !s.withholdPasswords) }
    else s.holding id
  | _ => s.holding id

/-- A resource that is added is found under its id unless there is one. -/
theorem find?_add (resources : List HeldResource) (resource : Resource) (hiddenFor : Nat)
    (id : ResourceId) :
    ((resources ++ [HeldResource.mk resource hiddenFor]).find? (·.resource.id == id)).map
        (·.resource) =
      ((resources.find? (·.resource.id == id)).map (·.resource)).or
        (if resource.id = id then some resource else none) := by
  rw [List.find?_append]
  cases resources.find? (·.resource.id == id) with
  | some found => rfl
  | none =>
    by_cases heq : resource.id = id
    · simp [heq]
    · simp [heq]

/-- An order is held after what there is of its id, and has a script. -/
theorem holding_placeOrder (s : Simulator) (order : Order) :
    (s.placeOrder order).1.holding (s.givenId order.resource.hostname) =
      { s.holding (s.givenId order.resource.hostname) with
        resource := (s.find? (s.givenId order.resource.hostname)).or
          (some (s.orderedResource order (s.givenId order.resource.hostname)))
        script := some (s.firstScript (s.givenId order.resource.hostname)) } := by
  obtain ⟨_, _, _, _, hs, hscripts⟩ := s.placeOrder_fst order
  have hid : (s.orderedResource order (s.givenId order.resource.hostname)).id =
      s.givenId order.resource.hostname := rfl
  rw [hs]
  unfold holding find?
  dsimp only
  rw [find?_add, hscripts, if_pos rfl, if_pos hid]

theorem holding_call_submitOrder (s : Simulator) (id : ResourceId) (order : Order) :
    (s.call (.submitOrder order)).1.holding id = s.heldAfter id (.call (.submitOrder order)) := by
  simp only [heldAfter]
  split
  · rename_i hid
    rw [← hid]
    exact (s.arrive (.submitOrder order)).1.holding_placeOrder order
  · rename_i hne
    exact holding_call_submitOrder_of_ne (Ne.symm hne)

/-- A resource that is put in place of another one of its id is the one that is
found, and no other resource is found differently. -/
theorem find?_insertResource (s : Simulator) (resource : Resource) (id : ResourceId) :
    (s.insertResource resource).find? id =
      if resource.id = id then some resource else s.find? id := by
  have hadd : (s.insertResource resource).find? id =
      ((s.removeResource resource.id).find? id).or
        (if resource.id = id then some resource else none) :=
    find?_add _ resource 0 id
  rw [hadd]
  split
  · rename_i heq
    rw [heq, find?_removeResource_self, Option.none_or]
  · rename_i hne
    rw [find?_removeResource_of_ne (Ne.symm hne), Option.or_none]

theorem holding_setPower_eq (s : Simulator) (id other : ResourceId) (power : String) :
    (s.setPower other power).1.holding id = if other = id then
      { s.holding id with resource := (s.find? id).map (.inStatus power) } else s.holding id := by
  rw [holding_setPower]
  split
  · rename_i heq
    rw [heq, holding_change_self (.inStatus power) fun _ => rfl]
  · rename_i hne
    rw [holding_change_of_ne (.inStatus power) (fun _ => rfl) (Ne.symm hne)]

theorem holding_call_cancel (tidy : s.Tidy) (id : ResourceId) (item : Nat) :
    (s.call (.cancelBillingItem item)).1.holding id =
      s.heldAfter id (.call (.cancelBillingItem item)) := by
  simp only [heldAfter]
  split
  · rename_i hbills
    obtain ⟨r, found, billed⟩ := bills_iff.mp hbills
    exact s.holding_call_cancel_self tidy found billed
  · rename_i hbills
    cases hfind : s.resources.find? (·.resource.billingItemId == some item) with
    | none =>
      simp only [call, arrive, serve, cancel, hfind]
      rfl
    | some held =>
      have found := tidy.find?_of_mem (List.mem_of_find?_eq_some hfind)
      have billed := List.find?_some hfind
      have billed := beq_iff_eq.mp billed
      refine s.holding_call_cancel_of_ne tidy found billed ?_
      rintro rfl
      exact hbills (bills_iff.mpr ⟨_, found, billed⟩)

theorem holding_control (s : Simulator) (id : ResourceId) (control : Control) :
    (s.control control).holding id = s.heldAfter id (.control control) := by
  cases control with
  | scriptTransactions other entries =>
    show Holding.mk _ _ (s.find? id) ((s.scripts.put other ⟨entries, .provisioned⟩).find? id) = _
    rw [Lookup.find?_put]
    simp only [heldAfter, eq_comm (a := other)]
    split <;> rfl
  | insertResource resource =>
    show Holding.mk _ _ ((s.insertResource resource).find? id) _ = _
    rw [find?_insertResource]
    simp only [heldAfter]
    split <;> rfl
  | completeProvisioning other =>
    simp only [heldAfter]
    split
    · rename_i heq
      rw [heq]
      exact holding_change_self _ fun _ => rfl
    · rename_i hne
      exact holding_change_of_ne _ (fun _ => rfl) (Ne.symm hne)
  | _ => rfl

/-- What a deed does to one resource of a tidy vendor. -/
theorem holding_does (tidy : s.Tidy) (id : ResourceId) (deed : Deed) :
    (s.does deed).holding id = s.heldAfter id deed := by
  cases deed with
  | arrival c => exact s.holding_arrive id c
  | control control => exact s.holding_control id control
  | call c =>
    cases c with
    | submitOrder order => exact s.holding_call_submitOrder id order
    | billingOrder orderId => exact s.holding_call_billingOrder id orderId
    | listResources => exact s.holding_call_listResources id
    | cancelBillingItem item => exact holding_call_cancel tidy id item
    | getResource other | packageDetail packageId => rfl
    | activeTransaction other =>
      simp only [heldAfter]
      split
      · rename_i heq
        rw [heq]
        exact s.holding_call_activeTransaction id
      · rename_i hne
        exact s.holding_call_activeTransaction_of_ne (Ne.symm hne)
    | activePackageByName name =>
      simp only [does, call, arrive, serve]
      split <;> rfl
    | reboot other => exact (s.arrive (.reboot other)).1.holding_setPower_eq id other "RUNNING"
    | pause other => exact (s.arrive (.pause other)).1.holding_setPower_eq id other "PAUSED"
    | resume other => exact (s.arrive (.resume other)).1.holding_setPower_eq id other "RUNNING"

/-! ## Deeds about other resources -/

/-- The call names the resource, or orders it, or cancels its billing item. -/
def Concerns (s : Simulator) (id : ResourceId) : Call → Prop
  | .submitOrder order => s.givenId order.resource.hostname = id
  | .getResource other | .activeTransaction other | .reboot other | .pause other
  | .resume other => other = id
  | .cancelBillingItem item => s.bills id item = true
  | _ => False

/-- A call that does not concern a resource leaves all that is held for it alone. -/
theorem holding_call_of_not_concerns (tidy : s.Tidy) {c : Call} (apart : ¬s.Concerns id c) :
    (s.call c).1.holding id = s.holding id := by
  have held := holding_does tidy id (.call c)
  cases c <;> first | exact held | exact held.trans (if_neg apart)

end Provisioning.Simulator
