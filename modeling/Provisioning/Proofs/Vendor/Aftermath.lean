import Provisioning.Proofs.Vendor.Badges
import Provisioning.Session

/-!
# What jobs leave behind

A job may stop at any point: a stage runs out, or the vendor refuses.  Then a
script stays half played, and the next job about that resource goes on from
there.  `Aftermath` are the vendors that jobs can leave, and `Aftermath.orderly`
says what is true of all of them: ids and billing items are told apart, and what
is left of each script is some transactions and then its end.

The vendor of a session changes by calls only, so whatever every call keeps is
kept by every job (`Session.perform_keeps`).
-/

namespace Provisioning

variable {α σ : Type}

/-! ## Scripts that are half played -/

/-- What may be left of a script: at most three looks that show a transaction,
and then its end. -/
def Script.Leftover (script : Script) : Prop :=
  ∃ actives : List Transaction, actives.length ≤ 3 ∧ script.entries = actives.map some ++ [none]

namespace Script

theorem leftover_provisioning (number : Nat) : (provisioning number).Leftover :=
  ⟨[_, _, _], Nat.le_refl 3, rfl⟩

theorem leftover_decommission (number : Nat) : (decommission number).Leftover :=
  ⟨[_, _], Nat.le_succ 2, rfl⟩

/-- The end of a script that is not over stays the same. -/
theorem Leftover.tail {script : Script} (h : script.Leftover) (left : script.entries.tail ≠ []) :
    Leftover { script with entries := script.entries.tail } := by
  obtain ⟨actives, hlength, hentries⟩ := h
  cases actives with
  | nil =>
    rw [hentries] at left
    exact absurd rfl left
  | cons active rest =>
    rw [List.length_cons] at hlength
    refine ⟨rest, by omega, ?_⟩
    show script.entries.tail = _
    rw [hentries]
    rfl

end Script

namespace Holding

/-- The script of the holding, if there is one, is what is left of one. -/
def Leftover (h : Holding) : Prop :=
  ∀ script, h.script = some script → script.Leftover

theorem Leftover.look {h : Holding} (left : h.Leftover) : h.look.1.Leftover := by
  unfold Holding.look
  split
  · exact left
  · rename_i script hscript
    dsimp only
    split
    · intro script' hscript'
      cases hscript'
    · rename_i hleft
      intro script' hscript'
      rw [← Option.some.inj hscript']
      exact (left script hscript).tail hleft

theorem Leftover.cancelled {h : Holding} (left : h.Leftover) (number : Nat) :
    (h.cancelled number).Leftover := by
  intro script' hscript'
  rw [← Option.some.inj hscript']
  cases hscript : h.script with
  | none => exact Script.leftover_decommission number
  | some script => exact left script hscript

end Holding

/-! ## Orderly vendors -/

namespace Simulator

/-- No id is reserved, and resources and scripts have ids that were given to
orders.  Billing items are told apart as ids are, and no script is without its
end. -/
structure Orderly (s : Simulator) : Prop where
  tidy : s.Tidy
  unreserved : s.reservedIds = []
  numbered : ∀ badge ∈ s.badges, badge.id.value < s.nextResourceId ∧
    badge.billingItemId = some (badge.id.value * 10 + 1)
  scripted : ∀ id, s.nextResourceId ≤ id.value → s.scripts.find? id = none
  leftover : ∀ id, (s.holding id).Leftover

theorem orderly_withDemoCatalog (kind : ResourceKind) : (withDemoCatalog kind).Orderly where
  tidy := List.Pairwise.nil
  unreserved := rfl
  numbered := fun _ h => absurd h List.not_mem_nil
  scripted _ _ := rfl
  leftover _ := nofun

variable {s : Simulator}

/-- Without reservations an order is given the next id. -/
theorem placeOrder_of_unreserved (unreserved : s.reservedIds = []) (order : Order) :
    s.givenId order.resource.hostname = ⟨s.nextResourceId⟩ ∧
      (s.placeOrder order).1.reservedIds = [] ∧
      (s.placeOrder order).1.nextResourceId = s.nextResourceId + 1 := by
  have hnone : s.reservedIds.find? order.resource.hostname = none := by
    rw [unreserved]
    rfl
  have hassign : s.assignId order.resource.hostname =
      ({ s with nextResourceId := s.nextResourceId + 1 }, ⟨s.nextResourceId⟩) := by
    unfold assignId
    rw [hnone]
  refine ⟨by rw [← assignId_snd, hassign], ?_⟩
  unfold placeOrder
  rw [hassign]
  dsimp only
  obtain ⟨nextTransactionId, scripts, hensure, -⟩ := ensureScript_eq
    (holdResource { s with nextResourceId := s.nextResourceId + 1 }
      (orderedResource { s with nextResourceId := s.nextResourceId + 1 } order
        ⟨s.nextResourceId⟩)) ⟨s.nextResourceId⟩
  rw [hensure]
  exact ⟨unreserved, rfl⟩

theorem Orderly.placeOrder (h : s.Orderly) (order : Order) : (s.placeOrder order).1.Orderly := by
  obtain ⟨hid, hreserved, hnext⟩ := placeOrder_of_unreserved h.unreserved order
  have hnone : s.scripts.find? ⟨s.nextResourceId⟩ = none := h.scripted _ (Nat.le_refl _)
  have hfirst : s.firstScript ⟨s.nextResourceId⟩ = .provisioning s.nextTransactionId := by
    unfold firstScript
    rw [hnone]
  have fresh : ∀ badge ∈ s.badges, badge.id ≠ ⟨s.nextResourceId⟩ ∧
      badge.billingItemId ≠ some (s.nextResourceId * 10 + 1) := by
    intro badge hbadge
    obtain ⟨hlt, hitem⟩ := h.numbered badge hbadge
    refine ⟨fun heq => ?_, fun heq => ?_⟩
    · rw [heq] at hlt
      exact absurd hlt (Nat.lt_irrefl _)
    · have hvalue := Option.some.inj (hitem.symm.trans heq)
      omega
  have hbadges := s.badges_placeOrder order
  rw [hid] at hbadges
  refine
    { tidy := h.tidy.placeOrder order (by rw [hid]; exact fresh)
      unreserved := hreserved
      numbered := ?_
      scripted := ?_
      leftover := ?_ }
  · intro badge hbadge
    rw [hbadges] at hbadge
    rw [hnext]
    rcases List.mem_append.mp hbadge with hbadge | hbadge
    · obtain ⟨hlt, hitem⟩ := h.numbered badge hbadge
      exact ⟨Nat.lt_succ_of_lt hlt, hitem⟩
    · rw [List.mem_singleton.mp hbadge]
      exact ⟨Nat.lt_succ_self _, rfl⟩
  · intro id hle
    rw [hnext] at hle
    have hne : id ≠ s.givenId order.resource.hostname := by
      intro heq
      rw [heq, hid] at hle
      exact absurd hle (Nat.not_succ_le_self _)
    have hscript := congrArg Holding.script (holding_placeOrder_of_ne (s := s) hne)
    exact hscript.trans (h.scripted id (Nat.le_of_succ_le hle))
  · intro id
    by_cases heq : id = s.givenId order.resource.hostname
    · have gone : s.find? (s.givenId order.resource.hostname) = none := by
        rw [hid]
        exact find?_eq_none_of_badges fun badge hbadge => (fresh badge hbadge).1
      rw [heq, holding_placeOrder_self gone, hid, hfirst]
      intro script hscript
      rw [← Option.some.inj hscript]
      exact Script.leftover_provisioning _
    · rw [holding_placeOrder_of_ne heq]
      exact h.leftover id

/-- Only looks, cancellations and orders change scripts. -/
theorem scripts_call (s : Simulator) {c : Call} (submits : c.operation ≠ .submitOrder)
    (looks : c.operation ≠ .activeTransaction) (cancels : c.operation ≠ .cancelBillingItem) :
    (s.call c).1.scripts = s.scripts := by
  cases c with
  | submitOrder order => exact absurd rfl submits
  | activeTransaction id => exact absurd rfl looks
  | cancelBillingItem item => exact absurd rfl cancels
  | billingOrder orderId =>
    simp only [call, arrive, serve, checkOrder]
    split
    · rfl
    · split <;> rfl
  | getResource id => rfl
  | listResources => rfl
  | packageDetail packageId => rfl
  | activePackageByName name =>
    simp only [call, arrive, serve]
    split <;> rfl
  | reboot id =>
    simp only [call, arrive, serve, setPower]
    split <;> rfl
  | pause id =>
    simp only [call, arrive, serve, setPower]
    split <;> rfl
  | resume id =>
    simp only [call, arrive, serve, setPower]
    split <;> rfl

/-- A cancellation that finds its billing item sees to it that the resource has
a script. -/
theorem cancel_scripts (s : Simulator) (item : Nat) :
    (s.cancel item).1.scripts = s.scripts ∨
      ∃ held ∈ s.resources, ∃ number, ∀ id, (s.cancel item).1.scripts.find? id =
        if id = held.resource.id then ((s.holding id).cancelled number).script
        else s.scripts.find? id := by
  unfold cancel
  cases hfind : s.resources.find? (·.resource.billingItemId == some item) with
  | none => exact .inl rfl
  | some held =>
    refine .inr ⟨held, List.mem_of_find?_eq_some hfind, s.nextTransactionId, fun id => ?_⟩
    dsimp only
    cases hscript : s.scripts.find? held.resource.id with
    | some script =>
      refine (Lookup.find?_put s.scripts held.resource.id id _).trans ?_
      split
      · rename_i heq
        unfold Holding.cancelled holding
        rw [heq, hscript]
      · rfl
    | none =>
      refine (Lookup.find?_put s.scripts held.resource.id id _).trans ?_
      split
      · rename_i heq
        unfold Holding.cancelled holding
        rw [heq, hscript]
        rfl
      · rfl

/-- The scripts after a call that is no order are what is left of those before,
and they are the scripts of ids that were given before. -/
theorem Orderly.scripts_call (h : s.Orderly) {c : Call} (submits : c.operation ≠ .submitOrder) :
    (∀ id, s.nextResourceId ≤ id.value → (s.call c).1.scripts.find? id = none) ∧
      ∀ id, ((s.call c).1.holding id).Leftover := by
  have kept : (s.call c).1.scripts = s.scripts →
      (∀ id, s.nextResourceId ≤ id.value → (s.call c).1.scripts.find? id = none) ∧
        ∀ id, ((s.call c).1.holding id).Leftover := by
    intro same
    refine ⟨fun id hle => ?_, fun id script hscript => ?_⟩
    · rw [same]
      exact h.scripted id hle
    · refine h.leftover id script ?_
      rw [← hscript]
      exact congrArg (Lookup.find? · id) same.symm
  by_cases looks : c.operation = .activeTransaction
  · cases c with
    | activeTransaction id =>
      have self : (s.call (.activeTransaction id)).1.holding id = (s.holding id).look.1 :=
        holding_nextTransaction_self (s := (s.arrive (.activeTransaction id)).1)
      refine ⟨fun other hle => ?_, fun other => ?_⟩
      · by_cases heq : other = id
        · have hnone : (s.holding id).script = none := h.scripted id (heq ▸ hle)
          have hlook : (s.holding id).look.1.script = none := by
            unfold Holding.look
            rw [hnone]
            exact hnone
          rw [heq]
          exact (congrArg Holding.script self).trans hlook
        · exact (congrArg Holding.script (s.holding_call_activeTransaction_of_ne heq)).trans
            (h.scripted other hle)
      · by_cases heq : other = id
        · rw [heq, self]
          exact (h.leftover id).look
        · rw [s.holding_call_activeTransaction_of_ne heq]
          exact h.leftover other
    | _ => cases looks
  by_cases cancels : c.operation = .cancelBillingItem
  · cases c with
    | cancelBillingItem item =>
      rcases (s.arrive (.cancelBillingItem item)).1.cancel_scripts item with
        same | ⟨held, hheld, number, hscripts⟩
      · exact kept same
      · refine ⟨fun id hle => ?_, fun id script hscript => ?_⟩
        · have hlt := (h.numbered _ (List.mem_map_of_mem hheld)).1
          have hne : id ≠ held.resource.id := by
            intro heq
            rw [heq] at hle
            exact absurd hlt (Nat.not_lt_of_le hle)
          exact ((hscripts id).trans (if_neg hne)).trans (h.scripted id hle)
        · have found := (hscripts id).symm.trans hscript
          split at found
          · exact (h.leftover id).cancelled number script found
          · exact h.leftover id script found
    | _ => cases cancels
  exact kept (s.scripts_call submits looks cancels)

/-- Calls keep a vendor orderly. -/
theorem Orderly.call (h : s.Orderly) (c : Call) : (s.call c).1.Orderly := by
  by_cases submits : c.operation = .submitOrder
  · cases c with
    | submitOrder order =>
      have arrived : (s.arrive (.submitOrder order)).1.Orderly :=
        ⟨h.tidy, h.unreserved, h.numbered, h.scripted, h.leftover⟩
      exact arrived.placeOrder order
    | _ => cases submits
  · have hscripts := h.scripts_call submits
    have hnext : (s.call c).1.nextResourceId = s.nextResourceId := by
      obtain ⟨_, _, _, _, _, _, heq, -⟩ := s.call_frame submits
      rw [heq]
    refine
      { tidy := h.tidy.call submits
        unreserved := (s.reservedIds_call submits).trans h.unreserved
        numbered := ?_
        scripted := ?_
        leftover := hscripts.2 }
    · intro badge hbadge
      rw [hnext]
      exact h.numbered badge ((s.badges_call submits).subset hbadge)
    · rw [hnext]
      exact hscripts.1

end Simulator

/-! ## Jobs -/

/-- What every call keeps is kept by a workflow that runs against the
simulated vendor. -/
theorem Workflow.run_keeps {P : Simulator → Prop} (keeps : ∀ s c, P s → P (s.call c).1)
    (w : Workflow α) (run : Run Simulator) (h : P run.vendor) :
    P (w.run Simulator.asVendor run).2.vendor := by
  induction w generalizing run with
  | done result => exact h
  | ask call next ih => exact ih _ _ (keeps run.vendor call h)
  | pause ms next ih => exact ih _ h
  | clock next ih => exact ih _ run h
  | report notice next ih => exact ih _ h

/-- What every call keeps is kept by a job. -/
theorem Session.perform_keeps {P : Simulator → Prop} (keeps : ∀ s c, P s → P (s.call c).1)
    (job : Job α) {session : Session} (h : P session.simulator) :
    P (session.perform job).2.simulator := by
  cases job with
  | plain workflow => exact Workflow.run_keeps keeps workflow session.run h
  | withCatalog workflow =>
    have refreshed := Workflow.run_keeps keeps
      (refreshCatalog session.provisioner.config.packageName
        session.provisioner.config.polling.catalogRetry) session.run h
    have browsed : P session.catalog.2.simulator := by
      unfold Session.catalog
      dsimp only
      split
      · exact h
      · exact refreshed
    exact Workflow.run_keeps keeps (workflow session.catalog.1) session.catalog.2.run browsed

/-- The vendors that begin with the demonstration catalog and are left by jobs
of provisioners of their kind.  Each job may be done under another configuration,
at another time and with another catalog at hand, and it may end in any way. -/
inductive Aftermath (kind : ResourceKind) : Simulator → Prop where
  | fresh : Aftermath kind (.withDemoCatalog kind)
  | created (session : Session) (wanted : CreateRequest)
    (ofKind : session.provisioner.config.kind = kind) (h : Aftermath kind session.simulator) :
    Aftermath kind (session.perform (session.provisioner.create wanted)).2.simulator
  | destroyed (session : Session) (id : ResourceId)
    (ofKind : session.provisioner.config.kind = kind) (h : Aftermath kind session.simulator) :
    Aftermath kind (session.perform (session.provisioner.destroy id)).2.simulator
  | listed (session : Session)
    (ofKind : session.provisioner.config.kind = kind) (h : Aftermath kind session.simulator) :
    Aftermath kind (session.perform session.provisioner.listNodes).2.simulator
  | powered (session : Session) (operation : PowerOperation) (id : ResourceId)
    (ofKind : session.provisioner.config.kind = kind) (h : Aftermath kind session.simulator) :
    Aftermath kind (session.perform (session.provisioner.power operation id)).2.simulator

theorem Aftermath.orderly {kind : ResourceKind} {s : Simulator} (h : Aftermath kind s) :
    s.Orderly := by
  have keeps : ∀ (s : Simulator) c, s.Orderly → (s.call c).1.Orderly := fun _ c h => h.call c
  induction h with
  | fresh => exact Simulator.orderly_withDemoCatalog kind
  | created session wanted _ _ ih => exact Session.perform_keeps keeps _ ih
  | destroyed session id _ _ ih => exact Session.perform_keeps keeps _ ih
  | listed session _ _ ih => exact Session.perform_keeps keeps _ ih
  | powered session operation id _ _ ih => exact Session.perform_keeps keeps _ ih

end Provisioning
