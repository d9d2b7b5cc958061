import Provisioning.Proofs.Workflow.Gate
import Provisioning.Workflow.Create

/-!
# The discovery of an ordered resource

The first gate of a creation takes up to two calls a look: a check of the order
and, exactly if that finds it approved, a listing.  `DiscoveryLook` is such a
look with what it brought, and `assures_awaitDiscovery` says what is seen of the
whole gate, against any vendor.
-/

namespace Provisioning

/-- A look for the resource of a receipt.  The directory is read exactly if the
order is approved. -/
inductive DiscoveryLook (receipt : OrderReceipt) :
    Look → Except Error (Option Resource) → Prop where
  | unchecked (time : Nat) (cause : Error) :
    DiscoveryLook receipt
      ⟨[⟨time, .billingOrder receipt.orderId, .error cause⟩], .error cause⟩ (.error cause)
  | pending (time : Nat) (order : BillingOrder) (notApproved : order.status ≠ .approved) :
    DiscoveryLook receipt
      ⟨[⟨time, .billingOrder receipt.orderId, .ok order⟩], .ok false⟩ (.ok none)
  | unlisted (time time' : Nat) (order : BillingOrder) (approved : order.status = .approved)
      (cause : Error) :
    DiscoveryLook receipt
      ⟨[⟨time, .billingOrder receipt.orderId, .ok order⟩, ⟨time', .listResources, .error cause⟩],
        .error cause⟩ (.error cause)
  | listed (time time' : Nat) (order : BillingOrder) (approved : order.status = .approved)
      (resources : List Resource) :
    DiscoveryLook receipt
      ⟨[⟨time, .billingOrder receipt.orderId, .ok order⟩, ⟨time', .listResources, .ok resources⟩],
        .ok (receipt.findIn resources).isSome⟩ (.ok (receipt.findIn resources))

theorem DiscoveryLook.kind (receipt : OrderReceipt) : LookKind (DiscoveryLook receipt) where
  holds := by
    rintro _ _ (_ | _ | _ | _) <;> rfl
  tells := by
    rintro _ _ (⟨time, cause⟩ | ⟨time, order, notApproved⟩ |
      ⟨time, time', order, approved, cause⟩ | ⟨time, time', order, approved, resources⟩)
    · refine ⟨nofun, ?_⟩
      intro _ h
      cases h
      exact ⟨[], _, rfl, unfailing_nil, rfl⟩
    · exact ⟨fun _ _ => unfailing_singleton rfl, nofun⟩
    · refine ⟨nofun, ?_⟩
      intro _ h
      cases h
      exact ⟨[_], _, rfl, unfailing_singleton rfl, rfl⟩
    · exact ⟨fun _ _ => Unfailing.append (unfailing_singleton (x := ⟨time, _, _⟩) rfl)
        (unfailing_singleton rfl), nofun⟩

theorem assures_attemptDiscovery (receipt : OrderReceipt) (j : Journal) :
    (attemptDiscovery receipt).Assures .anyVendor
      (fun found j' => ∃ look, look.Made j j' ∧ DiscoveryLook receipt look (.ok found))
      (fun cause j' => ∃ look, look.Made j j' ∧ DiscoveryLook receipt look (.error cause)) j := by
  simp only [attemptDiscovery, Procedure.assures_bind]
  refine (Procedure.assures_request _ _ _).mpr ⟨trivial, ?_, ?_⟩
  · intro order _ answered
    obtain ⟨delay, rfl⟩ := answered
    split
    · rename_i approved
      simp only [Procedure.assures_bind]
      refine (Procedure.assures_request _ _ _).mpr ⟨trivial, ?_, ?_⟩
      · intro resources _ answered
        obtain ⟨delay', rfl⟩ := answered
        exact ⟨_, ⟨List.append_assoc _ _ _, rfl⟩, .listed _ _ order approved resources⟩
      · intro cause _ answered
        obtain ⟨delay', rfl⟩ := answered
        exact ⟨_, ⟨List.append_assoc _ _ _, rfl⟩, .unlisted _ _ order approved cause⟩
    · rename_i notApproved
      exact ⟨_, ⟨rfl, rfl⟩, .pending _ order notApproved⟩
  · intro cause _ answered
    obtain ⟨delay, rfl⟩ := answered
    exact ⟨_, ⟨rfl, rfl⟩, .unchecked _ cause⟩

theorem assures_awaitDiscovery (policy : StagePolicy) (receipt : OrderReceipt) (j : Journal) :
    (awaitDiscovery policy receipt).Assures .anyVendor
      (fun found j' => ∃ missed last,
        Waited (DiscoveryLook receipt) policy.maxWaitMs missed last (.ok (some found)) j j')
      (fun cause j' => ∃ missed last outcome,
        Waited (DiscoveryLook receipt) policy.maxWaitMs missed last outcome j j' ∧
          (outcome = .error cause ∨ outcome = .ok none ∧
            cause = .stageTimeout .orderApproved receipt.order.resource.hostname policy.maxWaitMs))
      j := by
  simp only [awaitDiscovery, Procedure.assures_bind]
  have attempts := assures_pollUntil_wait policy
    (fun _ => do return ((), ← attemptDiscovery receipt))
    (DiscoveryLook receipt) (fun _ => True) (fun _ => True) ?_ () trivial j
  · refine attempts.mono ?_ ?_
    · intro result j' h
      obtain ⟨_, found⟩ := result
      obtain ⟨-, missed, last, wait⟩ := h
      cases found with
      | none => exact ⟨missed, last, _, wait, .inr ⟨rfl, rfl⟩⟩
      | some resource => exact ⟨missed, last, wait⟩
    · intro cause j' h
      obtain ⟨missed, last, wait⟩ := h
      exact ⟨missed, last, _, wait, .inl rfl⟩
  · intro _ j' _
    rw [Procedure.assures_bind]
    refine (assures_attemptDiscovery receipt j').mono ?_ fun _ _ h => h
    intro found j'' h
    obtain ⟨look, made, seen⟩ := h
    exact ⟨look, made, seen, fun _ => trivial, fun _ => trivial⟩

end Provisioning
