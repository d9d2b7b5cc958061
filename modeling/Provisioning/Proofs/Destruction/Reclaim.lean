import Provisioning.Proofs.Vendor.Cycles
import Provisioning.Proofs.Vendor.Gates
import Provisioning.Session
import Provisioning.Workflow.Destroy

/-!
# The course of a destruction

A destruction that has the simulated vendor to itself takes one course.  It looks the
resource up, cancels its billing item and then looks at the feed, so often as the feed
and the bounds of the two gates say (`awaitedCycle`).  The feed is what is left of the
script in place, now ending in the removal, or a new one if there is none
(`Simulator.reclaimEntries`).

The looks alone decide what is left.  The resource goes with the last entry, whichever
gate sees it and whatever comes of that gate; short of it the resource stays, marked as
reclaimed, with the rest of its script (`destroy_eq_awaitedCycle`).
-/

namespace Provisioning

/-! ## The feed of a cancelled resource -/

/-- The entries that the feed of a resource shows after its cancellation. -/
def Simulator.reclaimEntries (s : Simulator) (id : ResourceId) : List (Option Transaction) :=
  match s.scripts.find? id with
  | some script => script.entries
  | none =>
    let reclaim : Transaction := ⟨s.nextTransactionId, "RECLAIM_WAIT", 0, 1.5⟩
    [some reclaim, some reclaim, none]

theorem Simulator.script_cancelled (s : Simulator) (id : ResourceId) :
    ((s.holding id).cancelled s.nextTransactionId).script =
      some ⟨s.reclaimEntries id, .removed⟩ := by
  unfold Holding.cancelled holding reclaimEntries
  cases s.scripts.find? id with
  | none => rfl
  | some script => rfl

/-- The vendor after the lookup and the cancellation of a resource. -/
def Simulator.reclaiming (s : Simulator) (id : ResourceId) (item : Nat) : Simulator :=
  ((s.call (.getResource id)).1.call (.cancelBillingItem item)).1

section Alone

variable {id : ResourceId} {resource : Resource} {item : Nat} {g : Solitude} {s : Simulator}

theorem Simulator.calls_reclaiming (s : Simulator) (id : ResourceId) (item : Nat) :
    (s.reclaiming id item).calls = { s.calls with
      getResource := s.calls.getResource + 1
      cancelBillingItem := s.calls.cancelBillingItem + 1 } := by
  rw [reclaiming, calls_call, calls_call]
  rfl

/-- The cancelled resource is at the beginning of its script. -/
theorem Simulator.holding_reclaiming (tidy : s.Tidy) (found : s.find? id = some resource)
    (billed : resource.billingItemId = some item) :
    (s.reclaiming id item).holding id =
      ((s.holding id).cancelled s.nextTransactionId).played ⟨s.reclaimEntries id, .removed⟩ 0 := by
  rw [Holding.played_zero (s.script_cancelled id)]
  exact holding_call_cancel_self (s.call (.getResource id)).1 tidy found billed

theorem Simulator.holding_reclaiming_of_ne (tidy : s.Tidy) (found : s.find? id = some resource)
    (billed : resource.billingItemId = some item) {other : ResourceId} (h : other ≠ id) :
    (s.reclaiming id item).holding other = s.holding other :=
  holding_call_cancel_of_ne (s.call (.getResource id)).1 tidy found billed h

/-- The looks that take every entry take the resource away, and others leave it. -/
theorem Simulator.looked_reclaiming (tidy : s.Tidy) (found : s.find? id = some resource)
    (billed : resource.billingItemId = some item) {looks : Nat} (pos : 0 < looks) :
    if (s.reclaimEntries id).length ≤ looks then
      ((s.reclaiming id item).looked id looks).find? id = none ∧
        ((s.reclaiming id item).looked id looks).scripts.find? id = none
    else
      ((s.reclaiming id item).looked id looks).find? id = some resource.reclaimed ∧
        ((s.reclaiming id item).looked id looks).scripts.find? id =
          some ⟨(s.reclaimEntries id).drop looks, .removed⟩ := by
  have holding := holding_looked (holding_reclaiming tidy found billed) looks
  rw [Nat.zero_add] at holding
  unfold Holding.played at holding
  have hfind := congrArg Holding.resource holding
  have hscript := congrArg Holding.script holding
  split
  · rename_i hover
    rw [if_neg (by dsimp only; omega)] at hfind hscript
    exact ⟨hfind, hscript⟩
  · rename_i hleft
    rw [if_pos (.inr (Nat.lt_of_not_le hleft))] at hfind hscript
    refine ⟨hfind.trans ?_, hscript⟩
    show (s.find? id).map Resource.reclaimed = _
    rw [found]
    rfl

/-- A destruction cancels the resource and waits for the cycle that its feed shows. -/
theorem assures_destroyNode_awaited (polling : PollingConfig) (tidy : g.vendor.Tidy)
    (found : g.vendor.find? id = some resource) (billed : resource.billingItemId = some item) :
    let awaited := awaitedCycle polling (resource.hostname ++ "(" ++ toString id ++ ")")
      (g.vendor.reclaimEntries id)
    (destroyNode polling id).Assures .alone
      (fun _ g' => awaited.1 = .ok () ∧
        g'.vendor = (g.vendor.reclaiming id item).looked id awaited.2)
      (fun cause g' => awaited.1 = .error cause ∧
        g'.vendor = (g.vendor.reclaiming id item).looked id awaited.2) g := by
  intro awaited
  simp only [destroyNode, Procedure.assures_bind]
  refine assures_request_alone (fun h => (by cases h)) (fun reply hreply => ?_)
    fun cause hcause => (by cases hcause)
  have hreply : Except.ok (g.vendor.find? id) = .ok reply := hreply
  rw [found] at hreply
  cases hreply
  dsimp only
  rw [billed]
  simp only [Procedure.assures_bind]
  -- the lookup has been counted, and nothing else is changed by it
  have replied :
      ((g.vendor.call (.getResource id)).1.call (.cancelBillingItem item)).2 = .ok true :=
    Simulator.call_cancel (g.vendor.call (.getResource id)).1 tidy found billed
  refine assures_request_alone (fun h => (by cases h)) (fun done hdone => ?_)
    fun cause hcause => ?_
  case refine_2 =>
    rw [replied] at hcause
    cases hcause
  rw [replied] at hdone
  cases hdone
  simp only [if_true, Procedure.assures_bind, Procedure.assures_liftM, Workflow.notify,
    Workflow.Assures]
  exact assures_awaitCycle_alone (g := ⟨g.now, g.vendor.reclaiming id item⟩)
    (Simulator.holding_reclaiming tidy found billed)

end Alone

/-! ## The whole destruction -/

/-- Where a destruction ends and what it leaves of the vendor. -/
theorem perform_destroy (session : Session) (tidy : session.simulator.Tidy) {id : ResourceId}
    {resource : Resource} {item : Nat} (found : session.simulator.find? id = some resource)
    (billed : resource.billingItemId = some item) :
    let awaited := awaitedCycle session.provisioner.config.polling
      (resource.hostname ++ "(" ++ toString id ++ ")") (session.simulator.reclaimEntries id)
    (session.perform (session.provisioner.destroy id)).1 = awaited.1 ∧
      (session.perform (session.provisioner.destroy id)).2.simulator =
        (session.simulator.reclaiming id item).looked id awaited.2 := by
  intro awaited
  have assured := Workflow.Assures.run_alone session.run
    (assures_destroyNode_awaited (g := ⟨session.run.now, session.run.vendor⟩)
      session.provisioner.config.polling tidy found billed)
  have performed : session.perform (session.provisioner.destroy id) =
      (((destroyNode session.provisioner.config.polling id).run.run Simulator.asVendor
          session.run).1,
        { session with
          run := ((destroyNode session.provisioner.config.polling id).run.run Simulator.asVendor
            session.run).2 }) := rfl
  rw [performed]
  generalize (destroyNode session.provisioner.config.polling id).run.run Simulator.asVendor
    session.run = reached at assured
  obtain ⟨result, run⟩ := reached
  cases result with
  | ok _ => exact ⟨assured.1.symm, assured.2⟩
  | error cause => exact ⟨assured.1.symm, assured.2⟩

/-- What a destruction alone with the vendor comes to is told by the feed and the bounds
of its gates, and what is left of the resource by the number of its looks: nothing, if
they took every entry, and else the resource, marked as reclaimed, with the other
entries.  It makes one cancellation and touches no other resource.  The looks that a gate
allows are `StagePolicy.attempts`, over pauses of 64 bits if `StagePolicy.PausesFit` is true
of its policy. -/
theorem destroy_eq_awaitedCycle (session : Session) (tidy : session.simulator.Tidy)
    {held : HeldResource} (mem : held ∈ session.simulator.resources) {item : Nat}
    (billed : held.resource.billingItemId = some item) :
    let id := held.resource.id
    let entries := session.simulator.reclaimEntries id
    let (outcome, looks) := awaitedCycle session.provisioner.config.polling held.resource.label
      entries
    let (result, after) := session.perform (session.provisioner.destroy id)
    result = outcome ∧
      after.simulator.calls = { session.simulator.calls with
        getResource := session.simulator.calls.getResource + 1
        cancelBillingItem := session.simulator.calls.cancelBillingItem + 1
        activeTransaction := session.simulator.calls.activeTransaction + looks } ∧
      (if entries.length ≤ looks then
        after.simulator.find? id = none ∧ after.simulator.scripts.find? id = none
      else
        after.simulator.find? id = some held.resource.reclaimed ∧
          after.simulator.scripts.find? id = some ⟨entries.drop looks, .removed⟩) ∧
      ∀ other, other ≠ id → after.simulator.holding other = session.simulator.holding other := by
  intro id entries
  have found : session.simulator.find? id = some held.resource := tidy.find?_of_mem mem
  have reached := perform_destroy session tidy found billed
  rw [← Resource.label] at reached
  have looks_pos := awaitedCycle_pos session.provisioner.config.polling held.resource.label entries
  have left := Simulator.looked_reclaiming tidy found billed looks_pos
  revert reached left
  generalize awaitedCycle session.provisioner.config.polling held.resource.label entries = awaited
  generalize session.perform (session.provisioner.destroy id) = performed
  obtain ⟨outcome, looks⟩ := awaited
  obtain ⟨result, after⟩ := performed
  dsimp only
  intro reached left
  obtain ⟨hresult, hvendor⟩ := reached
  rw [hvendor]
  refine ⟨hresult, ?_, left, fun other hne => ?_⟩
  · rw [Simulator.calls_looked, Simulator.calls_reclaiming]
  · rw [Simulator.holding_looked_of_ne hne]
    exact Simulator.holding_reclaiming_of_ne tidy found billed hne

/-- With one look at either gate the destruction of a resource without a script runs out
while the resource is still reclaimed, and the end of its script is left. -/
theorem destroy_eq_awaitedCycle_unscripted :
    let once : StagePolicy := ⟨0, 1, 1⟩
    let resource : Resource :=
      { id := ⟨1⟩, hostname := "db01", domain := "", billingItemId := some 11 }
    let session : Session :=
      { provisioner := ⟨{ polling := { transactionsStarted := once, transactionsEnded := once } },
          by decide⟩
        run := { vendor := (Simulator.empty .bareMetal).insertResource resource } }
    let (result, after) := session.perform (session.provisioner.destroy ⟨1⟩)
    result = .error (.stageTimeout .transactionsEnded "db01(1)" 0) ∧
      after.simulator.calls = { getResource := 1, cancelBillingItem := 1, activeTransaction := 2 } ∧
      after.simulator.find? ⟨1⟩ = some resource.reclaimed ∧
      after.simulator.scripts.find? ⟨1⟩ = some ⟨[none], .removed⟩ := by
  intro once resource session
  have tidy : session.simulator.Tidy := List.pairwise_singleton _ _
  have mem : (⟨resource, 0⟩ : HeldResource) ∈ session.simulator.resources :=
    List.mem_singleton_self _
  have billed : (HeldResource.mk resource 0).resource.billingItemId = some 11 := rfl
  have calls : session.simulator.calls = {} := rfl
  have entries : session.simulator.reclaimEntries ⟨1⟩ = (Script.decommission 1).entries := rfl
  have awaited : awaitedCycle session.provisioner.config.polling resource.label
      (Script.decommission 1).entries =
        (.error (.stageTimeout .transactionsEnded "db01(1)" 0), 2) := by
    decide +kernel
  -- from here on it does not matter what else the session is like
  clear_value session
  have course := destroy_eq_awaitedCycle session tidy mem billed
  dsimp only at course
  rw [entries, awaited, calls] at course
  generalize session.perform (session.provisioner.destroy ⟨1⟩) = performed at course ⊢
  exact ⟨course.1, course.2.1, course.2.2.1⟩

end Provisioning
