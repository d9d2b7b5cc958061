import Provisioning.Proofs.Destruction.Reclaim

/-!
# The outcome of a destruction

A destruction goes on with the script that it finds, so what earlier jobs have
left of it decides how the destruction ends.  Whatever they left, the resource is
gone afterwards (`destroy_removes`): the script is played to its end by
one of the two gates, and its end takes the resource away.

If earlier jobs have seen all of its transactions, nothing is left to be seen by
the gate for the start.  Then the resource goes at the first look, and the
destruction still waits until that gate runs out (`destroy_of_drained`).
-/

namespace Provisioning

/-! ## What is left of a script -/

namespace Script

/-- No look at what is left shows a transaction. -/
def drained (script : Script) : Bool :=
  script.entries.all (·.isNone)

variable {script : Script}

theorem findIdx_isNone (actives : List Transaction) :
    (actives.map some ++ [none] : List (Option Transaction)).findIdx (·.isNone) =
      actives.length := by
  induction actives with
  | nil => rfl
  | cons active rest ih => simp [List.findIdx_cons, ih]

/-- What is left is the end alone, or it begins with a transaction and the first
look that shows none is the last one. -/
theorem Leftover.cases (h : script.Leftover) :
    script.drained = true ∧ script.entries.findIdx? (·.isSome) = none ∧
        script.entries.length = 1 ∨
      script.drained = false ∧ script.entries.findIdx? (·.isSome) = some 0 ∧
        cycleEnd script.entries 0 + 1 = script.entries.length ∧ script.entries.length ≤ 4 := by
  obtain ⟨actives, hlength, hentries⟩ := h
  unfold drained
  rw [hentries]
  cases actives with
  | nil => exact .inl ⟨rfl, rfl, rfl⟩
  | cons active rest =>
    refine .inr ⟨rfl, rfl, ?_, ?_⟩
    · have hend : cycleEnd ((active :: rest).map some ++ [none]) 0 =
          1 + (rest.map some ++ [none] : List (Option Transaction)).findIdx (·.isNone) := rfl
      rw [hend, findIdx_isNone]
      simp [Nat.add_comm]
    · simp only [List.length_append, List.length_map, List.length_cons, List.length_nil]
        at hlength ⊢
      omega

/-- The wait for the cycle plays what is left of a script to its end, and is over in time
unless there is no transaction left. -/
theorem Leftover.awaitedCycle_eq (left : script.Leftover) {polling : PollingConfig}
    (started : 5 ≤ polling.transactionsStarted.attempts)
    (ended : 5 ≤ polling.transactionsEnded.attempts) (label : String) :
    script.entries.length ≤ (awaitedCycle polling label script.entries).2 ∧
      (awaitedCycle polling label script.entries).1 = if script.drained then
        .error (.stageTimeout .transactionsStarted label polling.transactionsStarted.maxWaitMs)
        else .ok () := by
  unfold awaitedCycle
  rcases left.cases with ⟨hdrained, hfirst, hlength⟩ | ⟨hdrained, hfirst, hend, hlength⟩
  · rw [hfirst, hdrained]
    exact ⟨by dsimp only; omega, rfl⟩
  · rw [hfirst, hdrained]
    dsimp only
    rw [if_neg (by omega), if_neg (by omega)]
    exact ⟨by dsimp only; omega, rfl⟩

end Script

/-! ## Alone -/

/-- Nothing but the end is left of the script of this id. -/
def Simulator.drained (s : Simulator) (id : ResourceId) : Bool :=
  (s.scripts.find? id).any (·.drained)

/-- A cancellation leaves a drained script drained, and no other. -/
theorem Simulator.drained_reclaimEntries (s : Simulator) (id : ResourceId) :
    Script.drained ⟨s.reclaimEntries id, .removed⟩ = s.drained id := by
  unfold drained reclaimEntries Script.drained
  cases s.scripts.find? id with
  | none => rfl
  | some script => rfl

/-- A destruction takes the resource away, in time unless its script is drained. -/
theorem assures_destroyNode_alone {polling : PollingConfig} {id : ResourceId} {g : Solitude}
    {resource : Resource} (orderly : g.vendor.Orderly)
    (held : g.vendor.find? id = some resource)
    (started : 5 ≤ polling.transactionsStarted.attempts)
    (ended : 5 ≤ polling.transactionsEnded.attempts) :
    (destroyNode polling id).Assures .alone
      (fun _ g' => g.vendor.drained id = false ∧ g'.vendor.find? id = none)
      (fun cause g' => g.vendor.drained id = true ∧
        cause = .stageTimeout .transactionsStarted
          (resource.hostname ++ "(" ++ toString id ++ ")") polling.transactionsStarted.maxWaitMs ∧
        g'.vendor.find? id = none) g := by
  obtain ⟨hbadge, -⟩ := Simulator.badge_mem_of_find? held
  have billed : resource.billingItemId = some (resource.id.value * 10 + 1) :=
    (orderly.numbered _ hbadge).2
  have left := (orderly.leftover id).cancelled g.vendor.nextTransactionId _
    (g.vendor.script_cancelled id)
  obtain ⟨hover, hresult⟩ := left.awaitedCycle_eq started ended
    (resource.hostname ++ "(" ++ toString id ++ ")")
  have gone := Simulator.looked_reclaiming orderly.tidy held billed
    (awaitedCycle_pos polling (resource.hostname ++ "(" ++ toString id ++ ")")
      (g.vendor.reclaimEntries id))
  rw [if_pos hover] at gone
  rw [Simulator.drained_reclaimEntries] at hresult
  refine (assures_destroyNode_awaited polling orderly.tidy held billed).mono ?_ ?_
  · intro _ g' hended
    obtain ⟨houtcome, hvendor⟩ := hended
    rw [hvendor]
    rw [hresult] at houtcome
    cases hdrained : g.vendor.drained id with
    | true =>
      rw [hdrained] at houtcome
      cases houtcome
    | false => exact ⟨rfl, gone.1⟩
  · intro cause g' hstopped
    obtain ⟨houtcome, hvendor⟩ := hstopped
    rw [hvendor]
    rw [hresult] at houtcome
    cases hdrained : g.vendor.drained id with
    | true =>
      rw [hdrained] at houtcome
      exact ⟨rfl, (Except.error.inj houtcome).symm, gone.1⟩
    | false =>
      rw [hdrained] at houtcome
      cases houtcome

/-! ## After any jobs -/

/-- Whatever jobs came before and however they ended, a destruction that has the
vendor to itself and may look five times at either gate takes its resource away.
It succeeds unless those jobs have seen the last transaction of the resource's
script and left its end. -/
theorem destroy_removes {kind : ResourceKind} {session : Session}
    (aftermath : Aftermath kind session.simulator) {id : ResourceId} {resource : Resource}
    (held : session.simulator.find? id = some resource)
    (started : 5 ≤ session.provisioner.config.polling.transactionsStarted.attempts)
    (ended : 5 ≤ session.provisioner.config.polling.transactionsEnded.attempts) :
    let (result, after) := session.perform (session.provisioner.destroy id)
    after.simulator.find? id = none ∧
      result = if session.simulator.drained id then
        .error (.stageTimeout .transactionsStarted
          (resource.hostname ++ "(" ++ toString id ++ ")")
          session.provisioner.config.polling.transactionsStarted.maxWaitMs)
        else .ok () := by
  have assured := Workflow.Assures.run_alone session.run
    (assures_destroyNode_alone (g := ⟨session.run.now, session.run.vendor⟩) aftermath.orderly held
      started ended)
  have performed : session.perform (session.provisioner.destroy id) =
      (((destroyNode session.provisioner.config.polling id).run.run Simulator.asVendor
          session.run).1,
        { session with
          run := ((destroyNode session.provisioner.config.polling id).run.run Simulator.asVendor
            session.run).2 }) := rfl
  rw [performed]
  generalize (destroyNode session.provisioner.config.polling id).run.run Simulator.asVendor
    session.run = reached at assured
  obtain ⟨result, run⟩ := reached
  cases result with
  | ok _ =>
    obtain ⟨hleft, hgone⟩ := assured
    refine ⟨hgone, ?_⟩
    rw [show session.simulator.drained id = false from hleft]
    rfl
  | error cause =>
    obtain ⟨hdrained, hcause, hgone⟩ := assured
    refine ⟨hgone, ?_⟩
    rw [show session.simulator.drained id = true from hdrained, hcause]
    rfl

/-- A creation that looks for the end of its cycle once leaves a transaction to be
seen, and the destruction succeeds. -/
theorem destroy_removes_half_provisioned :
    let five : StagePolicy := ⟨4, 1, 1⟩
    let hasty : Session :=
      { provisioner := ⟨{ polling := { orderApproved := five, transactionsStarted := five,
                                       transactionsEnded := ⟨0, 1, 1⟩ } }, by decide⟩
        run := { vendor := .withDemoCatalog .bareMetal } }
    let wanted : CreateRequest := ⟨"db01", none, "dal05", "17438", "1921,1267"⟩
    let vendor := (hasty.perform (hasty.provisioner.create wanted)).2.simulator
    let patient : Session :=
      { provisioner := ⟨{ polling := { transactionsStarted := five, transactionsEnded := five } },
          by decide⟩
        run := { vendor := vendor } }
    (vendor.find? ⟨1⟩).isSome = true ∧
      let (result, after) := patient.perform (patient.provisioner.destroy ⟨1⟩)
      after.simulator.find? ⟨1⟩ = none ∧ result = .ok () := by
  intro five hasty wanted
  have aftermath := @Aftermath.created .bareMetal hasty wanted rfl .fresh
  have held : ((hasty.perform (hasty.provisioner.create wanted)).2.simulator.find? ⟨1⟩).isSome =
      true := by decide +kernel
  have left : (hasty.perform (hasty.provisioner.create wanted)).2.simulator.drained ⟨1⟩ =
      false := by decide +kernel
  have five_le : 5 ≤ five.attempts := by decide +kernel
  -- from here on it does not matter how the vendor came about
  generalize (hasty.perform (hasty.provisioner.create wanted)).2.simulator = vendor
    at aftermath held left ⊢
  intro _ patient
  obtain ⟨resource, hresource⟩ := Option.isSome_iff_exists.mp held
  have removed := @destroy_removes .bareMetal patient aftermath ⟨1⟩ resource hresource five_le
    five_le
  rw [show patient.simulator.drained ⟨1⟩ = false from left] at removed
  exact ⟨held, removed⟩

/-- A creation that looks for the end of its cycle twice sees the last transaction
and leaves the end.  Then the destruction does not succeed, however often it
looks. -/
theorem destroy_of_drained :
    let five : StagePolicy := ⟨4, 1, 1⟩
    let hasty : Session :=
      { provisioner := ⟨{ polling := { orderApproved := five, transactionsStarted := five,
                                       transactionsEnded := ⟨1, 1, 1⟩ } }, by decide⟩
        run := { vendor := .withDemoCatalog .bareMetal } }
    let wanted : CreateRequest := ⟨"db01", none, "dal05", "17438", "1921,1267"⟩
    let vendor := (hasty.perform (hasty.provisioner.create wanted)).2.simulator
    let patient : Session :=
      { provisioner := ⟨{ polling := { transactionsStarted := five, transactionsEnded := five } },
          by decide⟩
        run := { vendor := vendor } }
    Aftermath .bareMetal vendor ∧ (vendor.find? ⟨1⟩).isSome = true ∧ five.attempts = 5 ∧
      (patient.perform (patient.provisioner.destroy ⟨1⟩)).1 =
        .error (.stageTimeout .transactionsStarted "db01(1)" 4) := by
  intro five hasty wanted vendor patient
  have aftermath := @Aftermath.created .bareMetal hasty wanted rfl .fresh
  have held : (vendor.find? ⟨1⟩).isSome = true := by decide +kernel
  have attempts : five.attempts = 5 := by decide +kernel
  have result : (patient.perform (patient.provisioner.destroy ⟨1⟩)).1 =
      .error (.stageTimeout .transactionsStarted "db01(1)" 4) := by decide +kernel
  exact ⟨aftermath, held, attempts, result⟩

end Provisioning
