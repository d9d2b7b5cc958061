import Provisioning.Proofs.Workflow.Polling
import Provisioning.Provisioner

/-!
# Workflows that look

Most calls of a workflow only ask how things are.  A creation makes one other
call, which submits its order, and a destruction makes one other call, which
cancels the billing item.  So whatever looks and pauses keep is true of a creation
up to its order, and what the order makes of it is true from then on.

`Surroundings.Keeps` says that calls of some operations and pauses keep what is
known.  The rules below take it through the gates and through whole workflows.
-/

namespace Provisioning

variable {α γ σ : Type}

/-- The operations by which a workflow waits: checks of an order, listings,
snapshots and looks at a feed. -/
def Operation.Looks : Operation → Prop
  | .billingOrder | .listResources | .getResource | .activeTransaction => True
  | _ => False

/-- The operations by which the catalog is looked up. -/
def Operation.Browses : Operation → Prop
  | .activePackageByName | .packageDetail => True
  | _ => False

/-- Where `P` is known, calls of these operations are allowed, and they and pauses
keep it. -/
structure Surroundings.Keeps (around : Surroundings γ) (asked : Operation → Prop)
    (P : γ → Prop) : Prop where
  allows : ∀ {g call}, asked call.operation → P g → around.Allows g call
  answers : ∀ {g call answer g'}, asked call.operation → P g →
    around.Answers g call answer g' → P g'
  passes : ∀ {g ms g'}, P g → around.Passes g ms g' → P g'

/-! ## Gates -/

section Gates

variable {around : Surroundings γ} {polling : PollingConfig} {stage : Stage} {label : String}

/-- A gate keeps what its looks and its pauses keep. -/
theorem assures_awaitStage_invariant {probe : Tracker → Procedure (Tracker × Bool)}
    (Inv : γ → Prop) (fail : Error → γ → Prop)
    (looks : ∀ tracker g, Inv g →
      (probe tracker).Assures around (fun _ g' => Inv g') fail g)
    (idle : ∀ g ms g', Inv g → around.Passes g ms g' → Inv g')
    (late : ∀ g, Inv g → fail (.stageTimeout stage label (polling.policy stage).maxWaitMs) g)
    (tracker : Tracker) {g : γ} (inv : Inv g) :
    (awaitStage polling stage label tracker probe).Assures around (fun _ g' => Inv g') fail g := by
  simp only [awaitStage, awaitCondition_eq, Procedure.assures_bind]
  refine (assures_pollUntil_invariant (fun _ g' => Inv g') (fun _ g => Inv g) ?_
    (fun _ g ms g' => idle g ms g') (fun _ _ inv => inv) tracker g inv).mono ?_ fun _ _ h => h
  · intro tracker g inv
    simp only [Procedure.assures_bind]
    refine (looks tracker g inv).mono ?_ fun _ _ h => h
    intro result g' inv'
    obtain ⟨tracker', holds⟩ := result
    cases holds <;> exact inv'
  · intro result g' inv'
    obtain ⟨tracker', found⟩ := result
    cases found with
    | none => exact late g' inv'
    | some _ => exact inv'

end Gates

/-! ## Workflows -/

namespace Surroundings.Keeps

variable {around : Surroundings γ} {asked : Operation → Prop} {P Q : γ → Prop} {g : γ}

theorem request (keeps : around.Keeps asked P) (call : Call) (h : asked call.operation)
    (known : P g) :
    (Provisioning.request call).Assures around (fun _ g' => P g') (fun _ g' => P g') g :=
  (Procedure.assures_request _ _ _).mpr ⟨keeps.allows h known,
    fun _ _ answered => keeps.answers h known answered,
    fun _ _ answered => keeps.answers h known answered⟩

section Looks

variable (keeps : around.Keeps Operation.Looks P)

include keeps

theorem awaitStage {polling : PollingConfig} {stage : Stage} {label : String}
    {probe : Tracker → Procedure (Tracker × Bool)}
    (probes : ∀ tracker g, P g →
      (probe tracker).Assures around (fun _ g' => P g') (fun _ g' => P g') g)
    (tracker : Tracker) (known : P g) :
    (Provisioning.awaitStage polling stage label tracker probe).Assures around
      (fun _ g' => P g') (fun _ g' => P g') g :=
  assures_awaitStage_invariant P (fun _ g' => P g') probes
    (fun _ _ _ known => keeps.passes known) (fun _ known => known) tracker known

theorem awaitCycle {polling : PollingConfig} {label : String} {id : ResourceId} (known : P g) :
    (Provisioning.awaitCycle polling label id).Assures around
      (fun _ g' => P g') (fun _ g' => P g') g := by
  have look : ∀ g, P g → (Provisioning.request (.activeTransaction id)).Assures around
      (fun _ g' => P g') (fun _ g' => P g') g := fun _ known => keeps.request (.activeTransaction id) trivial known
  simp only [Provisioning.awaitCycle, Procedure.assures_bind, Procedure.assures_pure]
  refine (keeps.awaitStage (fun tracker g known => ?_) _ known).mono ?_ fun _ _ h => h
  · simp only [transactionsStarted, Procedure.assures_bind, Procedure.assures_liftM,
      Workflow.assures_notifyAll, Procedure.assures_pure]
    exact look g known
  · intro tracker g known
    refine keeps.awaitStage (fun tracker g known => ?_) _ known
    simp only [transactionsEnded, Procedure.assures_bind, Procedure.assures_liftM,
      Workflow.assures_notifyAll, Procedure.assures_pure]
    exact look g known

theorem awaitDiscovery {policy : StagePolicy} {receipt : OrderReceipt} (known : P g) :
    (Provisioning.awaitDiscovery policy receipt).Assures around
      (fun _ g' => P g') (fun _ g' => P g') g := by
  simp only [Provisioning.awaitDiscovery, Procedure.assures_bind]
  refine (assures_pollUntil_invariant (fun _ g' => P g') (fun _ g => P g) ?_
    (fun _ _ _ _ known => keeps.passes known) (fun _ _ known => known) () g known).mono ?_
    fun _ _ h => h
  · intro _ g known
    simp only [Procedure.assures_bind, attemptDiscovery]
    refine (keeps.request (.billingOrder receipt.orderId) trivial known).mono ?_ fun _ _ h => h
    intro order g' known
    split
    · simp only [Procedure.assures_bind, Procedure.assures_pure]
      refine (keeps.request .listResources trivial known).mono ?_ fun _ _ h => h
      intro listed g'' known
      cases receipt.findIn listed <;> exact known
    · exact known
  · intro result g' known
    obtain ⟨_, found⟩ := result
    cases found <;> exact known

theorem finishCreation {polling : PollingConfig} {discovered : Resource} (known : P g) :
    (Provisioning.finishCreation polling discovered).Assures around
      (fun _ g' => P g') (fun _ g' => P g') g := by
  simp only [Provisioning.finishCreation, Procedure.assures_bind, Procedure.assures_liftM,
    Workflow.notify, Workflow.Assures]
  refine (keeps.awaitCycle known).mono ?_ fun _ _ h => h
  intro _ g known
  refine (keeps.awaitStage (fun tracker g known => ?_) _ known).mono ?_ fun _ _ h => h
  · simp only [loginDetailsPresent, Procedure.assures_bind, Procedure.assures_pure]
    exact keeps.request (.getResource discovered.id) trivial known
  intro _ g known
  refine (keeps.request (.getResource discovered.id) trivial known).mono ?_ fun _ _ h => h
  intro reply g known
  cases reply with
  | none => exact known
  | some resource =>
    cases hcredentials : resource.credentials <;>
      simp only [hcredentials] <;> exact known

/-- From its order on a creation only looks. -/
theorem createFrom {config : Config} {package : ProductPackage} {wanted : CreateRequest}
    (submits : ∀ order, orderFor config package wanted = .ok order →
      around.Allows g (.submitOrder order) ∧
        ∀ answer g', around.Answers g (.submitOrder order) answer g' → P g')
    (refuses : ∀ cause, orderFor config package wanted = .error cause → P g) :
    (Provisioning.createFrom config package wanted).Assures around
      (fun _ g' => P g') (fun _ g' => P g') g := by
  simp only [Provisioning.createFrom, Procedure.assures_bind, Procedure.assures_ofExcept]
  refine ⟨fun order ordered => ?_, refuses⟩
  obtain ⟨allowed, submitted⟩ := submits order ordered
  refine (Procedure.assures_request _ _ _).mpr
    ⟨allowed, ?_, fun _ g' answered => submitted _ g' answered⟩
  intro receipt g' answered
  simp only [Procedure.assures_liftM, Workflow.notify, Workflow.Assures]
  refine (keeps.awaitDiscovery (submitted _ g' answered)).mono ?_ fun _ _ h => h
  exact fun _ _ known => keeps.finishCreation known

end Looks

/-- A destruction looks before and after it cancels the billing item, if it does. -/
theorem destroyNode (before : around.Keeps Operation.Looks P)
    (after : around.Keeps Operation.Looks Q) {polling : PollingConfig} {id : ResourceId}
    (cancels : ∀ g item, P g → around.Allows g (.cancelBillingItem item) ∧
      ∀ answer g', around.Answers g (.cancelBillingItem item) answer g' → Q g')
    (rests : ∀ g, P g → Q g) (known : P g) :
    (Provisioning.destroyNode polling id).Assures around
      (fun _ g' => Q g') (fun _ g' => Q g') g := by
  simp only [Provisioning.destroyNode, Procedure.assures_bind]
  refine (before.request (.getResource id) trivial known).mono ?_ fun _ g' known => rests g' known
  intro reply g known
  cases reply with
  | none => exact rests g known
  | some resource =>
    cases hitem : resource.billingItemId with
    | none =>
      simp only [hitem]
      exact rests g known
    | some item =>
      obtain ⟨allowed, cancelled⟩ := cancels g item known
      simp only [hitem, Procedure.assures_bind]
      refine (Procedure.assures_request _ _ _).mpr
        ⟨allowed, ?_, fun _ g' answered => cancelled _ g' answered⟩
      intro done g' answered
      cases done with
      | false => exact cancelled _ g' answered
      | true =>
        simp only [if_true, Procedure.assures_bind, Procedure.assures_liftM, Workflow.notify,
          Workflow.Assures]
        exact after.awaitCycle (cancelled _ g' answered)

section Browses

variable (keeps : around.Keeps Operation.Browses P)

include keeps

theorem attemptFetch {name : String} (known : P g) :
    (Provisioning.attemptFetch name).Assures around
      (fun _ g' => P g') (fun _ g' => P g') g := by
  simp only [Provisioning.attemptFetch, fetchPackage, Procedure.assures_bind,
    Procedure.assures_tryCatch, Procedure.assures_map]
  have failed : ∀ cause g', P g' →
      Procedure.Assures around
        (if cause.isTransient = true then do
          Workflow.notify (.retryingCatalog name cause)
          return none
        else throw cause : Procedure (Option ProductPackage))
        (fun _ g' => P g') (fun _ g' => P g') g' := by
    intro cause g' known
    split <;> exact known
  refine (keeps.request (.activePackageByName name) trivial known).mono ?_ failed
  exact fun package g' known =>
    (keeps.request (.packageDetail package.id) trivial known).mono (fun _ _ h => h) failed

/-- A refresh of the catalog. -/
theorem refreshCatalog {name : String} {retry : StagePolicy} (known : P g) :
    (Provisioning.refreshCatalog name retry).Assures around (fun _ g' => P g') g := by
  have fetched : (pollUntil retry () fun _ => do
      return ((), ← Provisioning.attemptFetch name)).Assures around
      (fun _ g' => P g') (fun _ g' => P g') g := by
    refine assures_pollUntil_invariant (fun _ g' => P g') (fun _ g' => P g') ?_
      (fun _ _ _ _ known => keeps.passes known) (fun _ _ known => known) () g known
    intro _ g known
    simp only [Procedure.assures_bind, Procedure.assures_pure]
    refine (keeps.attemptFetch known).mono (fun found g' known => ?_) fun _ _ h => h
    cases found <;> exact known
  simp only [Provisioning.refreshCatalog, Workflow.assures_monadBind, Workflow.notify,
    Workflow.Assures]
  refine Workflow.Assures.mono fetched fun result g' h => ?_
  rcases result with cause | ⟨_, _ | package⟩
  · show Workflow.Assures around (if cause.isAuthorization = true then _ else _) _ g'
    split <;> exact h
  · exact h
  · exact h

end Browses

end Surroundings.Keeps

end Provisioning
