import Provisioning.Proofs.Creation.Stages
import Provisioning.Proofs.Vendor.Saving

/-!
# Workflows at another time

A workflow reads the clock only to see how long it has waited.  So a workflow that
begins later does the same things, each so much later: it is `Steady`.  The rules
below follow the ways in which procedures are built; `steady_pollUntil` is the one
place where the clock is read.

Against two vendors that are alike the runs have the same result and leave vendors
that are alike (`Workflow.Later.run`).
-/

namespace Provisioning

variable {α β σ : Type}

/-- The workflows do the same things, the second so many milliseconds after the
first. -/
inductive Workflow.Later (late : Nat) : Workflow α → Workflow α → Prop
  | done (result : α) : Later late (.done result) (.done result)
  | ask (call : Call) {next next' : call.Answer → Workflow α}
    (h : ∀ answer, Later late (next answer) (next' answer)) :
    Later late (.ask call next) (.ask call next')
  | pause (ms : Nat) {next next' : Workflow α} (h : Later late next next') :
    Later late (.pause ms next) (.pause ms next')
  | clock {next next' : Nat → Workflow α}
    (h : ∀ now, Later late (next now) (next' (now + late))) :
    Later late (.clock next) (.clock next')
  | report (notice : Notice) {next next' : Workflow α} (h : Later late next next') :
    Later late (.report notice next) (.report notice next')

/-- The workflow does the same things at any other time. -/
def Workflow.Steady (w : Workflow α) : Prop :=
  ∀ late, Workflow.Later late w w

/-- The same for procedures. -/
def Procedure.Later (late : Nat) (p p' : Procedure α) : Prop :=
  Workflow.Later late p.run p'.run

/-- The same for a procedure. -/
def Procedure.Steady (p : Procedure α) : Prop :=
  ∀ late, Procedure.Later late p p

/-! ## Rules -/

theorem Workflow.Later.bind {late : Nat} {w w' : Workflow α} {f f' : α → Workflow β}
    (h : Later late w w') (hf : ∀ a, Later late (f a) (f' a)) :
    Later late (w.bind f) (w'.bind f') := by
  induction h with
  | done result => exact hf result
  | ask call _ ih => exact .ask call ih
  | pause ms _ ih => exact .pause ms ih
  | clock _ ih => exact .clock ih
  | report notice _ ih => exact .report notice ih

theorem Workflow.Steady.bind {w : Workflow α} {f : α → Workflow β} (h : w.Steady)
    (hf : ∀ a, (f a).Steady) : (w.bind f).Steady :=
  fun late => (h late).bind fun a => hf a late

theorem Workflow.steady_done (result : α) : (Workflow.done result).Steady :=
  fun _ => .done result

theorem Workflow.steady_rest (ms : Nat) : (Workflow.rest ms).Steady :=
  fun _ => .pause ms (.done ())

theorem Workflow.steady_notify (notice : Notice) : (Workflow.notify notice).Steady :=
  fun _ => .report notice (.done ())

theorem Workflow.steady_notifyAll (notices : List Notice) :
    (Workflow.notifyAll notices).Steady := by
  intro late
  induction notices with
  | nil => exact .done ()
  | cons notice rest ih => exact .report notice ih

namespace Procedure

theorem Later.bind {late : Nat} {p p' : Procedure α} {f f' : α → Procedure β}
    (h : Procedure.Later late p p') (hf : ∀ a, Procedure.Later late (f a) (f' a)) :
    Procedure.Later late (p >>= f) (p' >>= f') := by
  refine Workflow.Later.bind h fun result => ?_
  cases result with
  | ok a => exact hf a
  | error cause => exact .done _

theorem Steady.bind {p : Procedure α} {f : α → Procedure β} (h : p.Steady)
    (hf : ∀ a, (f a).Steady) : (p >>= f).Steady :=
  fun late => Later.bind (h late) fun a => hf a late

theorem steady_pure (a : α) : Procedure.Steady (pure a) :=
  fun _ => Workflow.Later.done (Except.ok a : Except Error α)

theorem steady_throw (cause : Error) : Procedure.Steady (throw cause : Procedure α) :=
  fun _ => Workflow.Later.done (Except.error cause : Except Error α)

theorem steady_request (call : Call) : (request call).Steady :=
  fun _ => .ask call fun answer => .done answer

theorem steady_liftM {w : Workflow α} (h : w.Steady) : Procedure.Steady (liftM w) :=
  fun late => (h late).bind fun a => Workflow.Later.done (Except.ok a : Except Error α)

theorem steady_ofExcept (result : Except Error α) :
    Procedure.Steady (liftM result : Procedure α) := by
  cases result with
  | ok a => exact steady_pure a
  | error cause => exact steady_throw cause

/-- What is done with the time on the clock. -/
theorem later_now {late : Nat} {f f' : Nat → Procedure α}
    (h : ∀ now, Procedure.Later late (f now) (f' (now + late))) :
    Procedure.Later late (liftM Workflow.now >>= f) (liftM Workflow.now >>= f') :=
  Workflow.Later.clock h

end Procedure

open Procedure

/-! ## Waits -/

/-- A round sees how long the wait has been, whenever it began. -/
theorem later_pollFrom {late ticks budget : Nat} {attempt : σ → Procedure (σ × Option α)}
    (attempts : ∀ state, (attempt state).Steady) (started rounds : Nat) (backoff : Backoff)
    (state : σ) :
    Procedure.Later late (pollFrom ticks budget started attempt rounds backoff state)
      (pollFrom ticks budget (started + late) attempt rounds backoff state) := by
  induction rounds generalizing backoff state with
  | zero => exact steady_pure _ late
  | succ rounds ih =>
    rw [pollFrom, pollFrom]
    refine Later.bind (attempts state late) fun result => ?_
    obtain ⟨state', found⟩ := result
    cases found with
    | some value => exact steady_pure _ late
    | none =>
      refine later_now fun now => ?_
      dsimp only
      rw [Nat.add_sub_add_right]
      split
      · exact steady_pure _ late
      · exact Later.bind (steady_liftM (Workflow.steady_rest _) late) fun _ => ih _ _

theorem steady_pollUntil {attempt : σ → Procedure (σ × Option α)}
    (attempts : ∀ state, (attempt state).Steady) (policy : StagePolicy) (state : σ) :
    (pollUntil policy state attempt).Steady :=
  fun _ => later_now fun now => later_pollFrom attempts now _ _ _

theorem steady_awaitStage {probe : Tracker → Procedure (Tracker × Bool)}
    (probes : ∀ tracker, (probe tracker).Steady) (polling : PollingConfig) (stage : Stage)
    (label : String) (tracker : Tracker) :
    (awaitStage polling stage label tracker probe).Steady := by
  rw [awaitStage, awaitCondition_eq]
  refine Steady.bind (Steady.bind (steady_pollUntil (fun tracker => ?_) _ _) fun _ =>
    steady_pure _) fun result => ?_
  · exact (probes tracker).bind fun _ => steady_pure _
  · obtain ⟨tracker', holds⟩ := result
    cases holds with
    | true => exact steady_pure _
    | false => exact steady_throw _

theorem steady_awaitCycle (polling : PollingConfig) (label : String) (id : ResourceId) :
    (awaitCycle polling label id).Steady := by
  refine Steady.bind (steady_awaitStage (fun tracker => ?_) _ _ _ _) fun tracker =>
    (steady_awaitStage (fun tracker => ?_) _ _ _ _).bind fun _ => steady_pure ()
  · exact (steady_request _).bind fun _ =>
      (steady_liftM (Workflow.steady_notifyAll _)).bind fun _ => steady_pure _
  · exact (steady_request _).bind fun _ =>
      (steady_liftM (Workflow.steady_notifyAll _)).bind fun _ => steady_pure _

/-! ## Jobs -/

theorem steady_awaitDiscovery (policy : StagePolicy) (receipt : OrderReceipt) :
    (awaitDiscovery policy receipt).Steady := by
  refine Steady.bind (steady_pollUntil (fun _ => ?_) _ _) fun result => ?_
  · refine Steady.bind ((steady_request _).bind fun order => ?_) fun _ => steady_pure _
    split
    · exact (steady_request _).bind fun _ => steady_pure _
    · exact steady_pure _
  · obtain ⟨_, found⟩ := result
    cases found with
    | some resource => exact steady_pure _
    | none => exact steady_throw _

theorem steady_finishCreation (polling : PollingConfig) (discovered : Resource) :
    (finishCreation polling discovered).Steady := by
  refine Steady.bind (steady_liftM (Workflow.steady_notify _)) fun _ =>
    (steady_awaitCycle _ _ _).bind fun _ =>
      (steady_awaitStage (fun tracker => ?_) _ _ _ _).bind fun _ =>
        (steady_request _).bind fun reply => ?_
  · exact ((steady_request _).bind fun _ => steady_pure _).bind fun _ => steady_pure _
  · cases reply with
    | none => exact steady_throw _
    | some resource =>
      dsimp only
      split
      · exact steady_throw _
      · exact (steady_liftM (Workflow.steady_notify _)).bind fun _ => steady_pure _

theorem steady_createFrom (config : Config) (package : ProductPackage) (wanted : CreateRequest) :
    (createFrom config package wanted).Steady :=
  (steady_ofExcept _).bind fun _ => (steady_request _).bind fun _ =>
    (steady_liftM (Workflow.steady_notify _)).bind fun _ =>
      (steady_awaitDiscovery _ _).bind fun _ => steady_finishCreation _ _

theorem steady_destroyNode (polling : PollingConfig) (id : ResourceId) :
    (destroyNode polling id).Steady := by
  refine Steady.bind (steady_request _) fun reply => ?_
  cases reply with
  | none => exact steady_pure ()
  | some resource =>
    dsimp only
    split
    · exact steady_throw _
    · refine Steady.bind (steady_request _) fun done => ?_
      split
      · exact (steady_awaitCycle _ _ _).bind fun _ => steady_liftM (Workflow.steady_notify _)
      · exact steady_throw _

/-! ## Runs -/

/-- The same result from runs that leave vendors alike, the second so much later. -/
structure RunsAlike (late : Nat) (a b : α × Run Simulator) : Prop where
  result : a.1 = b.1
  vendor : a.2.vendor.Alike b.2.vendor
  time : b.2.now = a.2.now + late

/-- Workflows that do the same things against vendors that are alike. -/
theorem Workflow.Later.run {late : Nat} {w w' : Workflow α} (h : Later late w w')
    {run run' : Run Simulator} (alike : run.vendor.Alike run'.vendor)
    (time : run'.now = run.now + late) :
    RunsAlike late (w.run Simulator.asVendor run) (w'.run Simulator.asVendor run') := by
  induction h generalizing run run' with
  | done result => exact ⟨rfl, alike, time⟩
  | @ask call next next' _ ih =>
    obtain ⟨hanswer, hnext⟩ := alike.call call
    have hlatency : (run.vendor.arrive call).2.latencyMs = (run'.vendor.arrive call).2.latencyMs :=
      congrArg Admission.latencyMs (alike.arrive call).answer
    show RunsAlike late (Workflow.run _ (next (run.vendor.call call).2) _)
      (Workflow.run _ (next' (run'.vendor.call call).2) _)
    rw [hanswer]
    refine ih _ hnext ?_
    show run'.now + (run'.vendor.arrive call).2.latencyMs =
      run.now + (run.vendor.arrive call).2.latencyMs + late
    omega
  | pause ms _ ih => exact ih alike (by dsimp only; omega)
  | @clock next next' _ ih =>
    show RunsAlike late (Workflow.run _ (next run.now) run) (Workflow.run _ (next' run'.now) run')
    rw [time]
    exact ih run.now alike time
  | report notice _ ih => exact ih alike time

end Provisioning
