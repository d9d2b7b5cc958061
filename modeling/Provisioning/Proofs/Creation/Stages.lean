import Provisioning.Proofs.Creation.Log
import Provisioning.Provisioner

/-!
# The stages of a creation

What a creation does from the moment at which it has its catalog, against any
vendor: it submits its order once, and then its calls are those of a log that
`CreationLog.Follows` describes.  Gate by gate, what is seen of a wait is added
to the log; `assures_finishCreation` does so for the gates after the discovery
and `creation_follows_stages` is the whole creation.
-/

namespace Provisioning

variable {α σ : Type}

/-- What the job does once the catalog has been looked up. -/
def Job.after (catalog : RefreshOutcome) : Job α → Workflow α
  | .plain workflow => workflow
  | .withCatalog workflow => workflow catalog

/-- A creation in progress: so many gates are open, and the journal has the calls
of its log since it was `before`. -/
def Grown (receipt : OrderReceipt) (found : Resource) (before : Journal) (count : Nat)
    (j : Journal) : Prop :=
  ∃ log : CreationLog, log.receipt = receipt ∧ log.found = found ∧ log.At count ∧
    j.exchanges = before.exchanges ++ log.exchanges

/-- A creation that is over: the journal has the calls of its log, which follows
the stages. -/
def Concluded (polling : PollingConfig) (receipt : OrderReceipt) (before : Journal)
    (result : Except Error CreatedNode) (j : Journal) : Prop :=
  ∃ log : CreationLog, log.receipt = receipt ∧ log.Follows polling j.now result ∧
    j.exchanges = before.exchanges ++ log.exchanges

section Gates

variable {polling : PollingConfig} {receipt : OrderReceipt} {found : Resource} {before : Journal}

/-- The wait at a gate with a single call adds the looks of that gate. -/
theorem assures_awaitStage_grown {stage : Stage} {probe : Tracker → Procedure (Tracker × Bool)}
    (call : Call) (condition : call.Reply → Bool) (Ready Done : Tracker → Prop)
    (later : stage ≠ .orderApproved)
    (looksAt : ∀ log : CreationLog, log.found = found → ∀ look outcome,
      ProbeLook call condition look outcome → log.LooksAt stage look)
    (probes : ∀ tracker j, Ready tracker →
      (probe tracker).Assures .anyVendor
        (fun result j' => ∃ reply, j'.exchanges = j.exchanges ++ [⟨j.now, call, .ok reply⟩] ∧
          result.2 = condition reply ∧ if condition reply then Done result.1 else Ready result.1)
        (fun cause j' => j'.exchanges = j.exchanges ++ [⟨j.now, call, .error cause⟩]) j)
    {tracker : Tracker} (ready : Ready tracker) {j : Journal}
    (grown : Grown receipt found before stage.rank j) :
    (awaitStage polling stage found.label tracker probe).Assures .anyVendor
      (fun tracker' j' => Done tracker' ∧ Grown receipt found before (stage.rank + 1) j')
      (fun cause => Concluded polling receipt before (.error cause)) j := by
  obtain ⟨log, rfl, rfl, grown, calls⟩ := grown
  have kind := ProbeLook.kind call condition
  have seen := looksAt log rfl
  refine (assures_awaitStage call condition Ready Done probes ready j).mono ?_ ?_
  · intro tracker' j' h
    obtain ⟨done, missed, last, wait⟩ := h
    have opened := grown.next (wait.forall_look seen) (wait.opened kind) later
    refine ⟨done, log.look stage (missed ++ [last]), rfl, rfl, opened, ?_⟩
    rw [wait.exchanges, calls, grown.exchanges_look, List.append_assoc]
  · intro cause j' h
    obtain ⟨missed, last, outcome, wait, stopped⟩ := h
    refine ⟨log.look stage (missed ++ [last]), rfl, grown.follows_of_stopped kind wait seen ?_, ?_⟩
    · rcases stopped with stopped | ⟨hnone, hcause⟩
      · exact .inl stopped
      · rw [CreationLog.Stopped, log.label_of_ne later]
        exact .inr ⟨hnone, hcause⟩
    · rw [wait.exchanges, calls, grown.exchanges_look, List.append_assoc]

theorem Grown.concluded {j : Journal} (grown : Grown receipt found before 4 j)
    (answer : Except Error (Option Resource)) (delay : Nat) :
    Concluded polling receipt before (CreationLog.fetched found answer)
      ⟨j.now + delay, j.exchanges ++ [⟨j.now, .getResource found.id, answer⟩]⟩ := by
  obtain ⟨log, rfl, rfl, grown, calls⟩ := grown
  refine ⟨log.fetch j.now answer, rfl, grown.follows_fetch polling j.now _ answer, ?_⟩
  rw [grown.exchanges_fetch, calls, List.append_assoc]

/-- The gates after the discovery, and the fetch. -/
theorem assures_finishCreation {j : Journal} (grown : Grown receipt found before 1 j) :
    (finishCreation polling found).Assures .anyVendor
      (fun node => Concluded polling receipt before (.ok node))
      (fun cause => Concluded polling receipt before (.error cause)) j := by
  simp only [finishCreation, awaitCycle, Procedure.assures_bind, Procedure.assures_liftM,
    Workflow.notify, Workflow.Assures]
  refine (assures_awaitStage_grown (.activeTransaction found.id) Option.isSome (fun _ => True)
    (fun tracker => tracker.HasSeen found.id) (by decide) ?_
    (fun tracker j' _ => assures_transactionsStarted found.id tracker j') trivial grown).mono ?_
    fun _ _ h => h
  · rintro log rfl look outcome h
    exact ⟨outcome, h⟩
  intro tracker j' h
  obtain ⟨seen, grown⟩ := h
  refine (assures_awaitStage_grown (.activeTransaction found.id) Option.isNone
    (fun tracker => tracker.HasSeen found.id) (fun _ => True) (by decide) ?_
    (fun tracker j' => assures_transactionsEnded found.id tracker j') seen grown).mono ?_
    fun _ _ h => h
  · rintro log rfl look outcome h
    exact ⟨outcome, h⟩
  intro _ j' h
  obtain ⟨-, grown⟩ := h
  refine (assures_awaitStage_grown (.getResource found.id) (Option.any (·.hasLoginDetails))
    (fun _ => True) (fun _ => True) (by decide) ?_
    (fun tracker j' _ => assures_loginDetailsPresent found.id tracker j') trivial grown).mono ?_
    fun _ _ h => h
  · rintro log rfl look outcome h
    exact ⟨outcome, h⟩
  intro _ j' h
  obtain ⟨-, grown⟩ := h
  refine (Procedure.assures_request _ _ _).mpr ⟨trivial, ?_, ?_⟩
  · intro reply _ answered
    obtain ⟨delay, rfl⟩ := answered
    have concluded : Concluded polling receipt before _ _ := grown.concluded (.ok reply) delay
    cases reply with
    | none => exact concluded
    | some resource =>
      simp only [CreationLog.fetched] at concluded ⊢
      split
      · rename_i locked
        rw [locked] at concluded
        exact concluded
      · rename_i credentials hcredentials
        rw [hcredentials] at concluded
        exact concluded
  · intro cause _ answered
    obtain ⟨delay, rfl⟩ := answered
    exact grown.concluded (.error cause) delay

/-- The wait for the discovery adds the looks of the first gate. -/
theorem assures_awaitDiscovery_grown (j : Journal) :
    (awaitDiscovery polling.orderApproved receipt).Assures .anyVendor
      (fun found => Grown receipt found j 1)
      (fun cause => Concluded polling receipt j (.error cause)) j := by
  have kind := DiscoveryLook.kind receipt
  refine (assures_awaitDiscovery polling.orderApproved receipt j).mono ?_ ?_
  · intro found j' h
    obtain ⟨missed, last, wait⟩ := h
    have unseen := CreationLog.at_zero receipt found
    have seen : ∀ look outcome, DiscoveryLook receipt look outcome →
        CreationLog.LooksAt ⟨receipt, fun _ => [], found, none⟩ .orderApproved look :=
      fun look outcome h => ⟨outcome, h⟩
    refine ⟨_, rfl, rfl, CreationLog.at_one (wait.forall_look seen) (wait.opened kind)
      wait.decided, ?_⟩
    rw [wait.exchanges, unseen.exchanges_look]
    rfl
  · intro cause j' h
    obtain ⟨missed, last, outcome, wait, stopped⟩ := h
    have unseen : CreationLog.At ⟨receipt, fun _ => [], { id := ⟨0⟩, hostname := "", domain := "" },
        none⟩ Stage.orderApproved.rank := CreationLog.at_zero receipt _
    have follows : CreationLog.Follows _ polling j'.now (.error cause) :=
      unseen.follows_of_stopped kind wait (fun look outcome h => ⟨outcome, h⟩) stopped
    refine ⟨_, rfl, follows, ?_⟩
    rw [wait.exchanges, unseen.exchanges_look]
    rfl

end Gates

/-! ## The whole creation -/

/-- What is seen of a creation: an order that cannot be made up is not
submitted, a submission that fails ends the creation, and a receipt is followed
by the stages. -/
def CreationSeen (config : Config) (order : Except Error Order) (before : Journal)
    (result : Except Error CreatedNode) (after : Journal) : Prop :=
  match order with
  | .error cause => result = .error cause ∧ after.exchanges = before.exchanges
  | .ok order =>
    (∃ cause, result = .error cause ∧
      after.exchanges = before.exchanges ++ [⟨before.now, .submitOrder order, .error cause⟩]) ∨
    ∃ log : CreationLog, log.Follows config.polling after.now result ∧
      after.exchanges =
        before.exchanges ++ ⟨before.now, .submitOrder order, .ok log.receipt⟩ :: log.exchanges

theorem assures_createFrom (config : Config) (package : ProductPackage) (wanted : CreateRequest)
    (j : Journal) :
    (createFrom config package wanted).Assures .anyVendor
      (fun node => CreationSeen config (orderFor config package wanted) j (.ok node))
      (fun cause => CreationSeen config (orderFor config package wanted) j (.error cause)) j := by
  simp only [createFrom, Procedure.assures_bind, Procedure.assures_ofExcept]
  cases orderFor config package wanted with
  | error cause =>
    refine ⟨fun _ h => (by cases h), ?_⟩
    intro _ h
    cases h
    exact ⟨rfl, rfl⟩
  | ok order =>
    refine ⟨?_, fun _ h => (by cases h)⟩
    intro _ h
    cases h
    refine (Procedure.assures_request _ _ _).mpr ⟨trivial, ?_, ?_⟩
    · intro receipt _ answered
      obtain ⟨delay, rfl⟩ := answered
      simp only [Procedure.assures_liftM, Workflow.notify, Workflow.Assures]
      have concluded : ∀ result j', Concluded config.polling receipt
          ⟨j.now + delay, j.exchanges ++ [⟨j.now, .submitOrder order, .ok receipt⟩]⟩ result j' →
          CreationSeen config (.ok order) j result j' := by
        intro result j' h
        obtain ⟨log, rfl, follows, calls⟩ := h
        exact .inr ⟨log, follows, by rw [calls, List.append_assoc]; rfl⟩
      refine (assures_awaitDiscovery_grown _).mono ?_ fun cause j' => concluded _ j'
      intro found j' grown
      exact (assures_finishCreation grown).mono (fun node j' => concluded _ j')
        fun cause j' => concluded _ j'
    · intro cause _ answered
      obtain ⟨delay, rfl⟩ := answered
      exact .inl ⟨cause, rfl, rfl⟩

/-- The calls of a creation after the lookup of its catalog follow the stages,
whatever the vendor answers and however long it takes. -/
theorem creation_follows_stages (p : Provisioner) (wanted : CreateRequest)
    (catalog : RefreshOutcome) (v : Vendor σ) (start : Run σ) :
    let (result, ended) := ((p.create wanted).after catalog).run v start
    CreationSeen p.config (catalog.bind fun package => orderFor p.config package wanted)
      start.journal result ended.journal := by
  have assured : ((p.create wanted).after catalog).Assures .anyVendor
      (fun result j => CreationSeen p.config
        (catalog.bind fun package => orderFor p.config package wanted) start.journal result j)
      start.journal := by
    cases catalog with
    | error cause => exact ⟨rfl, rfl⟩
    | ok package =>
      refine Workflow.Assures.mono (assures_createFrom p.config package wanted start.journal) ?_
      intro result j h
      cases result <;> exact h
  exact assured.run_anyVendor v start

end Provisioning
