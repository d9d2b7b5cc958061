import Provisioning.Proofs.Workflow.Gate

/-!
# The wait for a cycle

A cycle of transactions is waited for at two gates: one opens when the cycle is
seen to start, and the next when it is seen to be over.  A `CycleLog` keeps the
looks at the two gates apart, and `CycleLog.Follows` is what holds of it when the
wait is over, whatever the vendor answered.

Every way in which the wait can end has a lemma that puts its log together:
`follows_of_started` for a wait that ends at the first gate and `follows_of_ended`
for one that comes to the second.  `assures_awaitCycle` is the whole wait.
-/

namespace Provisioning

/-- The looks at the two gates of a cycle. -/
structure CycleLog where
  started : List Look := []
  ended : List Look := []

namespace CycleLog

/-- The looks at the gate of a stage. -/
def looks (log : CycleLog) : Stage → List Look
  | .transactionsStarted => log.started
  | .transactionsEnded => log.ended
  | _ => []

/-- All calls in order. -/
def exchanges (log : CycleLog) : List Exchange :=
  log.started.flatMap (·.exchanges) ++ log.ended.flatMap (·.exchanges)

@[simp] theorem exchanges_empty : exchanges {} = [] := rfl

/-- Why the wait for a cycle failed: its last call did, or a gate ran out. -/
inductive Refuses (log : CycleLog) (polling : PollingConfig) (label : String) : Error → Prop where
  | failed (x : Exchange) (cause : Error) (last : log.exchanges.getLast? = some x)
      (answer : x.answer = .error cause) : Refuses log polling label cause
  | ranOut (stage : Stage) (spent : RanOut (log.looks stage)) :
    Refuses log polling label (.stageTimeout stage label (polling.policy stage).maxWaitMs)

/-- The log of a wait for the cycle of a resource that ended with a result.  Every
look is one call for the active transaction of that resource. -/
structure Follows (log : CycleLog) (polling : PollingConfig) (label : String) (id : ResourceId)
    (result : Except Error Unit) : Prop where
  startLooks : ∀ look ∈ log.started, ∃ outcome,
    ProbeLook (.activeTransaction id) Option.isSome look outcome
  endLooks : ∀ look ∈ log.ended, ∃ outcome,
    ProbeLook (.activeTransaction id) Option.isNone look outcome
  begun : log.started ≠ []
  inOrder : log.ended ≠ [] ↔ Opened log.started
  failure : EndsAtFailure log.exchanges result
  timeout : ∀ stage, RanOut (log.looks stage) →
    result = .error (.stageTimeout stage label (polling.policy stage).maxWaitMs)
  success : result = .ok () ↔ Opened log.ended
  refusal : ∀ cause, result = .error cause → log.Refuses polling label cause

variable {polling : PollingConfig} {label : String} {id : ResourceId}

/-- A success rests on a reply that showed a transaction and on a last reply that
showed none. -/
theorem Follows.evidence {log : CycleLog} (h : log.Follows polling label id (.ok ())) :
    (∃ time active, ⟨time, .activeTransaction id, .ok (some active)⟩ ∈ log.exchanges) ∧
      ∃ time, log.exchanges.getLast? = some ⟨time, .activeTransaction id, .ok none⟩ := by
  have endOpened : Opened log.ended := h.success.mp rfl
  have looked : log.ended ≠ [] := by
    obtain ⟨missed, last, heq, -, -⟩ := endOpened
    simp [heq]
  obtain ⟨time, reply, hreply, hstart⟩ :=
    getLast?_of_opened h.startLooks (h.inOrder.mp looked)
  obtain ⟨active, rfl⟩ := Option.isSome_iff_exists.mp hreply
  obtain ⟨time', reply', hreply', hend⟩ := getLast?_of_opened h.endLooks endOpened
  obtain rfl := Option.isNone_iff_eq_none.mp hreply'
  refine ⟨⟨time, active, ?_⟩, time', ?_⟩
  · exact List.mem_append_left _ (List.mem_of_getLast? hstart)
  · rw [exchanges, List.getLast?_append, hend]
    rfl

/-! ## How the wait ends -/

section Ends

variable {stage : Stage} {condition : Option Transaction → Bool} {missed : List Look} {last : Look}
  {outcome : Except Error (Option Unit)} {before after : Journal}

/-- What a gate of the cycle reports that did not open. -/
def Stopped (polling : PollingConfig) (label : String) (stage : Stage)
    (outcome : Except Error (Option Unit)) (cause : Error) : Prop :=
  outcome = .error cause ∨
    outcome = .ok none ∧ cause = .stageTimeout stage label (polling.policy stage).maxWaitMs

theorem Stopped.not_opened {cause : Error} (h : Stopped polling label stage outcome cause)
    (wait : Waited (ProbeLook (.activeTransaction id) condition) (polling.policy stage).maxWaitMs
      missed last outcome before after) : ¬Opened (missed ++ [last]) := by
  have kind := ProbeLook.kind (.activeTransaction id) condition
  intro opened
  obtain ⟨missed', last', heq, -, hlast⟩ := opened
  obtain ⟨-, rfl⟩ := List.append_inj' heq rfl |>.imp_right List.singleton_inj.mp
  rw [kind.holds wait.decided] at hlast
  rcases h with rfl | ⟨rfl, -⟩ <;> cases hlast

/-- A gate that did not open either failed with its last call or ran out. -/
theorem Stopped.cases {cause : Error} (h : Stopped polling label stage outcome cause)
    (wait : Waited (ProbeLook (.activeTransaction id) condition) (polling.policy stage).maxWaitMs
      missed last outcome before after) :
    (¬RanOut (missed ++ [last]) ∧ ∃ earlier x,
      (missed ++ [last]).flatMap (·.exchanges) = earlier ++ [x] ∧ Unfailing earlier ∧
        x.answer = .error cause) ∨
    (RanOut (missed ++ [last]) ∧ Unfailing ((missed ++ [last]).flatMap (·.exchanges)) ∧
      cause = .stageTimeout stage label (polling.policy stage).maxWaitMs) := by
  have kind := ProbeLook.kind (.activeTransaction id) condition
  rcases h with rfl | ⟨rfl, hcause⟩
  · refine .inl ⟨fun ranOut => ?_, wait.failed kind⟩
    have hlast := ranOut.2 last (by simp)
    rw [kind.holds wait.decided] at hlast
    cases hlast
  · exact .inr ⟨wait.ranOut kind, wait.unfailing kind, hcause⟩

/-- The wait ends at a gate that does not open: this says how, for the looks that
came before and those at the gate. -/
theorem Stopped.ends {cause : Error} (h : Stopped polling label stage outcome cause)
    (wait : Waited (ProbeLook (.activeTransaction id) condition) (polling.policy stage).maxWaitMs
      missed last outcome before after) (log : CycleLog) {earlier : List Exchange}
    (unfailing : Unfailing earlier) (looks : log.looks stage = missed ++ [last])
    (calls : log.exchanges = earlier ++ (missed ++ [last]).flatMap (·.exchanges)) :
    EndsAtFailure log.exchanges (.error cause : Except Error Unit) ∧
      (RanOut (log.looks stage) →
        cause = .stageTimeout stage label (polling.policy stage).maxWaitMs) ∧
      log.Refuses polling label cause := by
  rw [calls]
  rcases h.cases wait with ⟨notOut, earlier', x, heq, hearlier, hx⟩ | ⟨ranOut, hunfailing, rfl⟩
  · refine ⟨?_, fun hout => absurd (looks ▸ hout) notOut, .failed x cause ?_ hx⟩
    · rw [heq, ← List.append_assoc]
      exact (unfailing.append hearlier).endsAtFailure_append hx
    · rw [calls, heq, ← List.append_assoc, List.getLast?_concat]
  · refine ⟨(unfailing.append hunfailing).endsAtFailure _, fun _ => rfl, .ranOut stage ?_⟩
    rw [looks]
    exact ranOut

/-- The wait ends at the first gate. -/
theorem follows_of_started {cause : Error}
    (wait : Waited (ProbeLook (.activeTransaction id) Option.isSome)
      (polling.policy .transactionsStarted).maxWaitMs missed last outcome before after)
    (stopped : Stopped polling label .transactionsStarted outcome cause) :
    Follows ⟨missed ++ [last], []⟩ polling label id (.error cause) := by
  obtain ⟨failure, spent, refuses⟩ := stopped.ends wait ⟨missed ++ [last], []⟩
    unfailing_nil rfl (by simp [exchanges])
  have closed := stopped.not_opened wait
  have unopened : ¬Opened ([] : List Look) := by
    rintro ⟨missed, last, heq, -, -⟩
    simp at heq
  refine
    { startLooks := wait.forall_look fun _ outcome seen => ⟨outcome, seen⟩
      endLooks := nofun
      begun := by simp
      inOrder := ⟨fun h => absurd rfl h, fun h => absurd h closed⟩
      failure := failure
      timeout := ?_
      success := ⟨nofun, fun h => absurd h unopened⟩
      refusal := by rintro _ ⟨⟩; exact refuses }
  intro stage ranOut
  cases stage with
  | transactionsStarted => rw [spent ranOut]
  | _ => exact absurd rfl ranOut.1

/-- The looks at the two gates when the second was come to. -/
theorem follows_of_ended {missed' : List Look} {last' : Look} {between : Journal}
    {result : Except Error Unit}
    (wait : Waited (ProbeLook (.activeTransaction id) Option.isSome)
      (polling.policy .transactionsStarted).maxWaitMs missed last (.ok (some ())) before between)
    (wait' : Waited (ProbeLook (.activeTransaction id) Option.isNone)
      (polling.policy .transactionsEnded).maxWaitMs missed' last' outcome between after)
    (decided : outcome = .ok (some ()) ∧ result = .ok () ∨
      ∃ cause, Stopped polling label .transactionsEnded outcome cause ∧ result = .error cause) :
    Follows ⟨missed ++ [last], missed' ++ [last']⟩ polling label id result := by
  have kind := ProbeLook.kind (.activeTransaction id) Option.isSome
  have kind' := ProbeLook.kind (.activeTransaction id) Option.isNone
  have opened : Opened (missed ++ [last]) := wait.opened kind
  have startLooks : ∀ look ∈ missed ++ [last], ∃ outcome,
      ProbeLook (.activeTransaction id) Option.isSome look outcome :=
    wait.forall_look fun _ outcome seen => ⟨outcome, seen⟩
  have endLooks : ∀ look ∈ missed' ++ [last'], ∃ outcome,
      ProbeLook (.activeTransaction id) Option.isNone look outcome :=
    wait'.forall_look fun _ outcome seen => ⟨outcome, seen⟩
  have inOrder : missed' ++ [last'] ≠ [] ↔ Opened (missed ++ [last]) :=
    ⟨fun _ => opened, fun _ => by simp⟩
  rcases decided with ⟨rfl, rfl⟩ | ⟨cause, stopped, rfl⟩
  · have opened' : Opened (missed' ++ [last']) := wait'.opened kind'
    refine
      { startLooks := startLooks
        endLooks := endLooks
        begun := by simp
        inOrder := inOrder
        failure := ((wait.unfailing kind).append (wait'.unfailing kind')).endsAtFailure _
        timeout := ?_
        success := ⟨fun _ => opened', fun _ => rfl⟩
        refusal := nofun }
    intro stage ranOut
    cases stage with
    | transactionsStarted => exact absurd ranOut opened.not_ranOut
    | transactionsEnded => exact absurd ranOut opened'.not_ranOut
    | _ => exact absurd rfl ranOut.1
  · obtain ⟨failure, spent, refuses⟩ := stopped.ends wait'
      ⟨missed ++ [last], missed' ++ [last']⟩ (wait.unfailing kind) rfl rfl
    refine
      { startLooks := startLooks
        endLooks := endLooks
        begun := by simp
        inOrder := inOrder
        failure := failure
        timeout := ?_
        success := ⟨nofun, fun h => absurd h (stopped.not_opened wait')⟩
        refusal := by rintro _ ⟨⟩; exact refuses }
    intro stage ranOut
    cases stage with
    | transactionsStarted => exact absurd ranOut opened.not_ranOut
    | transactionsEnded => rw [spent ranOut]
    | _ => exact absurd rfl ranOut.1

end Ends

end CycleLog

/-- The wait for a cycle adds the calls of a log that follows the gates. -/
theorem assures_awaitCycle (polling : PollingConfig) (label : String) (id : ResourceId)
    (j : Journal) :
    (awaitCycle polling label id).Assures .anyVendor
      (fun _ j' => ∃ log : CycleLog, log.Follows polling label id (.ok ()) ∧
        j'.exchanges = j.exchanges ++ log.exchanges)
      (fun cause j' => ∃ log : CycleLog, log.Follows polling label id (.error cause) ∧
        j'.exchanges = j.exchanges ++ log.exchanges) j := by
  simp only [awaitCycle, Procedure.assures_bind]
  refine (assures_awaitStage (.activeTransaction id) Option.isSome (fun _ => True)
    (fun tracker => tracker.HasSeen id)
    (fun tracker j' _ => assures_transactionsStarted id tracker j') trivial j).mono ?_ ?_
  · intro tracker j₁ hstarted
    obtain ⟨seen, missed, last, wait⟩ := hstarted
    refine (assures_awaitStage (.activeTransaction id) Option.isNone
      (fun tracker => tracker.HasSeen id) (fun _ => True)
      (fun tracker j' => assures_transactionsEnded id tracker j') seen j₁).mono ?_ ?_
    · intro _ j₂ hended
      obtain ⟨-, missed', last', wait'⟩ := hended
      refine ⟨_, CycleLog.follows_of_ended wait wait' (.inl ⟨rfl, rfl⟩), ?_⟩
      rw [wait'.exchanges, wait.exchanges, List.append_assoc]
      rfl
    · intro cause j₂ hended
      obtain ⟨missed', last', outcome, wait', stopped⟩ := hended
      refine ⟨_, CycleLog.follows_of_ended wait wait' (.inr ⟨cause, stopped, rfl⟩), ?_⟩
      rw [wait'.exchanges, wait.exchanges, List.append_assoc]
      rfl
  · intro cause j₁ hstarted
    obtain ⟨missed, last, outcome, wait, stopped⟩ := hstarted
    refine ⟨_, CycleLog.follows_of_started wait stopped, ?_⟩
    rw [wait.exchanges]
    simp [CycleLog.exchanges]

end Provisioning
