import Provisioning.Proofs.Workflow.Polling

/-!
# The calls of a run

A run against a vendor is seen from outside as a list of exchanges: calls with
their answers and the times at which they were made.  `Surroundings.anyVendor`
are the surroundings of a workflow of which nothing is promised: every call is
allowed, every answer may come and it may take any time.  Whatever is assured in
them holds of runs against every vendor (`Workflow.Assures.run_anyVendor`).

A wait is seen as a list of looks.  `Waited` says what that list is like: every
look but the last missed, the last one decided, and a wait that ran out has
spent its budget.  `assures_pollUntil_wait` is the rule for waits in this form.
-/

namespace Provisioning

variable {α σ : Type}

/-! ## Exchanges -/

/-- A call with its answer and the time at which it was made. -/
structure Exchange where
  time : Nat
  call : Call
  answer : call.Answer

/-- The exchange that an event is, if it is one. -/
def Event.exchange? : Event → Option Exchange
  | .asked time call answer => some ⟨time, call, answer⟩
  | .noticed _ _ => none

/-- The exchanges of a run in order. -/
def Run.exchanges (run : Run σ) : List Exchange :=
  run.history.filterMap Event.exchange?

theorem Run.exchanges_asked (vendor : σ) (now time : Nat) (call : Call) (answer : call.Answer)
    (events : List Event) :
    Run.exchanges ⟨vendor, now, .asked time call answer :: events⟩ =
      Run.exchanges ⟨vendor, now, events⟩ ++ [⟨time, call, answer⟩] := by
  simp [Run.exchanges, Run.history, Event.exchange?]

theorem Run.exchanges_noticed (vendor : σ) (now time : Nat) (notice : Notice)
    (events : List Event) :
    Run.exchanges ⟨vendor, now, .noticed time notice :: events⟩ =
      Run.exchanges ⟨vendor, now, events⟩ := by
  simp [Run.exchanges, Run.history, Event.exchange?]

/-- What holds of every answer of a vendor holds of the exchanges that a workflow adds to a
run against it. -/
theorem Workflow.exists_exchanges_run (v : Vendor σ) {P : Exchange → Prop}
    (answers : ∀ state time call, P ⟨time, call, (v.respond state time call).2.2⟩)
    (w : Workflow α) (run : Run σ) :
    ∃ made, (w.run v run).2.exchanges = run.exchanges ++ made ∧ ∀ x ∈ made, P x := by
  induction w generalizing run with
  | done result => exact ⟨[], (List.append_nil _).symm, fun _ h => absurd h List.not_mem_nil⟩
  | ask call next ih =>
    let reply := v.respond run.vendor run.now call
    obtain ⟨made, hmade, hall⟩ := ih reply.2.2
      ⟨reply.1, run.now + reply.2.1, .asked run.now call reply.2.2 :: run.events⟩
    refine ⟨⟨run.now, call, reply.2.2⟩ :: made, ?_,
      List.forall_mem_cons.mpr ⟨answers run.vendor run.now call, hall⟩⟩
    rw [Run.exchanges_asked, List.append_assoc] at hmade
    exact hmade
  | pause ms next ih => exact ih { run with now := run.now + ms }
  | clock next ih => exact ih run.now run
  | report notice next ih =>
    obtain ⟨made, hmade, hall⟩ := ih { run with events := .noticed run.now notice :: run.events }
    rw [Run.exchanges_noticed] at hmade
    exact ⟨made, hmade, hall⟩

/-! ## Any vendor -/

/-- What is seen of a run from outside: the time and the exchanges. -/
structure Journal where
  now : Nat
  exchanges : List Exchange

/-- The journal of a run. -/
def Run.journal (run : Run σ) : Journal :=
  ⟨run.now, run.exchanges⟩

/-- The surroundings of which nothing is promised. -/
def Surroundings.anyVendor : Surroundings Journal where
  Allows _ _ := True
  Answers j call answer j' :=
    ∃ delay, j' = ⟨j.now + delay, j.exchanges ++ [⟨j.now, call, answer⟩]⟩
  Passes j ms j' := j' = { j with now := j.now + ms }
  Shows j time := time = j.now

theorem Surroundings.timed_anyVendor : anyVendor.Timed Journal.now where
  shows h := h
  passes := by
    rintro j ms _ rfl
    rfl
  answers := by
    intro j call answer _ answered
    obtain ⟨delay, rfl⟩ := answered
    exact Nat.le_add_right _ _

theorem Surroundings.realized_anyVendor (v : Vendor σ) :
    anyVendor.Realized v fun run j => run.journal = j where
  answers := by
    rintro run _ call rfl -
    refine ⟨_, ⟨(v.respond run.vendor run.now call).2.1, rfl⟩, ?_⟩
    simp only [Run.journal, Run.exchanges_asked]
    rfl
  passes := by
    rintro run _ ms rfl
    exact ⟨_, rfl, rfl⟩
  shows := by
    rintro run _ rfl
    rfl
  reports := by
    rintro run _ notice rfl
    simp only [Run.journal, Run.exchanges_noticed]

/-- What is assured whatever the vendor does holds of a run against any vendor. -/
theorem Workflow.Assures.run_anyVendor {w : Workflow α} {post : α → Journal → Prop} (v : Vendor σ)
    (run : Run σ) (h : w.Assures .anyVendor post run.journal) :
    post (w.run v run).1 (w.run v run).2.journal := by
  obtain ⟨_, hpost, rfl⟩ := h.run (Surroundings.realized_anyVendor v) rfl
  exact hpost

/-! ## Waits -/

/-- One look at a condition: the calls that it took, and whether the condition
held or why that could not be told. -/
structure Look where
  exchanges : List Exchange
  holds : Except Error Bool

/-- The times at which the calls of a look were made. -/
def Look.times (look : Look) : List Nat :=
  look.exchanges.map (·.time)

/-- A look adds its exchanges to the journal, the first of them at once. -/
def Look.Made (look : Look) (before after : Journal) : Prop :=
  after.exchanges = before.exchanges ++ look.exchanges ∧ look.times.head? = some before.now

variable {Seen : Look → Except Error (Option α) → Prop}

/-- A wait in progress, seen from outside.  `Seen` relates a look to what its
attempt brought; all looks so far brought nothing. -/
structure Missed (Seen : Look → Except Error (Option α) → Prop) (looks : List Look)
    (before after : Journal) : Prop where
  exchanges : after.exchanges = before.exchanges ++ looks.flatMap (·.exchanges)
  nothing : ∀ look ∈ looks, Seen look (.ok none)
  begun : ∀ look ∈ looks.head?, look.times.head? = some before.now
  idle : looks = [] → after.now = before.now

/-- A wait that is over.  The looks before the last one brought nothing, and a
wait that ends with nothing took at least its budget. -/
structure Waited (Seen : Look → Except Error (Option α) → Prop) (maxWaitMs : Nat)
    (missed : List Look) (last : Look) (outcome : Except Error (Option α))
    (before after : Journal) : Prop where
  exchanges : after.exchanges = before.exchanges ++ (missed ++ [last]).flatMap (·.exchanges)
  nothing : ∀ look ∈ missed, Seen look (.ok none)
  decided : Seen last outcome
  begun : ∀ look ∈ (missed ++ [last]).head?, look.times.head? = some before.now
  spent : outcome = .ok none → before.now + maxWaitMs ≤ after.now

theorem Missed.nil (journal : Journal) : Missed Seen [] journal journal where
  exchanges := by simp
  nothing := nofun
  begun := nofun
  idle _ := rfl

theorem Missed.begun_append {looks : List Look} {look : Look} {before between after : Journal}
    (h : Missed Seen looks before between) (made : look.Made between after) :
    ∀ first ∈ (looks ++ [look]).head?, first.times.head? = some before.now := by
  cases looks with
  | nil =>
    simp only [List.nil_append, List.head?_cons, Option.mem_some_iff]
    rintro _ rfl
    rw [made.2, h.idle rfl]
  | cons first rest => exact h.begun

/-- Another look decides. -/
theorem Missed.wait {maxWaitMs : Nat} {looks : List Look} {look : Look}
    {outcome : Except Error (Option α)} {before between after : Journal}
    (h : Missed Seen looks before between) (made : look.Made between after)
    (decided : Seen look outcome)
    (spent : outcome = .ok none → before.now + maxWaitMs ≤ after.now) :
    Waited Seen maxWaitMs looks look outcome before after where
  exchanges := by rw [made.1, h.exchanges]; simp
  nothing := h.nothing
  decided := decided
  begun := h.begun_append made
  spent := spent

/-- Another look brings nothing either, and some time passes. -/
theorem Missed.again {looks : List Look} {look : Look} {before between after : Journal}
    (h : Missed Seen looks before between) (made : look.Made between after)
    (nothing : Seen look (.ok none)) (ms : Nat) :
    Missed Seen (looks ++ [look]) before { after with now := after.now + ms } where
  exchanges := by simp only [made.1, h.exchanges]; simp
  nothing := by
    intro l hl
    rcases List.mem_append.mp hl with hl | hl
    · exact h.nothing l hl
    · rw [List.mem_singleton.mp hl]
      exact nothing
  begun := h.begun_append made
  idle := by simp

/-- The rule for a wait whose attempts are looks.  `Ready` is what an attempt
needs of its state, and `Opened` is what the state satisfies when a value is
found. -/
theorem assures_pollUntil_wait (policy : StagePolicy) (attempt : σ → Procedure (σ × Option α))
    (Seen : Look → Except Error (Option α) → Prop) (Ready Opened : σ → Prop)
    (attempts : ∀ state j, Ready state →
      (attempt state).Assures .anyVendor
        (fun result j' => ∃ look, look.Made j j' ∧ Seen look (.ok result.2) ∧
          (result.2 = none → Ready result.1) ∧ (result.2 ≠ none → Opened result.1))
        (fun cause j' => ∃ look, look.Made j j' ∧ Seen look (.error cause)) j)
    (state : σ) (ready : Ready state) (j : Journal) :
    (pollUntil policy state attempt).Assures .anyVendor
      (fun result j' => (result.2 ≠ none → Opened result.1) ∧
        ∃ missed last, Waited Seen policy.maxWaitMs missed last (.ok result.2) j j')
      (fun cause j' => ∃ missed last, Waited Seen policy.maxWaitMs missed last (.error cause) j j')
      j := by
  refine assures_pollUntil (fun _ state j' => Ready state ∧ ∃ looks, Missed Seen looks j j')
    Surroundings.timed_anyVendor ?_ ⟨ready, [], .nil j⟩
  rintro backoff state' j' ⟨ready', looks, missed⟩ - -
  refine (attempts state' j' ready').mono ?_ ?_
  · intro result j'' h
    obtain ⟨state'', found⟩ := result
    obtain ⟨look, made, seen, hready, hopened⟩ := h
    refine ⟨?_, ?_⟩
    · rintro a rfl
      exact ⟨hopened, looks, look, missed.wait made seen nofun⟩
    · rintro rfl
      refine ⟨fun spent => ⟨nofun, looks, look, missed.wait made seen fun _ => spent⟩, fun _ => ?_⟩
      rintro _ rfl
      exact ⟨hready rfl, looks ++ [look], missed.again made seen _⟩
  · intro cause j'' h
    obtain ⟨look, made, seen⟩ := h
    exact ⟨looks, look, missed.wait made seen nofun⟩

end Provisioning
