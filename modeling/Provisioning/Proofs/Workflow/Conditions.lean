import Provisioning.Proofs.Workflow.Trials
import Provisioning.Workflow.Probe

/-!
# Waiting for a condition

When a test takes no time, the pauses alone decide at which moments it is made, on a
clock of any resolution.
`Instant` is a test of that kind, and `verdict` is what it says at a moment.  The last
pause of a wait is cut so that it ends just when the budget is spent, so there is
always a test at that very moment: `awaitCondition_misses_nothing` says that no
condition is missed that holds from then on or from earlier on, and how late it is seen.
-/

namespace Provisioning

variable {σ τ : Type}

/-! ## Tests -/

/-- A test as an attempt, which brings something when the test holds. -/
def asAttempt (test : τ → Procedure (τ × Bool)) (state : τ) : Procedure (τ × Option Unit) := do
  let (state, holds) ← test state
  return (state, if holds then some () else none)

theorem run_asAttempt {v : Vendor σ} {test : τ → Procedure (τ × Bool)} {state next : τ}
    {run after : Run σ} {holds : Bool}
    (tested : (test state).run.run v run = (.ok (next, holds), after)) :
    (asAttempt test state).run.run v run =
      (.ok (next, if holds then some () else none), after) := by
  rw [asAttempt, Procedure.run_bind, tested]
  rfl

/-- The wait for a condition ends as the wait for its test does. -/
theorem run_awaitConditionAt {ticks : Nat} {policy : StagePolicy}
    {test : τ → Procedure (τ × Bool)} {v : Vendor σ} {state next : τ} {start final : Run σ}
    {found : Option Unit}
    (waited : (pollUntilAt ticks policy state (asAttempt test)).run.run v start =
      (.ok (next, found), final)) :
    (awaitConditionAt ticks policy state test).run.run v start =
      (.ok (next, found.isSome), final) := by
  show ((pollUntilAt ticks policy state (asAttempt test)) >>= _).run.run v start = _
  rw [Procedure.run_bind, waited]
  rfl

/-- What a test says. -/
def verdict (v : Vendor σ) (test : τ → Procedure (τ × Bool)) (state : τ) (run : Run σ) :
    Except Error Bool :=
  ((test state).run.run v run).1.map Prod.snd

/-- A test that takes no time and does not fail.  `Inv` is what holds of its state and of
the run whenever it is made. -/
structure Instant (v : Vendor σ) (test : τ → Procedure (τ × Bool)) (Inv : τ → Run σ → Prop) :
    Prop where
  tests : ∀ {state run}, Inv state run → ∃ next holds after,
    (test state).run.run v run = (.ok (next, holds), after) ∧ after.now = run.now ∧ Inv next after
  rests : ∀ {state run ms}, Inv state run → Inv state { run with now := run.now + ms }

section Instant

variable {ticks : Nat} {policy : StagePolicy} {test : τ → Procedure (τ × Bool)} {v : Vendor σ}
  {Inv : τ → Run σ → Prop} {state : τ} {start : Run σ}

/-- The attempts of a wait are tests that take no time, and they bring what the tests
say. -/
theorem Instant.forall_trial (instant : Instant v test Inv) {deadline : Nat} {backoff : Backoff}
    {final : Run σ} {trials : List (Trial Unit)} {result : Except Error (τ × Option Unit)}
    (tried : Tried v (asAttempt test) ticks deadline backoff state start trials result final)
    (inv : Inv state start) :
    ∀ trial ∈ trials, ∃ state run holds, Inv state run ∧ verdict v test state run = .ok holds ∧
      trial.began = run.now ∧ trial.ended = run.now ∧
      trial.brought = .ok (if holds then some () else none) := by
  have kept : ∀ state run next after ms, Inv state run →
      (asAttempt test state).run.run v run = (.ok (next, none), after) →
      Inv next { after with now := after.now + ms } := by
    intro state run next after ms inv attempted
    obtain ⟨next', holds, after', tested, -, inv'⟩ := instant.tests inv
    rw [run_asAttempt tested] at attempted
    obtain ⟨heq, rfl⟩ := Prod.mk.inj attempted
    obtain ⟨rfl, -⟩ := Prod.mk.inj (Except.ok.inj heq)
    exact instant.rests inv'
  intro trial hmem
  obtain ⟨state, run, result, after, inv, attempted, rfl⟩ := tried.forall_trial kept inv trial hmem
  obtain ⟨next, holds, after', tested, hnow, -⟩ := instant.tests inv
  rw [run_asAttempt tested] at attempted
  obtain ⟨rfl, rfl⟩ := Prod.mk.inj attempted
  refine ⟨state, run, holds, inv, ?_, rfl, hnow, rfl⟩
  rw [verdict, tested]
  rfl

/-- What the last test of a wait says is the result of the wait. -/
theorem Instant.run_of_verdict {trials : List (Trial Unit)} {last : Trial Unit}
    {result : Except Error (τ × Option Unit)} {final : Run σ} {holds : Bool}
    (tried : Tried v (asAttempt test) ticks (start.now + ticks * policy.maxWaitMs)
      (.ofPolicy policy) state start trials result final)
    (decided : last.brought = result.map Prod.snd)
    (said : last.brought = .ok (if holds then some () else none)) :
    ∃ next, result = .ok (next, if holds then some () else none) ∧
      (awaitConditionAt ticks policy state test).run.run v start =
        (.ok (next, holds), final) := by
  rw [said] at decided
  rcases result with cause | ⟨next, found⟩
  · cases decided
  · obtain rfl := Except.ok.inj decided
    refine ⟨next, rfl, ?_⟩
    rw [run_awaitConditionAt tried.run_pollUntilAt]
    cases holds with
    | false => rfl
    | true => rfl

/-- A condition that holds from a moment within the budget on is seen, in time and no
later than the longest pause after that moment. -/
theorem Instant.run_of_holds (instant : Instant v test Inv) (fine : 1 ≤ ticks)
    (inv : Inv state start) {moment : Nat} (within : moment ≤ ticks * policy.maxWaitMs)
    (holds : ∀ state run, Inv state run → start.now + moment ≤ run.now →
      verdict v test state run = .ok true) :
    ∃ next final,
      (awaitConditionAt ticks policy state test).run.run v start = (.ok (next, true), final) ∧
      final.now ≤
        start.now + min (ticks * policy.maxWaitMs) (moment + ticks * policy.longestPauseMs) := by
  obtain ⟨trials, result, final, tried⟩ := exists_tried v (asAttempt test) fine
    (Backoff.positive_ofPolicy policy) state
    (Nat.le_add_right start.now (ticks * policy.maxWaitMs))
  obtain ⟨missed, last, rfl, keeps⟩ := tried.keepsTo fine
  obtain ⟨hdecided, hended⟩ := keeps.decided
  have tests := instant.forall_trial tried inv
  -- a test that says no is made before the moment
  have early : ∀ trial ∈ missed ++ [last], trial.brought = .ok none →
      trial.ended < start.now + moment := by
    intro trial hmem hnone
    obtain ⟨state', run, said, inv', hsaid, -, hnow, hbrought⟩ := tests trial hmem
    by_contra hlate
    rw [holds state' run inv' (by omega)] at hsaid
    cases hsaid
    rw [hnone] at hbrought
    cases hbrought
  obtain ⟨state', run, said, -, -, hbegan, hnow, hbrought⟩ := tests last (by simp)
  cases said with
  | false =>
    have hspent := (keeps.spent (hdecided.symm.trans hbrought)).1
    have hearly := early last (by simp) hbrought
    omega
  | true =>
    obtain ⟨next, -, hrun⟩ := Instant.run_of_verdict tried hdecided hbrought
    refine ⟨next, final, hrun, ?_⟩
    have hinTime := keeps.inTime last (by simp)
    rcases keeps.last_began with hfirst | ⟨previous, hprevious, hpaced⟩
    · omega
    · have hearly := early previous (by simp [hprevious]) (keeps.pending previous hprevious)
      omega

/-- A condition that does not hold while the budget lasts is tested for the last time just
when the budget is spent. -/
theorem Instant.run_of_not_holds (instant : Instant v test Inv) (fine : 1 ≤ ticks)
    (inv : Inv state start)
    (fails : ∀ state run, Inv state run → run.now ≤ start.now + ticks * policy.maxWaitMs →
      verdict v test state run = .ok false) :
    ∃ missed last next final,
      (awaitConditionAt ticks policy state test).run.run v start = (.ok (next, false), final) ∧
      final.now = start.now + ticks * policy.maxWaitMs ∧
      Tried v (asAttempt test) ticks (start.now + ticks * policy.maxWaitMs) (.ofPolicy policy) state
        start (missed ++ [last]) (.ok (next, none)) final ∧
      last.began = start.now + ticks * policy.maxWaitMs := by
  obtain ⟨trials, result, final, tried⟩ := exists_tried v (asAttempt test) fine
    (Backoff.positive_ofPolicy policy) state
    (Nat.le_add_right start.now (ticks * policy.maxWaitMs))
  obtain ⟨missed, last, rfl, keeps⟩ := tried.keepsTo fine
  obtain ⟨hdecided, hended⟩ := keeps.decided
  obtain ⟨state', run, said, inv', hsaid, hbegan, hnow, hbrought⟩ :=
    instant.forall_trial tried inv last (by simp)
  have hinTime := keeps.inTime last (by simp)
  rw [fails state' run inv' (by omega)] at hsaid
  cases hsaid
  obtain ⟨next, rfl, hrun⟩ := Instant.run_of_verdict tried hdecided hbrought
  have hspent := (keeps.spent rfl).1
  exact ⟨missed, last, next, final, hrun, by omega, tried, by omega⟩

end Instant

/-! ## Transactions that start at a moment -/

/-- A look for the start of a cycle says whether a transaction is active. -/
theorem run_transactionsStarted (v : Vendor σ) (id : ResourceId) (tracker : Tracker) (run : Run σ)
    {vendor : σ} {delay : Nat} {reply : Option Transaction}
    (answers : v.respond run.vendor run.now (.activeTransaction id) = (vendor, delay, .ok reply)) :
    ∃ after, (transactionsStarted id tracker).run.run v run =
      (.ok ((tracker.started id reply).1, reply.isSome), after) ∧ after.now = run.now + delay := by
  rw [transactionsStarted, Procedure.run_bind, run_request answers]
  cases reply with
  | none => exact ⟨_, rfl, rfl⟩
  | some active => exact ⟨_, rfl, rfl⟩

theorem instant_busyFrom (moment : Nat) (active : Transaction) (id : ResourceId) :
    Instant (.busyFrom 0 moment active) (transactionsStarted id) fun _ _ => True where
  tests := by
    intro tracker run _
    obtain ⟨after, hrun, hnow⟩ :=
      run_transactionsStarted (.busyFrom 0 moment active) id tracker run rfl
    exact ⟨_, _, after, hrun, hnow, trivial⟩
  rests := fun _ => trivial

theorem verdict_busyFrom (moment : Nat) (active : Transaction) (id : ResourceId)
    (tracker : Tracker) (run : Run Unit) :
    verdict (.busyFrom 0 moment active) (transactionsStarted id) tracker run =
      .ok (decide (moment ≤ run.now)) := by
  obtain ⟨after, hrun, -⟩ :=
    run_transactionsStarted (.busyFrom 0 moment active) id tracker run rfl
  rw [verdict, hrun]
  by_cases h : moment ≤ run.now
  · simp [Except.map, h]
  · simp [Except.map, h]

/-! ## The wait -/

/-- The wait for a condition misses nothing, if the pauses of its policy can be told in
words.  If the test says yes at every moment from one within the budget on, the wait says
yes, in time and no later than the longest pause after that moment.  If it says no at every
moment while the budget lasts, the wait says no just when the budget is spent, and the last
test was made then. -/
theorem awaitCondition_misses_nothing {ticks : Nat} (fine : 1 ≤ ticks) (policy : StagePolicy)
    (fits : policy.PausesFit) (test : τ → Procedure (τ × Bool)) (v : Vendor σ)
    {Inv : τ → Run σ → Prop} (instant : Instant v test Inv) (state : τ) (start : Run σ)
    (inv : Inv state start) :
    (∀ count, ∀ period ∈ (Backoff.ofPolicy policy).periods count,
      period + period / 2 < Text.wordBound) ∧
    (∀ moment ≤ ticks * policy.maxWaitMs,
      (∀ state run, Inv state run → start.now + moment ≤ run.now →
        verdict v test state run = .ok true) →
      ∃ next final,
        (awaitConditionAt ticks policy state test).run.run v start = (.ok (next, true), final) ∧
        final.now ≤ start.now +
          min (ticks * policy.maxWaitMs) (moment + ticks * policy.longestPauseMs)) ∧
    ((∀ state run, Inv state run → run.now ≤ start.now + ticks * policy.maxWaitMs →
        verdict v test state run = .ok false) →
      ∃ missed last next final,
        (awaitConditionAt ticks policy state test).run.run v start = (.ok (next, false), final) ∧
        final.now = start.now + ticks * policy.maxWaitMs ∧
        Tried v (asAttempt test) ticks (start.now + ticks * policy.maxWaitMs) (.ofPolicy policy)
          state start (missed ++ [last]) (.ok (next, none)) final ∧
        last.began = start.now + ticks * policy.maxWaitMs) :=
  ⟨fits.grows, fun _ within holds => instant.run_of_holds fine inv within holds,
    instant.run_of_not_holds fine inv⟩

/-- A budget of ten milliseconds has a look after four, nine and ten.  The last one sees a
transaction that started half a millisecond before, and one that starts half a millisecond
after it is not seen. -/
theorem awaitCondition_misses_nothing_busyFrom :
    StagePolicy.PausesFit ⟨10, 4, 5⟩ ∧
    (∃ next final, (awaitConditionAt 2 ⟨10, 4, 5⟩ {} (transactionsStarted ⟨1⟩)).run.run
        (.busyFrom 0 19 ⟨1, "PROVISION", 0, 5⟩) ⟨(), 0, []⟩ = (.ok (next, true), final) ∧
      final.now ≤ 20) ∧
    ∃ next final, (awaitConditionAt 2 ⟨10, 4, 5⟩ {} (transactionsStarted ⟨1⟩)).run.run
        (.busyFrom 0 21 ⟨1, "PROVISION", 0, 5⟩) ⟨(), 0, []⟩ = (.ok (next, false), final) ∧
      final.now = 20 := by
  have fits : StagePolicy.PausesFit ⟨10, 4, 5⟩ := by decide
  refine ⟨fits, ?_, ?_⟩
  · have sees := (awaitCondition_misses_nothing (by decide : 1 ≤ 2) ⟨10, 4, 5⟩ fits _ _
      (instant_busyFrom 19 ⟨1, "PROVISION", 0, 5⟩ ⟨1⟩) {} ⟨(), 0, []⟩ trivial).2.1
    obtain ⟨next, final, hrun, hnow⟩ := sees 19 (by decide) fun tracker run _ hlate => by
      rw [verdict_busyFrom, decide_eq_true (by simpa using hlate)]
    exact ⟨next, final, hrun, by simp only [StagePolicy.longestPauseMs] at hnow; omega⟩
  · have sees := (awaitCondition_misses_nothing (by decide : 1 ≤ 2) ⟨10, 4, 5⟩ fits _ _
      (instant_busyFrom 21 ⟨1, "PROVISION", 0, 5⟩ ⟨1⟩) {} ⟨(), 0, []⟩ trivial).2.2
    obtain ⟨-, -, next, final, hrun, hnow, -⟩ := sees fun tracker run _ hearly => by
      have hbefore : run.now ≤ 20 := by simpa using hearly
      rw [verdict_busyFrom, decide_eq_false (by omega)]
    exact ⟨next, final, hrun, hnow⟩

end Provisioning
