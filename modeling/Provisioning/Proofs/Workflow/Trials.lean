import Mathlib.Data.List.Chain
import Provisioning.Proofs.Workflow.Polling
import Provisioning.Workflow.Run

/-!
# The attempts of a wait

A wait makes attempts with pauses in between.  `Tried` is a declarative account of
such a wait against a given vendor, with one constructor for each way in which a
round can go and a `Trial` for each attempt.  Nothing in it bounds the rounds:
`exists_tried` finds an account of every wait from the time that is left alone, and
`Tried.run_pollFrom` replays it with any number of rounds that is large enough.

Times are ticks of a clock, any number of them to a millisecond, so attempts may take
any time.  A pause is a whole number of milliseconds unless it is cut to what is left.

The other lemmas about `Tried` are inductions on the account.  They say when attempts
begin, how long the pauses are and which attempt decides.  `KeepsTo` collects what a
policy asks of the attempts, and `pollUntil_keepsTo` says that every wait obeys.
-/

namespace Provisioning

variable {α σ τ : Type}

/-! ## Rounds -/

/-- A round of a wait: an attempt, and then a pause and the other rounds unless the
attempt decided. -/
theorem run_pollFrom (v : Vendor σ) (ticks budget started : Nat)
    (attempt : τ → Procedure (τ × Option α)) (rounds : Nat) (backoff : Backoff) (state : τ)
    (run : Run σ) :
    (pollFrom ticks budget started attempt (rounds + 1) backoff state).run.run v run =
      match (attempt state).run.run v run with
      | (.error cause, after) => (.error cause, after)
      | (.ok (next, some value), after) => (.ok (next, some value), after)
      | (.ok (next, none), after) =>
        if budget ≤ after.now - started then (.ok (next, none), after)
        else (pollFrom ticks budget started attempt rounds backoff.grown next).run.run v
          { after with
            now := after.now + min (ticks * backoff.period) (budget - (after.now - started)) } := by
  rw [pollFrom, Procedure.run_bind]
  rcases (attempt state).run.run v run with ⟨cause | ⟨next, _ | value⟩, after⟩
  · rfl
  · show Workflow.run v (if budget ≤ after.now - started then _ else _) after =
      if budget ≤ after.now - started then _ else _
    split
    · rfl
    · rfl
  · rfl

/-! ## Accounts -/

/-- An attempt: when it began, when it ended and what it brought. -/
structure Trial (α : Type) where
  began : Nat
  ended : Nat
  brought : Except Error (Option α)

/-- A declarative account of a wait until `deadline`, from some backoff, state and run
on: its attempts, its result and where it leaves the run. -/
inductive Tried (v : Vendor σ) (attempt : τ → Procedure (τ × Option α)) (ticks deadline : Nat) :
    Backoff → τ → Run σ → List (Trial α) → Except Error (τ × Option α) → Run σ → Prop where
  | failed {backoff state run cause after}
      (attempted : (attempt state).run.run v run = (.error cause, after)) :
      Tried v attempt ticks deadline backoff state run
        [⟨run.now, after.now, .error cause⟩] (.error cause) after
  | found {backoff state run next value after}
      (attempted : (attempt state).run.run v run = (.ok (next, some value), after)) :
      Tried v attempt ticks deadline backoff state run
        [⟨run.now, after.now, .ok (some value)⟩] (.ok (next, some value)) after
  | spent {backoff state run next after}
      (attempted : (attempt state).run.run v run = (.ok (next, none), after))
      (late : deadline ≤ after.now) :
      Tried v attempt ticks deadline backoff state run
        [⟨run.now, after.now, .ok none⟩] (.ok (next, none)) after
  | again {backoff state run next after trials result final}
      (attempted : (attempt state).run.run v run = (.ok (next, none), after))
      (early : after.now < deadline)
      (others : Tried v attempt ticks deadline backoff.grown next
        { after with now := after.now + min (ticks * backoff.period) (deadline - after.now) }
        trials result final) :
      Tried v attempt ticks deadline backoff state run
        (⟨run.now, after.now, .ok none⟩ :: trials) result final

section Accounts

variable {v : Vendor σ} {attempt : τ → Procedure (τ × Option α)} {ticks deadline : Nat}

theorem now_le_of_attempted {state : τ} {run after : Run σ} {result : Except Error (τ × Option α)}
    (attempted : (attempt state).run.run v run = (result, after)) : run.now ≤ after.now := by
  have hle := Workflow.now_le_run v (attempt state).run run
  rw [attempted] at hle
  exact hle

/-- A pause takes at least a millisecond when it is not cut. -/
theorem Backoff.Positive.le_mul {backoff : Backoff} (h : backoff.Positive) (ticks : Nat) :
    ticks ≤ ticks * backoff.period :=
  Nat.le_mul_of_pos_right ticks h.1

/-- Every wait has an account.  The time that is left shrinks with each pause. -/
theorem exists_tried (v : Vendor σ) (attempt : τ → Procedure (τ × Option α)) (fine : 1 ≤ ticks)
    {backoff : Backoff} (positive : backoff.Positive) (state : τ) {run : Run σ}
    (within : run.now ≤ deadline) :
    ∃ trials result final, Tried v attempt ticks deadline backoff state run trials result final := by
  induction hleft : deadline - run.now using Nat.strongRecOn
    generalizing backoff state run with
  | ind left ih =>
    rcases hrun : (attempt state).run.run v run with ⟨cause | ⟨next, _ | value⟩, after⟩
    · exact ⟨_, _, _, .failed hrun⟩
    · have hlater := now_le_of_attempted hrun
      by_cases hspent : deadline ≤ after.now
      · exact ⟨_, _, _, .spent hrun hspent⟩
      · have hperiod := positive.le_mul ticks
        let rested : Run σ :=
          { after with now := after.now + min (ticks * backoff.period) (deadline - after.now) }
        have hrested : rested.now =
          after.now + min (ticks * backoff.period) (deadline - after.now) := rfl
        have hwithin : rested.now ≤ deadline := by omega
        obtain ⟨trials, result, final, others⟩ :=
          ih (deadline - rested.now) (by omega) positive.grown next hwithin rfl
        exact ⟨_, _, _, .again hrun (Nat.lt_of_not_le hspent) others⟩
    · exact ⟨_, _, _, .found hrun⟩

variable {backoff : Backoff} {state : τ} {run final : Run σ} {trials : List (Trial α)}
  {result : Except Error (τ × Option α)}

/-- The first attempt is made at once. -/
theorem Tried.head?_began (h : Tried v attempt ticks deadline backoff state run trials result final) :
    trials.head?.map Trial.began = some run.now := by
  cases h with
  | failed | found | spent | again => rfl

/-- Each attempt but the last leaves room for one millisecond less. -/
theorem Tried.length_le (h : Tried v attempt ticks deadline backoff state run trials result final)
    (positive : backoff.Positive) {ms : Nat} (room : deadline ≤ run.now + ticks * ms) :
    trials.length ≤ ms + 1 := by
  induction h generalizing ms with
  | failed | found | spent =>
    rw [List.length_singleton]
    exact Nat.le_add_left 1 ms
  | @again backoff state run next after trials result final attempted early others ih =>
    have hlater := now_le_of_attempted attempted
    have hperiod := positive.le_mul ticks
    cases ms with
    | zero => omega
    | succ ms =>
      rw [Nat.mul_succ] at room
      have hroom : deadline ≤
          after.now + min (ticks * backoff.period) (deadline - after.now) + ticks * ms := by
        omega
      have hrest := ih positive.grown hroom
      rw [List.length_cons]
      omega

/-- No attempt begins after the deadline. -/
theorem Tried.began_le (h : Tried v attempt ticks deadline backoff state run trials result final)
    (within : run.now ≤ deadline) : ∀ trial ∈ trials, trial.began ≤ deadline := by
  induction h with
  | failed | found | spent => simpa using within
  | @again backoff state run next after trials result final attempted early others ih =>
    intro trial hmem
    rcases List.mem_cons.mp hmem with rfl | hmem
    · exact within
    · exact ih (by show after.now + _ ≤ deadline; omega) trial hmem

/-- There is a pause between two attempts.  It takes at least a millisecond or lasts just
until the deadline, and none is longer than `longest`. -/
theorem Tried.isChain (h : Tried v attempt ticks deadline backoff state run trials result final)
    {longest : Nat} (fine : 1 ≤ ticks) (positive : backoff.Positive)
    (period : backoff.period ≤ longest) (cap : backoff.cap ≤ longest) :
    trials.IsChain fun earlier later =>
      earlier.ended < later.began ∧
        (earlier.ended + ticks ≤ later.began ∨ later.began = deadline) ∧
        later.began ≤ earlier.ended + ticks * longest := by
  induction h with
  | failed | found | spent => exact .singleton _
  | @again backoff state run next after trials result final attempted early others ih =>
    refine List.isChain_cons.mpr ⟨?_, ih positive.grown ?_ cap⟩
    · intro later hlater
      have hbegan := others.head?_began
      rw [Option.mem_def.mp hlater] at hbegan
      have hpause : later.began =
        after.now + min (ticks * backoff.period) (deadline - after.now) := Option.some.inj hbegan
      have hshort := positive.le_mul ticks
      have hlong := Nat.mul_le_mul_left ticks period
      show after.now < later.began ∧ (after.now + ticks ≤ later.began ∨ later.began = deadline) ∧
        later.began ≤ after.now + ticks * longest
      omega
    · exact Nat.le_trans (Nat.min_le_right _ _) cap

/-- The last attempt decides, and the others ended before the deadline with nothing. -/
theorem Tried.eq_append (h : Tried v attempt ticks deadline backoff state run trials result final) :
    ∃ missed last, trials = missed ++ [last] ∧
      (∀ trial ∈ missed, trial.brought = .ok none ∧ trial.ended < deadline) ∧
      last.brought = result.map Prod.snd ∧ last.ended = final.now ∧
      (last.brought = .ok none → deadline ≤ last.ended) := by
  induction h with
  | failed | found => exact ⟨[], _, rfl, by simp, rfl, rfl, nofun⟩
  | spent attempted late => exact ⟨[], _, rfl, by simp, rfl, rfl, fun _ => late⟩
  | @again backoff state run next after trials result final attempted early others ih =>
    obtain ⟨missed, last, rfl, hmissed, hlast⟩ := ih
    refine ⟨⟨run.now, after.now, .ok none⟩ :: missed, last, rfl, ?_, hlast⟩
    intro trial hmem
    rcases List.mem_cons.mp hmem with rfl | hmem
    · exact ⟨rfl, early⟩
    · exact hmissed trial hmem

/-- An attempt is a run of the workflow, and what an attempt that brought nothing and a
pause keep holds before every attempt. -/
theorem Tried.forall_trial {Inv : τ → Run σ → Prop}
    (h : Tried v attempt ticks deadline backoff state run trials result final)
    (kept : ∀ state run next after ms, Inv state run →
      (attempt state).run.run v run = (.ok (next, none), after) →
      Inv next { after with now := after.now + ms })
    (inv : Inv state run) :
    ∀ trial ∈ trials, ∃ state run result after, Inv state run ∧
      (attempt state).run.run v run = (result, after) ∧
      trial = ⟨run.now, after.now, result.map Prod.snd⟩ := by
  induction h with
  | failed attempted | found attempted | spent attempted =>
    intro trial hmem
    obtain rfl := List.mem_singleton.mp hmem
    exact ⟨_, _, _, _, inv, attempted, rfl⟩
  | again attempted early others ih =>
    intro trial hmem
    rcases List.mem_cons.mp hmem with rfl | hmem
    · exact ⟨_, _, _, _, inv, attempted, rfl⟩
    · exact ih (kept _ _ _ _ _ inv attempted) trial hmem

/-- The wait goes as its account says when it has a round for each attempt. -/
theorem Tried.run_pollFrom {budget started rounds : Nat}
    (h : Tried v attempt ticks (started + budget) backoff state run trials result final)
    (begun : started ≤ run.now) (enough : trials.length ≤ rounds) :
    (pollFrom ticks budget started attempt rounds backoff state).run.run v run =
      (result, final) := by
  induction h generalizing rounds with
  | failed attempted | found attempted =>
    obtain ⟨rounds, rfl⟩ := Nat.exists_eq_add_of_le' enough
    rw [List.length_singleton, Provisioning.run_pollFrom, attempted]
  | @spent backoff state run next after attempted late =>
    obtain ⟨rounds, rfl⟩ := Nat.exists_eq_add_of_le' enough
    rw [List.length_singleton, Provisioning.run_pollFrom, attempted]
    exact if_pos (by omega)
  | @again backoff state run next after trials result final attempted early others ih =>
    have hlater := now_le_of_attempted attempted
    obtain ⟨rounds, rfl⟩ := Nat.exists_eq_add_of_le' enough
    rw [List.length_cons, ← Nat.add_assoc, Provisioning.run_pollFrom, attempted]
    have hpause : budget - (after.now - started) = started + budget - after.now := by omega
    show (if budget ≤ after.now - started then _ else _) = _
    rw [if_neg (by omega), hpause]
    exact ih (by show started ≤ after.now + _; omega) (Nat.le_add_left _ _)

end Accounts

/-! ## Policies -/

/-- What a policy asks of a wait from `start` on, of which `last` is the last attempt
and `missed` are the others, and which ended with `outcome` at `ended`.  The clock
makes so many ticks in a millisecond. -/
structure KeepsTo (ticks : Nat) (policy : StagePolicy) (start : Nat) (missed : List (Trial α))
    (last : Trial α) (outcome : Except Error (Option α)) (ended : Nat) : Prop where
  /-- The first attempt is made at once. -/
  atOnce : (missed ++ [last]).head?.map Trial.began = some start
  /-- No attempt begins after the budget is spent. -/
  inTime : ∀ trial ∈ missed ++ [last], trial.began ≤ start + ticks * policy.maxWaitMs
  /-- There is a pause from one attempt to the next.  It takes at least a millisecond,
  or if less is left, all that is left. -/
  paced : (missed ++ [last]).IsChain fun earlier later =>
    earlier.ended < later.began ∧
      (earlier.ended + ticks ≤ later.began ∨ later.began = start + ticks * policy.maxWaitMs) ∧
      later.began ≤ earlier.ended + ticks * policy.longestPauseMs
  /-- There is at most one attempt for each millisecond, and one. -/
  few : (missed ++ [last]).length ≤ policy.maxWaitMs + 1
  /-- All attempts but the last one brought nothing. -/
  pending : ∀ trial ∈ missed, trial.brought = .ok none
  /-- The wait is over with the last attempt and ends with what it brought. -/
  decided : last.brought = outcome ∧ last.ended = ended
  /-- The wait ends with nothing just when an attempt brought nothing and ended too
  late for another one. -/
  timeout : outcome = .ok none ↔
    ∃ trial ∈ missed ++ [last], trial.brought = .ok none ∧
      start + ticks * policy.maxWaitMs ≤ trial.ended
  /-- A wait that ends with nothing takes all of its budget, and beyond it no longer
  than its last attempt. -/
  spent : outcome = .ok none →
    start + ticks * policy.maxWaitMs ≤ ended ∧
      ended ≤ start + ticks * policy.maxWaitMs + (last.ended - last.began)

section Policies

variable {ticks : Nat} {policy : StagePolicy} {attempt : τ → Procedure (τ × Option α)} {state : τ}
  {v : Vendor σ} {start final : Run σ} {trials : List (Trial α)}
  {result : Except Error (τ × Option α)}

/-- A wait until the deadline of a policy keeps to the policy. -/
theorem Tried.keepsTo (fine : 1 ≤ ticks)
    (h : Tried v attempt ticks (start.now + ticks * policy.maxWaitMs) (.ofPolicy policy) state start
      trials result final) :
    ∃ missed last, trials = missed ++ [last] ∧
      KeepsTo ticks policy start.now missed last (result.map Prod.snd) final.now := by
  have positive := Backoff.positive_ofPolicy policy
  have inTime := h.began_le (Nat.le_add_right _ _)
  have few := h.length_le positive (Nat.le_refl _)
  have paced := h.isChain fine positive policy.period_ofPolicy_le (Nat.le_refl _)
  obtain ⟨missed, last, rfl, hmissed, hbrought, hended, hlate⟩ := h.eq_append
  refine ⟨missed, last, rfl, h.head?_began, inTime, paced, few,
    fun trial hmem => (hmissed trial hmem).1, ⟨hbrought, hended⟩, ⟨?_, ?_⟩, ?_⟩
  · intro hnone
    rw [← hbrought] at hnone
    exact ⟨last, by simp, hnone, hlate hnone⟩
  · rintro ⟨trial, hmem, hnone, htrial⟩
    rcases List.mem_append.mp hmem with hmem | hmem
    · have hearly := (hmissed trial hmem).2
      omega
    · rw [← hbrought, ← List.mem_singleton.mp hmem]
      exact hnone
  · intro hnone
    have hspent := hlate (hbrought.trans hnone)
    have hbegan := inTime last (by simp)
    omega

/-- The last attempt is the first one, or it begins within the longest pause of one that
brought nothing. -/
theorem KeepsTo.last_began {begun ended : Nat} {missed : List (Trial α)} {last : Trial α}
    {outcome : Except Error (Option α)} (h : KeepsTo ticks policy begun missed last outcome ended) :
    last.began = begun ∨ ∃ previous ∈ missed,
      last.began ≤ previous.ended + ticks * policy.longestPauseMs := by
  rcases List.eq_nil_or_concat missed with rfl | ⟨earlier, previous, rfl⟩
  · exact .inl (Option.some.inj h.atOnce)
  · have hpaced := (List.isChain_append.mp h.paced).2.2
    exact .inr ⟨previous, by simp, (hpaced previous (by simp) last (by simp)).2.2⟩

/-- The account of a wait is what its run does. -/
theorem Tried.run_pollUntilAt
    (h : Tried v attempt ticks (start.now + ticks * policy.maxWaitMs) (.ofPolicy policy) state start
      trials result final) :
    (pollUntilAt ticks policy state attempt).run.run v start = (result, final) := by
  have few := h.length_le (Backoff.positive_ofPolicy policy) (Nat.le_refl _)
  exact h.run_pollFrom (Nat.le_refl _) few

/-- On a clock of milliseconds. -/
theorem Tried.run_pollUntil
    (h : Tried v attempt 1 (start.now + policy.maxWaitMs) (.ofPolicy policy) state start trials
      result final) :
    (pollUntil policy state attempt).run.run v start = (result, final) := by
  rw [← Nat.one_mul policy.maxWaitMs] at h
  exact h.run_pollUntilAt

end Policies

/-- Every wait, whatever its attempts bring and however long they take, keeps to its
policy if the pauses of that can be told in words, and no bound on its rounds beyond the
budget has a part in that. -/
theorem pollUntil_keepsTo {ticks : Nat} (fine : 1 ≤ ticks) (policy : StagePolicy)
    (fits : policy.PausesFit) (attempt : τ → Procedure (τ × Option α)) (state : τ) (v : Vendor σ)
    (start : Run σ) :
    (∀ count, ∀ period ∈ (Backoff.ofPolicy policy).periods count,
      period + period / 2 < Text.wordBound) ∧
    ∃ missed last result final,
      (pollUntilAt ticks policy state attempt).run.run v start = (result, final) ∧
      Tried v attempt ticks (start.now + ticks * policy.maxWaitMs) (.ofPolicy policy) state start
        (missed ++ [last]) result final ∧
      KeepsTo ticks policy start.now missed last (result.map Prod.snd) final.now ∧
      ∀ rounds, policy.maxWaitMs < rounds →
        (pollFrom ticks (ticks * policy.maxWaitMs) start.now attempt rounds (.ofPolicy policy)
          state).run.run v start = (result, final) := by
  obtain ⟨trials, result, final, tried⟩ := exists_tried v attempt fine
    (Backoff.positive_ofPolicy policy) state
    (Nat.le_add_right start.now (ticks * policy.maxWaitMs))
  obtain ⟨missed, last, rfl, keeps⟩ := tried.keepsTo fine
  refine ⟨fits.grows, missed, last, result, final, tried.run_pollUntilAt, tried, keeps, ?_⟩
  intro rounds enough
  exact tried.run_pollFrom (Nat.le_refl _) (Nat.le_trans keeps.few enough)

/-! ## Slow answers -/

/-- A look at the feed of a resource, as an attempt. -/
def lookAt (id : ResourceId) (state : Unit) : Procedure (Unit × Option Transaction) := do
  return (state, ← request (.activeTransaction id))

/-- A vendor that takes so long for each answer and under which every resource is busy
from a moment on. -/
def Vendor.busyFrom (delay moment : Nat) (active : Transaction) : Vendor Unit where
  respond _ now call := ((), delay, match call with
    | .activeTransaction _ => .ok (if moment ≤ now then some active else none)
    | _ => .error (.timeout 0))

/-- Four ticks to a millisecond and looks that take nine: after the second one half a
millisecond is left of a budget of ten, and the third one begins when that is over. -/
theorem pollUntil_keepsTo_in_quarters :
    StagePolicy.PausesFit ⟨10, 5, 5⟩ ∧ ∃ (missed : List (Trial Transaction))
      (last : Trial Transaction) (final : Run Unit),
      (pollUntilAt 4 ⟨10, 5, 5⟩ () (lookAt ⟨3⟩)).run.run (.busyFrom 9 100 ⟨1, "PROVISION", 0, 5⟩)
        ⟨(), 0, []⟩ = (.ok ((), none), final) ∧
      KeepsTo 4 ⟨10, 5, 5⟩ 0 missed last (.ok none) final.now ∧ last.began ≤ 40 ∧
      last.ended = 49 := by
  have fits : StagePolicy.PausesFit ⟨10, 5, 5⟩ := by decide
  obtain ⟨-, missed, last, result, final, hrun, -, keeps, -⟩ :=
    pollUntil_keepsTo (by decide : 1 ≤ 4) ⟨10, 5, 5⟩ fits (lookAt ⟨3⟩) ()
      (.busyFrom 9 100 ⟨1, "PROVISION", 0, 5⟩) ⟨(), 0, []⟩
  have hresult : result = .ok ((), none) := (congrArg Prod.fst hrun).symm.trans (by rfl)
  have hnow : final.now = 49 := (congrArg (·.2.now) hrun).symm.trans (by rfl)
  rw [hresult] at hrun keeps
  exact ⟨fits, missed, last, final, hrun, keeps, keeps.inTime last (by simp),
    keeps.decided.2.trans hnow⟩

/-- Two looks of half a millisecond, in a wait of one millisecond.  The pause between them
is what the first one has left of it, and that is less than a millisecond. -/
theorem pause_shorter_than_a_millisecond :
    let active : Transaction := ⟨1, "PROVISION", 0, 5⟩
    let policy : StagePolicy := ⟨1, 1, 1⟩
    ∃ trials final, policy.fault? "transactions_started" = none ∧
      (pollUntilAt 2 policy () (lookAt ⟨3⟩)).run.run (.busyFrom 1 2 active) ⟨(), 0, []⟩ =
        (.ok ((), some active), final) ∧
      Tried (.busyFrom 1 2 active) (lookAt ⟨3⟩) 2 (2 * policy.maxWaitMs) (.ofPolicy policy) ()
        ⟨(), 0, []⟩ trials (.ok ((), some active)) final ∧
      ¬trials.IsChain fun earlier later => earlier.ended + 2 ≤ later.began := by
  intro active policy
  let missed : Run Unit := ⟨(), 1, [.asked 0 (.activeTransaction ⟨3⟩) (.ok none)]⟩
  let final : Run Unit :=
    ⟨(), 3, .asked 2 (.activeTransaction ⟨3⟩) (.ok (some active)) :: missed.events⟩
  have first : (lookAt ⟨3⟩ ()).run.run (.busyFrom 1 2 active) ⟨(), 0, []⟩ =
      (.ok ((), none), missed) := by rfl
  have second : (lookAt ⟨3⟩ ()).run.run (.busyFrom 1 2 active) { missed with now := 2 } =
      (.ok ((), some active), final) := by rfl
  exact ⟨[⟨0, 1, .ok none⟩, ⟨2, 3, .ok (some active)⟩], final, by decide, by rfl,
    .again first (by decide) (.found second), by simp⟩

end Provisioning
