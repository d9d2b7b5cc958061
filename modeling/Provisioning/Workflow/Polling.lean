import Provisioning.Config
import Provisioning.Workflow

/-!
# Bounded polling

An attempt is made at once and then again after each pause, until it yields a
value or the budget of the wait is spent.  Pauses start at the base period and
grow by half each round, up to the cap.  A failed attempt ends the wait.

Attempts are given a state and return the next one, so that what one attempt
has seen reaches the next.

Budgets and pauses are whole milliseconds.  The time that attempts take need not
be, so a wait is told how many ticks its clock makes in a millisecond: what is
left of the budget after an attempt is a number of ticks, and the last pause is
cut to it.  The workflows of this library run on a clock of milliseconds
(`pollUntil`).  Only the last pause can be shorter than a millisecond, so
`maxWaitMs + 1` rounds are enough for any clock that moves with the pauses; that
number bounds the recursion.
-/

namespace Provisioning

/-- The pauses of one wait: the next one and the longest one. -/
structure Backoff where
  period : Nat
  cap : Nat
deriving DecidableEq, Repr

namespace Backoff

/-- The pauses from a base period to a cap.  The base is at least a millisecond
and the cap at least the base. -/
def ofBounds (base cap : Nat) : Backoff :=
  ⟨max base 1, max cap (max base 1)⟩

/-- The pauses of a policy. -/
def ofPolicy (policy : StagePolicy) : Backoff :=
  ofBounds policy.basePeriodMs policy.capPeriodMs

/-- The pauses after the next one.  Periods are numbers of 64 bits, and so is the sum
when `cap + cap / 2` is one (`StagePolicy.PausesFit`). -/
def grown (backoff : Backoff) : Backoff :=
  ⟨min (backoff.period + backoff.period / 2) backoff.cap, backoff.cap⟩

/-- The first `count` pauses. -/
def periods (backoff : Backoff) : Nat → List Nat
  | 0 => []
  | count + 1 => backoff.period :: backoff.grown.periods count

end Backoff

variable {σ α : Type}

/-- The rounds of a wait that started at `started`, at most `rounds` of them, on a
clock with so many ticks to a millisecond.  The budget is in ticks. -/
def pollFrom (ticks budget started : Nat) (attempt : σ → Procedure (σ × Option α)) :
    Nat → Backoff → σ → Procedure (σ × Option α)
  | 0, _, state => pure (state, none)
  | rounds + 1, backoff, state => do
    let (state, found) ← attempt state
    match found with
    | some value => return (state, some value)
    | none =>
      let now ← Workflow.now
      let elapsed := now - started
      if budget ≤ elapsed then return (state, none)
      else
        Workflow.rest (min (ticks * backoff.period) (budget - elapsed))
        pollFrom ticks budget started attempt rounds backoff.grown state

/-- Attempts until one yields a value, or none once the budget of the policy is
spent, on a clock with so many ticks to a millisecond. -/
def pollUntilAt (ticks : Nat) (policy : StagePolicy) (state : σ)
    (attempt : σ → Procedure (σ × Option α)) : Procedure (σ × Option α) := do
  let started ← Workflow.now
  pollFrom ticks (ticks * policy.maxWaitMs) started attempt (policy.maxWaitMs + 1)
    (.ofPolicy policy) state

/-- Attempts until one yields a value, or none once the budget of the policy is
spent. -/
def pollUntil (policy : StagePolicy) (state : σ) (attempt : σ → Procedure (σ × Option α)) :
    Procedure (σ × Option α) :=
  pollUntilAt 1 policy state attempt

/-- Tests until one holds, or false once the budget of the policy is spent, on a clock
with so many ticks to a millisecond. -/
def awaitConditionAt (ticks : Nat) (policy : StagePolicy) (state : σ)
    (test : σ → Procedure (σ × Bool)) : Procedure (σ × Bool) := do
  let (state, found) ← pollUntilAt ticks policy state fun state => do
    let (state, holds) ← test state
    return (state, if holds then some () else none)
  return (state, found.isSome)

/-- Tests until one holds; false once the budget of the policy is spent. -/
def awaitCondition (policy : StagePolicy) (state : σ) (test : σ → Procedure (σ × Bool)) :
    Procedure (σ × Bool) :=
  awaitConditionAt 1 policy state test

theorem pollUntil_eq (policy : StagePolicy) (state : σ)
    (attempt : σ → Procedure (σ × Option α)) :
    pollUntil policy state attempt = (do
      let started ← Workflow.now
      pollFrom 1 policy.maxWaitMs started attempt (policy.maxWaitMs + 1) (.ofPolicy policy)
        state) := by
  rw [pollUntil, pollUntilAt, Nat.one_mul]

theorem awaitCondition_eq (policy : StagePolicy) (state : σ)
    (test : σ → Procedure (σ × Bool)) :
    awaitCondition policy state test = (do
      let (state, found) ← pollUntil policy state fun state => do
        let (state, holds) ← test state
        return (state, if holds then some () else none)
      return (state, found.isSome)) :=
  rfl

end Provisioning
