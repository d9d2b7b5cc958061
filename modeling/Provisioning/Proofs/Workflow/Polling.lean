import Provisioning.Proofs.Workflow.Surroundings
import Provisioning.Workflow.Polling

/-!
# What a bounded wait assures

The rounds of a wait are bounded by a number that no clock exhausts: every
pause takes at least a millisecond and none goes past the budget, so the budget
is spent before the rounds are.  `assures_pollUntil` is the rule that comes of
it.  It asks for an invariant of the rounds and for what one attempt does to it,
and it hands every attempt the time that is left.

The rule needs a clock that keeps time with the pauses, `Surroundings.Timed`.
`assures_pollUntil_invariant` is the rule for a clock that need not: nothing is
known then of how a wait ends that found nothing.
-/

namespace Provisioning

variable {α β γ σ : Type}

/-! ## The clock -/

/-- The clock shows the time `now`, a pause takes as long as it is meant to, and
an answer takes some time or none. -/
structure Surroundings.Timed (around : Surroundings γ) (now : γ → Nat) : Prop where
  shows : ∀ {g time}, around.Shows g time → time = now g
  passes : ∀ {g ms g'}, around.Passes g ms g' → now g' = now g + ms
  answers : ∀ {g call answer g'}, around.Answers g call answer g' → now g ≤ now g'

variable {around : Surroundings γ} {now : γ → Nat}

/-- No time is gained by a workflow. -/
theorem Workflow.Assures.and_now_le (timed : around.Timed now) {w : Workflow α}
    {post : α → γ → Prop} {g : γ} (h : w.Assures around post g) :
    w.Assures around (fun a g' => post a g' ∧ now g ≤ now g') g := by
  induction w generalizing g with
  | done result => exact ⟨h, Nat.le_refl _⟩
  | ask call next ih =>
    refine ⟨h.1, fun answer g' answered => ?_⟩
    have hle := timed.answers answered
    exact (ih answer (h.2 answer g' answered)).mono fun a g'' h => ⟨h.1, Nat.le_trans hle h.2⟩
  | pause ms next ih =>
    intro g' passed
    have heq := timed.passes passed
    exact (ih (h g' passed)).mono fun a g'' h => ⟨h.1, by omega⟩
  | clock next ih => exact fun time shown => ih time (h time shown)
  | report notice next ih => exact ih h

theorem Procedure.Assures.and_now_le (timed : around.Timed now) {p : Procedure α}
    {ok : α → γ → Prop} {fail : Error → γ → Prop} {g : γ} (h : p.Assures around ok fail g) :
    p.Assures around (fun a g' => ok a g' ∧ now g ≤ now g')
      (fun cause g' => fail cause g' ∧ now g ≤ now g') g := by
  refine (Workflow.Assures.and_now_le timed h).mono fun result g' h => ?_
  cases result <;> exact h

/-! ## Pauses -/

namespace Backoff

/-- A pause takes time, and so does every later one. -/
def Positive (backoff : Backoff) : Prop :=
  1 ≤ backoff.period ∧ 1 ≤ backoff.cap

theorem positive_ofPolicy (policy : StagePolicy) : (ofPolicy policy).Positive := by
  simp only [Positive, ofPolicy, ofBounds]
  omega

theorem Positive.grown {backoff : Backoff} (h : backoff.Positive) : backoff.grown.Positive := by
  simp only [Positive, Backoff.grown] at h ⊢
  omega

/-- No pause is longer than the next one and the cap. -/
theorem le_of_mem_periods {longest : Nat} {backoff : Backoff} (hperiod : backoff.period ≤ longest)
    (hcap : backoff.cap ≤ longest) (count : Nat) :
    ∀ period ∈ backoff.periods count, period ≤ longest := by
  induction count generalizing backoff with
  | zero => simp [periods]
  | succ count ih =>
    have hgrown : backoff.grown.period ≤ longest := Nat.le_trans (Nat.min_le_right _ _) hcap
    rw [periods, List.forall_mem_cons]
    exact ⟨hperiod, ih hgrown hcap⟩

end Backoff

namespace StagePolicy

/-- The longest pause of a policy. -/
def longestPauseMs (policy : StagePolicy) : Nat :=
  max policy.capPeriodMs (max policy.basePeriodMs 1)

theorem period_ofPolicy_le (policy : StagePolicy) :
    (Backoff.ofPolicy policy).period ≤ policy.longestPauseMs :=
  Nat.le_max_right _ _

/-- The pauses of a policy grow within the numbers of 64 bits: the longest one does. -/
def PausesFit (policy : StagePolicy) : Prop :=
  policy.longestPauseMs + policy.longestPauseMs / 2 < Text.wordBound
deriving Decidable

/-- No sum on the way leaves a word. -/
theorem PausesFit.grows {policy : StagePolicy} (fits : policy.PausesFit) (count : Nat) :
    ∀ period ∈ (Backoff.ofPolicy policy).periods count, period + period / 2 < Text.wordBound := by
  intro period hperiod
  have hle := Backoff.le_of_mem_periods policy.period_ofPolicy_le (Nat.le_refl _) count period
    hperiod
  unfold PausesFit at fits
  omega

end StagePolicy

/-! ## The rounds of a wait -/

section Rounds

variable {maxWaitMs started : Nat} {attempt : σ → Procedure (σ × Option α)}
  {ok : σ × Option α → γ → Prop} {fail : Error → γ → Prop} {Inv : Backoff → σ → γ → Prop}

/-- What follows an attempt: a value is the result; without one the wait is over
when its budget is spent, and otherwise the invariant holds after the pause. -/
def AfterAttempt (around : Surroundings γ) (now : γ → Nat) (maxWaitMs started : Nat)
    (Inv : Backoff → σ → γ → Prop) (ok : σ × Option α → γ → Prop) (backoff : Backoff)
    (result : σ × Option α) (g : γ) : Prop :=
  (∀ a, result.2 = some a → ok (result.1, some a) g) ∧
    (result.2 = none →
      (started + maxWaitMs ≤ now g → ok (result.1, none) g) ∧
      (now g < started + maxWaitMs →
        ∀ g', around.Passes g (min backoff.period (maxWaitMs - (now g - started))) g' →
          Inv backoff.grown result.1 g'))

/-- The budget is spent before the rounds are: the time at the beginning of a
round is within the budget, and the rounds left are more than the milliseconds
left. -/
theorem assures_pollFrom (timed : around.Timed now)
    (attempts : ∀ backoff state g, Inv backoff state g → started ≤ now g →
      now g ≤ started + maxWaitMs →
      (attempt state).Assures around
        (AfterAttempt around now maxWaitMs started Inv ok backoff) fail g) :
    ∀ (rounds : Nat) (backoff : Backoff) (state : σ) (g : γ), Inv backoff state g →
      backoff.Positive → started ≤ now g → now g ≤ started + maxWaitMs →
      started + maxWaitMs < now g + rounds →
      (pollFrom 1 maxWaitMs started attempt rounds backoff state).Assures around ok fail g := by
  intro rounds
  induction rounds with
  | zero =>
    intro backoff state g _ _ _ hle hrounds
    omega
  | succ rounds ih =>
    intro backoff state g inv positive hstarted hle hrounds
    rw [pollFrom, Procedure.assures_bind]
    have attempted := (attempts backoff state g inv hstarted hle).and_now_le timed
    refine attempted.mono ?_ fun cause g' h => h.1
    intro result g' h
    obtain ⟨state', found⟩ := result
    obtain ⟨⟨hfound, hnone⟩, hnow⟩ := h
    cases found with
    | some value => exact hfound value rfl
    | none =>
      simp only [Procedure.assures_bind, Procedure.assures_liftM, Workflow.now, Workflow.Assures]
      intro time shown
      obtain rfl := timed.shows shown
      have hpause := hnone rfl
      split
      · exact hpause.1 (by omega)
      · rename_i hleft
        simp only [Procedure.assures_bind, Procedure.assures_liftM, Workflow.rest, Workflow.Assures,
          Nat.one_mul]
        intro g'' passed
        have hnow' := timed.passes passed
        have hperiod := positive.1
        exact ih _ _ _ (hpause.2 (by omega) g'' passed) positive.grown (by omega) (by omega)
          (by omega)

end Rounds

/-- The rule for a bounded wait. -/
theorem assures_pollUntil {policy : StagePolicy} {attempt : σ → Procedure (σ × Option α)}
    {ok : σ × Option α → γ → Prop} {fail : Error → γ → Prop} (Inv : Backoff → σ → γ → Prop)
    (timed : around.Timed now) {state : σ} {g : γ}
    (attempts : ∀ backoff state g', Inv backoff state g' → now g ≤ now g' →
      now g' ≤ now g + policy.maxWaitMs →
      (attempt state).Assures around
        (AfterAttempt around now policy.maxWaitMs (now g) Inv ok backoff) fail g')
    (inv : Inv (.ofPolicy policy) state g) :
    (pollUntil policy state attempt).Assures around ok fail g := by
  simp only [pollUntil_eq, Procedure.assures_bind, Procedure.assures_liftM, Workflow.now,
    Workflow.Assures]
  intro time shown
  obtain rfl := timed.shows shown
  exact assures_pollFrom timed attempts _ _ _ _ inv (Backoff.positive_ofPolicy policy)
    (Nat.le_refl _) (Nat.le_add_right _ _) (by omega)

/-- The rule for a bounded wait when nothing is known of the clock. -/
theorem assures_pollUntil_invariant {policy : StagePolicy}
    {attempt : σ → Procedure (σ × Option α)} {fail : Error → γ → Prop}
    (ok : σ × Option α → γ → Prop) (Inv : σ → γ → Prop)
    (attempts : ∀ state g, Inv state g →
      (attempt state).Assures around
        (fun result g' => match result.2 with
          | some a => ok (result.1, some a) g'
          | none => Inv result.1 g')
        fail g)
    (idle : ∀ state g ms g', Inv state g → around.Passes g ms g' → Inv state g')
    (nothing : ∀ state g, Inv state g → ok (state, none) g) (state : σ) (g : γ)
    (inv : Inv state g) : (pollUntil policy state attempt).Assures around ok fail g := by
  have rounds : ∀ (started rounds : Nat) (backoff : Backoff) (state : σ) (g : γ), Inv state g →
      (pollFrom 1 policy.maxWaitMs started attempt rounds backoff state).Assures around ok fail
        g := by
    intro started rounds
    induction rounds with
    | zero => exact fun backoff state g inv => nothing state g inv
    | succ rounds ih =>
      intro backoff state g inv
      rw [pollFrom, Procedure.assures_bind]
      refine (attempts state g inv).mono ?_ fun cause g' h => h
      intro result g' hresult
      obtain ⟨state', found⟩ := result
      cases found with
      | some value => exact hresult
      | none =>
        simp only [Procedure.assures_bind, Procedure.assures_liftM, Workflow.now, Workflow.Assures]
        intro time _
        split
        · exact nothing state' g' hresult
        · simp only [Procedure.assures_bind, Procedure.assures_liftM, Workflow.rest,
            Workflow.Assures]
          intro g'' passed
          exact ih _ _ _ (idle _ _ _ _ hresult passed)
  simp only [pollUntil_eq, Procedure.assures_bind, Procedure.assures_liftM, Workflow.now,
    Workflow.Assures]
  intro time _
  exact rounds time _ _ state g inv

/-- A wait whose first attempt finds a value, or fails, is over at once. -/
theorem assures_pollUntil_first {policy : StagePolicy} {attempt : σ → Procedure (σ × Option α)}
    {ok : σ × Option α → γ → Prop} {fail : Error → γ → Prop} {state : σ} {g : γ}
    (first : (attempt state).Assures around
      (fun result g' => result.2.isSome = true ∧ ok result g') fail g) :
    (pollUntil policy state attempt).Assures around ok fail g := by
  simp only [pollUntil_eq, Procedure.assures_bind, Procedure.assures_liftM, Workflow.now,
    Workflow.Assures]
  intro time _
  rw [pollFrom, Procedure.assures_bind]
  refine first.mono ?_ fun _ _ h => h
  rintro ⟨state', found⟩ g' ⟨hfound, h⟩
  cases found with
  | none => cases hfound
  | some value => exact h

end Provisioning
