import Mathlib.Data.Nat.Find
import Provisioning.Proofs.Workflow.Polling
import Provisioning.Workflow.Probe

/-!
# How many attempts a wait allows

When answers take no time, only the pauses spend the budget of a wait, and the
number of its attempts depends on the policy alone: one more than the number of
pauses that fill the budget.  `StagePolicy.attempts` is that number.
`assures_pollUntil_counted` is the rule for waits whose attempts are told apart
by their number: the wait is over at the first attempt that brings something, or
at the last one that the policy allows.
-/

namespace Provisioning

variable {α β γ σ : Type}

/-! ## Pauses -/

namespace Backoff

/-- The pauses after so many of them. -/
def after (backoff : Backoff) : Nat → Backoff
  | 0 => backoff
  | count + 1 => (backoff.after count).grown

theorem grown_after (backoff : Backoff) (count : Nat) :
    backoff.grown.after count = backoff.after (count + 1) := by
  induction count with
  | zero => rfl
  | succ count ih =>
    rw [after, ih]
    rfl

theorem Positive.after {backoff : Backoff} (h : backoff.Positive) (count : Nat) :
    (backoff.after count).Positive := by
  induction count with
  | zero => exact h
  | succ count ih => exact ih.grown

/-- The sum of the first pauses. -/
def spent (backoff : Backoff) (count : Nat) : Nat :=
  (backoff.periods count).foldr (· + ·) 0

theorem spent_succ (backoff : Backoff) (count : Nat) :
    backoff.spent (count + 1) = backoff.spent count + (backoff.after count).period := by
  induction count generalizing backoff with
  | zero => simp [spent, periods, after]
  | succ count ih =>
    have hrest := ih backoff.grown
    rw [grown_after] at hrest
    have hhead : ∀ n, backoff.spent (n + 1) = backoff.period + backoff.grown.spent n := by
      intro n
      simp [spent, periods]
    rw [hhead (count + 1), hrest, hhead count]
    omega

theorem Positive.le_spent {backoff : Backoff} (h : backoff.Positive) (count : Nat) :
    count ≤ backoff.spent count := by
  induction count with
  | zero => exact Nat.zero_le _
  | succ count ih =>
    rw [spent_succ]
    have hperiod := (h.after count).1
    omega

end Backoff

/-! ## Attempts -/

namespace StagePolicy

/-- Some number of pauses fills the budget. -/
theorem exists_spent (policy : StagePolicy) :
    ∃ count, policy.maxWaitMs ≤ (Backoff.ofPolicy policy).spent count :=
  ⟨policy.maxWaitMs, (Backoff.positive_ofPolicy policy).le_spent _⟩

/-- The number of attempts that a policy allows when answers take no time.  The pauses are
summed up as natural numbers: a policy whose longest pause and half of it add up to less
than `Text.wordBound` has pauses of 64 bits only (`StagePolicy.PausesFit`), and so has
every policy that a document can hold. -/
def attempts (policy : StagePolicy) : Nat :=
  1 + Nat.find policy.exists_spent

/-- The budget lasts for the pause before each attempt that is allowed. -/
theorem spent_lt_of_lt_attempts (policy : StagePolicy) {count : Nat}
    (h : count + 1 < policy.attempts) :
    (Backoff.ofPolicy policy).spent count < policy.maxWaitMs := by
  unfold attempts at h
  exact Nat.lt_of_not_le (Nat.find_min policy.exists_spent (by omega))

/-- The pauses between the attempts that are allowed fill the budget. -/
theorem le_spent_of_attempts_le (policy : StagePolicy) {count : Nat}
    (h : policy.attempts ≤ count + 1) :
    policy.maxWaitMs ≤ (Backoff.ofPolicy policy).spent count := by
  unfold attempts at h
  have hspec := Nat.find_spec policy.exists_spent
  have hle : Nat.find policy.exists_spent ≤ count := by omega
  have hmono : ∀ more, (Backoff.ofPolicy policy).spent (Nat.find policy.exists_spent) ≤
      (Backoff.ofPolicy policy).spent (Nat.find policy.exists_spent + more) := by
    intro more
    induction more with
    | zero => exact Nat.le_refl _
    | succ more ih =>
      rw [← Nat.add_assoc, Backoff.spent_succ]
      omega
  have hmore := hmono (count - Nat.find policy.exists_spent)
  rw [Nat.add_sub_cancel' hle] at hmore
  omega

end StagePolicy

/-! ## The rule -/

section Counted

variable {around : Surroundings γ} {now : γ → Nat}

/-- A wait is over at an attempt, counted from zero: all earlier ones brought
nothing, and this one brought something or was the last one allowed. -/
def OverAt (policy : StagePolicy) (brings : Nat → Option α) (found : Option α) (count : Nat) :
    Prop :=
  count < policy.attempts ∧ (∀ earlier < count, brings earlier = none) ∧ brings count = found ∧
    (found = none → count + 1 = policy.attempts)

/-- The rule for waits whose attempts take no time and are told apart by their
number.  `Before count` is what holds before that attempt while nothing was
found, and `Found count` what holds after it if it found something. -/
theorem assures_pollUntil_counted {policy : StagePolicy}
    {attempt : σ → Procedure (σ × Option α)} {fail : Error → γ → Prop} (brings : Nat → Option α)
    (Before Found : Nat → σ → γ → Prop) (timed : around.Timed now)
    (idle : ∀ count state g ms g', Before count state g → around.Passes g ms g' →
      Before count state g')
    (attempts : ∀ count state g, Before count state g →
      (attempt state).Assures around
        (fun result g' => result.2 = brings count ∧ now g' = now g ∧
          match brings count with
          | some _ => Found count result.1 g'
          | none => Before (count + 1) result.1 g')
        fail g)
    (state : σ) (g : γ) (before : Before 0 state g) :
    (pollUntil policy state attempt).Assures around
      (fun result g' => ∃ count, OverAt policy brings result.2 count ∧
        match result.2 with
        | some _ => Found count result.1 g'
        | none => Before (count + 1) result.1 g')
      fail g := by
  -- so many attempts are over, and the clock shows the pauses between them, cut off at the budget
  refine assures_pollUntil (fun backoff state g' => ∃ count, count < policy.attempts ∧
    (∀ earlier < count, brings earlier = none) ∧ Before count state g' ∧
    backoff = (Backoff.ofPolicy policy).after count ∧
    now g' = now g + min ((Backoff.ofPolicy policy).spent count) policy.maxWaitMs) timed ?_ ?_
  · intro backoff state' g' inv _ _
    obtain ⟨count, hcount, hearlier, hbefore, rfl, hnow⟩ := inv
    refine (attempts count state' g' hbefore).mono ?_ fun cause g'' h => h
    intro result g'' hresult
    obtain ⟨hfound, hinstant, hafter⟩ := hresult
    refine ⟨fun a ha => ?_, fun hnone => ⟨fun hspent => ?_, fun hleft g''' passed => ?_⟩⟩
    · rw [hfound] at ha
      rw [ha] at hafter
      exact ⟨count, ⟨hcount, hearlier, ha, fun h => (by cases h)⟩, hafter⟩
    · rw [hfound] at hnone
      rw [hnone] at hafter
      refine ⟨count, ⟨hcount, hearlier, hnone, fun _ => ?_⟩, hafter⟩
      by_contra hne
      have hlt := policy.spent_lt_of_lt_attempts (by omega : count + 1 < policy.attempts)
      omega
    · rw [hfound] at hnone
      rw [hnone] at hafter
      have hlast : count + 1 < policy.attempts := by
        by_contra hge
        have hle := policy.le_spent_of_attempts_le (Nat.le_of_not_lt hge)
        omega
      have hpassed := timed.passes passed
      have hspent := policy.spent_lt_of_lt_attempts hlast
      refine ⟨count + 1, hlast, ?_, idle _ _ _ _ _ hafter passed, rfl, ?_⟩
      · intro earlier hlt
        rcases Nat.lt_succ_iff_lt_or_eq.mp hlt with hlt | heq
        · exact hearlier earlier hlt
        · rw [heq]
          exact hnone
      · rw [Backoff.spent_succ]
        omega
  · refine ⟨0, ?_, fun earlier hlt => absurd hlt (Nat.not_lt_zero _), before, rfl, ?_⟩
    · unfold StagePolicy.attempts
      omega
    · simp [Backoff.spent, Backoff.periods]

/-- The rule for stages whose looks take no time and are told apart by their
number. -/
theorem assures_awaitStage_counted {polling : PollingConfig} {stage : Stage} {label : String}
    {probe : Tracker → Procedure (Tracker × Bool)} (holds : Nat → Bool)
    (Before Done : Nat → Tracker → γ → Prop) (timed : around.Timed now)
    (idle : ∀ count tracker g ms g', Before count tracker g → around.Passes g ms g' →
      Before count tracker g')
    (probes : ∀ count tracker g, Before count tracker g →
      (probe tracker).Assures around
        (fun result g' => result.2 = holds count ∧ now g' = now g ∧
          if holds count then Done count result.1 g' else Before (count + 1) result.1 g')
        (fun _ _ => False) g)
    (tracker : Tracker) (g : γ) (before : Before 0 tracker g) :
    (awaitStage polling stage label tracker probe).Assures around
      (fun tracker' g' => ∃ count, count < (polling.policy stage).attempts ∧
        (∀ earlier < count, holds earlier = false) ∧ holds count = true ∧ Done count tracker' g')
      (fun cause g' => (∀ count < (polling.policy stage).attempts, holds count = false) ∧
        cause = .stageTimeout stage label (polling.policy stage).maxWaitMs ∧
          ∃ tracker', Before (polling.policy stage).attempts tracker' g') g := by
  have brings_none : ∀ {count}, (if holds count then some () else none) = none →
      holds count = false := by
    intro count h
    cases hholds : holds count with
    | false => rfl
    | true =>
      rw [hholds] at h
      cases h
  simp only [awaitStage, awaitCondition_eq, Procedure.assures_bind]
  refine (assures_pollUntil_counted (fun count => if holds count then some () else none)
    Before Done timed idle ?_ tracker g before).mono ?_ fun _ _ (h : False) => h.elim
  · intro count state g' hbefore
    rw [Procedure.assures_bind]
    refine (probes count state g' hbefore).mono ?_ fun cause g'' h => h
    intro result g'' hresult
    obtain ⟨hholds, hinstant, hafter⟩ := hresult
    rw [Procedure.assures_pure, hholds]
    refine ⟨rfl, hinstant, ?_⟩
    cases h : holds count with
    | true =>
      rw [h] at hafter
      exact hafter
    | false =>
      rw [h] at hafter
      exact hafter
  · intro result g' hresult
    obtain ⟨count, ⟨hcount, hearlier, hbrings, hlast⟩, hafter⟩ := hresult
    have hearlier : ∀ earlier < count, holds earlier = false :=
      fun earlier hlt => brings_none (hearlier earlier hlt)
    cases hfound : result.2 with
    | none =>
      simp only [Procedure.assures_pure, Option.isSome_none, Bool.false_eq_true, if_false,
        Procedure.assures_throw]
      rw [hfound] at hbrings hafter
      have hle := hlast hfound
      rw [hle] at hafter
      refine ⟨fun c hc => ?_, trivial, _, hafter⟩
      rcases Nat.lt_or_eq_of_le (by omega : c ≤ count) with hlt | heq
      · exact hearlier c hlt
      · rw [heq]
        exact brings_none hbrings
    | some _ =>
      simp only [Procedure.assures_pure, Option.isSome_some, if_true]
      rw [hfound] at hbrings hafter
      refine ⟨count, hcount, hearlier, ?_, hafter⟩
      cases hholds : holds count with
      | true => rfl
      | false =>
        simp only [hholds, Bool.false_eq_true, if_false] at hbrings
        cases hbrings

end Counted

end Provisioning
