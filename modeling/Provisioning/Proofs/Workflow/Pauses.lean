import Mathlib.Order.Monotone.Basic
import Provisioning.Proofs.Workflow.Attempts

/-!
# How the pauses grow

The pauses of a wait grow by half each round, in whole milliseconds.  `Climbs` says what
that is for: they get longer until they reach the cap, and then they stay there.  Half of a
single millisecond is none, so a wait that starts with the shortest base never gets away
from it.  `pauses_climb_iff` says that nothing else can go wrong.
-/

namespace Provisioning.Backoff

/-- The length of each pause, counted from zero. -/
def pause (backoff : Backoff) (round : Nat) : Nat :=
  (backoff.after round).period

theorem periods_eq_map (backoff : Backoff) (count : Nat) :
    backoff.periods count = (List.range count).map backoff.pause := by
  induction count generalizing backoff with
  | zero => rfl
  | succ count ih =>
    rw [periods, ih, List.range_succ_eq_map, List.map_cons, List.map_map]
    congr 1
    apply List.map_congr_left
    intro round _
    simp [pause, grown_after]

theorem cap_after (backoff : Backoff) (round : Nat) : (backoff.after round).cap = backoff.cap := by
  induction round with
  | zero => rfl
  | succ round ih => exact ih

/-- The next pause is longer by half, within the cap. -/
theorem pause_succ (backoff : Backoff) (round : Nat) :
    backoff.pause (round + 1) =
      min (backoff.pause round + backoff.pause round / 2) backoff.cap := by
  simp [pause, after, grown, cap_after]

/-! ## Pauses between bounds -/

section Bounds

variable {base cap : Nat} (hbase : 1 ≤ base) (hcap : base ≤ cap)

include hbase hcap

theorem ofBounds_eq : ofBounds base cap = ⟨base, cap⟩ := by
  simp only [ofBounds, mk.injEq]
  omega

theorem pause_zero : (ofBounds base cap).pause 0 = base := by
  rw [ofBounds_eq hbase hcap]
  rfl

theorem pause_ofBounds_succ (round : Nat) :
    (ofBounds base cap).pause (round + 1) =
      min ((ofBounds base cap).pause round + (ofBounds base cap).pause round / 2) cap := by
  rw [pause_succ, ofBounds_eq hbase hcap]

theorem pause_le_cap (round : Nat) : (ofBounds base cap).pause round ≤ cap := by
  cases round with
  | zero => rw [pause_zero hbase hcap]; exact hcap
  | succ round => rw [pause_ofBounds_succ hbase hcap]; exact Nat.min_le_right _ _

theorem monotone_pause : Monotone (ofBounds base cap).pause := by
  apply monotone_nat_of_le_succ
  intro round
  have hle := pause_le_cap hbase hcap round
  rw [pause_ofBounds_succ hbase hcap]
  omega

theorem base_le_pause (round : Nat) : base ≤ (ofBounds base cap).pause round := by
  have hmono := monotone_pause hbase hcap (Nat.zero_le round)
  rwa [pause_zero hbase hcap] at hmono

/-- Two milliseconds or more have a half to grow by. -/
theorem pause_lt_succ (htwo : 2 ≤ base) (round : Nat) (hlt : (ofBounds base cap).pause round < cap) :
    (ofBounds base cap).pause round < (ofBounds base cap).pause (round + 1) := by
  have hle := base_le_pause hbase hcap round
  rw [pause_ofBounds_succ hbase hcap]
  omega

/-- So each round brings the pause nearer to the cap. -/
theorem min_le_pause (htwo : 2 ≤ base) (round : Nat) :
    min cap (base + round) ≤ (ofBounds base cap).pause round := by
  induction round with
  | zero => rw [pause_zero hbase hcap]; omega
  | succ round ih =>
    have hmono := monotone_pause hbase hcap (Nat.le_add_right round 1)
    by_cases hlt : (ofBounds base cap).pause round < cap
    · have hlonger := pause_lt_succ hbase hcap htwo round hlt
      omega
    · omega

end Bounds

/-- A single millisecond has none. -/
theorem pause_of_one {cap : Nat} (hcap : 1 ≤ cap) (round : Nat) :
    (ofBounds 1 cap).pause round = 1 := by
  induction round with
  | zero => exact pause_zero (Nat.le_refl 1) hcap
  | succ round ih =>
    rw [pause_ofBounds_succ (Nat.le_refl 1) hcap, ih]
    omega

/-! ## The climb -/

/-- Pauses that get longer from the base to the cap, and then stay there. -/
structure Climbs (base cap : Nat) (pause : Nat → Nat) : Prop where
  starts : pause 0 = base
  monotone : Monotone pause
  capped : ∀ round, pause round ≤ cap
  longer : ∀ round, pause round < cap → pause round < pause (round + 1)
  arrives : ∃ round, ∀ later, round ≤ later → pause later = cap

theorem climbs_of_two_le {base cap : Nat} (htwo : 2 ≤ base) (hcap : base ≤ cap) :
    Climbs base cap (ofBounds base cap).pause := by
  have hbase : 1 ≤ base := by omega
  refine
    { starts := pause_zero hbase hcap
      monotone := monotone_pause hbase hcap
      capped := pause_le_cap hbase hcap
      longer := pause_lt_succ hbase hcap htwo
      arrives := ⟨cap - base, ?_⟩ }
  intro later hlater
  have hhigh := min_le_pause hbase hcap htwo later
  have hlow := pause_le_cap hbase hcap later
  omega

/-- Where there is nothing to climb, the shortest base will do. -/
theorem climbs_one : Climbs 1 1 (ofBounds 1 1).pause := by
  have hone := pause_of_one (Nat.le_refl 1)
  refine
    { starts := hone 0
      monotone := monotone_pause (Nat.le_refl 1) (Nat.le_refl 1)
      capped := fun round => Nat.le_of_eq (hone round)
      longer := ?_
      arrives := ⟨0, fun later _ => hone later⟩ }
  intro round hlt
  have hround := hone round
  omega

theorem not_climbs_of_one {cap : Nat} (hcap : 1 < cap) : ¬Climbs 1 cap (ofBounds 1 cap).pause := by
  intro climbs
  obtain ⟨round, harrives⟩ := climbs.arrives
  have hcap' := harrives round (Nat.le_refl round)
  have hone := pause_of_one (Nat.le_of_lt hcap) round
  omega

/-- The pauses of a wait start at its base, never get shorter and never pass its cap, if the
sum at the cap is a number of 64 bits: then no sum on the way leaves a word.  They climb to
the cap unless the base is a single millisecond and the cap is not: then every pause is a
single millisecond. -/
theorem pauses_climb_iff {base cap : Nat} (hbase : 1 ≤ base) (hcap : base ≤ cap)
    (hfits : cap + cap / 2 < Text.wordBound) :
    (∀ count, (ofBounds base cap).periods count =
        (List.range count).map (ofBounds base cap).pause) ∧
      (∀ round, (ofBounds base cap).pause round + (ofBounds base cap).pause round / 2 <
        Text.wordBound) ∧
      (ofBounds base cap).pause 0 = base ∧ Monotone (ofBounds base cap).pause ∧
      (∀ round, (ofBounds base cap).pause round ≤ cap) ∧
      (Climbs base cap (ofBounds base cap).pause ↔ 2 ≤ base ∨ cap = 1) ∧
      (base = 1 → ∀ round, (ofBounds base cap).pause round = 1) := by
  refine ⟨periods_eq_map _, ?_, pause_zero hbase hcap, monotone_pause hbase hcap,
    pause_le_cap hbase hcap, ⟨?_, ?_⟩, ?_⟩
  · intro round
    have hle := pause_le_cap hbase hcap round
    omega
  · intro climbs
    by_contra hstuck
    have hone : base = 1 := by omega
    have hhigh : 1 < cap := by omega
    subst hone
    exact not_climbs_of_one hhigh climbs
  · rintro (htwo | rfl)
    · exact climbs_of_two_le htwo hcap
    · obtain rfl : base = 1 := by omega
      exact climbs_one
  · rintro rfl round
    exact pause_of_one hcap round

theorem pauses_climb_from_two :
    1 ≤ 2 ∧ 2 ≤ 5 ∧ 5 + 5 / 2 < Text.wordBound ∧ (ofBounds 2 5).periods 5 = [2, 3, 4, 5, 5] ∧
      Climbs 2 5 (ofBounds 2 5).pause :=
  have climb := pauses_climb_iff (by decide : 1 ≤ 2) (by decide : 2 ≤ 5)
    (by decide : 5 + 5 / 2 < Text.wordBound)
  ⟨by decide, by decide, by decide, by decide, climb.2.2.2.2.2.1.mpr (.inl (by decide))⟩

/-- Bounds that are no fault of a policy, between which the pauses do not grow. -/
theorem pauses_stuck_at_one :
    let policy : StagePolicy := ⟨60000, 1, 1000⟩
    policy.fault? "order_approved" = none ∧ (ofPolicy policy).periods 3 = [1, 1, 1] ∧
      ¬Climbs 1 1000 (ofPolicy policy).pause :=
  ⟨by decide, by decide, not_climbs_of_one (by decide)⟩

end Provisioning.Backoff
