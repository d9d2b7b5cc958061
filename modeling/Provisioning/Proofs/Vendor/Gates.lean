import Provisioning.Proofs.Vendor.Alone
import Provisioning.Proofs.Workflow.Attempts

/-!
# The gates of a cycle

A workflow that waits for a cycle of transactions and has the simulated vendor
to itself sees the entries of one script, one at each look.  So the script says
at which look either gate opens, and the policies say whether there are that many
looks: `assures_cycleStarted_alone` and `assures_cycleEnded_alone`.
-/

namespace Provisioning

/-! ## Scripts -/

/-- The look that finds the end of a cycle which the look `started` found under
way: the first one after it that shows nothing. -/
def cycleEnd (entries : List (Option Transaction)) (started : Nat) : Nat :=
  started + 1 + (entries.drop (started + 1)).findIdx (·.isNone)

section Scripts

variable {entries : List (Option Transaction)} {started : Nat}

theorem isSome_join_getElem? {n : Nat} :
    (entries[n]?.join).isSome = (entries[n]?).any (·.isSome) := by
  cases entries[n]? with
  | none => rfl
  | some entry => cases entry <;> rfl

/-- A script in which nothing is ever active. -/
theorem shows_none_of_findIdx? (h : entries.findIdx? (·.isSome) = none) (n : Nat) :
    (entries[n]?.join).isSome = false := by
  rw [isSome_join_getElem?]
  cases hn : entries[n]? with
  | none => rfl
  | some entry => exact List.findIdx?_eq_none_iff.mp h entry (List.mem_of_getElem? hn)

/-- The first look that shows something. -/
theorem shows_of_findIdx? (h : entries.findIdx? (·.isSome) = some started) :
    (entries[started]?.join).isSome = true ∧
      ∀ n < started, (entries[n]?.join).isSome = false := by
  obtain ⟨hlt, hsome, hbefore⟩ := List.findIdx?_eq_some_iff_getElem.mp h
  refine ⟨?_, fun n hn => ?_⟩
  · rw [isSome_join_getElem?, List.getElem?_eq_getElem hlt]
    exact hsome
  · rw [isSome_join_getElem?, List.getElem?_eq_getElem (Nat.lt_trans hn hlt)]
    have hnone := hbefore n hn
    simpa using hnone

/-- The looks between the start and the end of a cycle show something. -/
theorem shows_of_lt_cycleEnd {n : Nat} (h : started + 1 + n < cycleEnd entries started) :
    (entries[started + 1 + n]?.join).isNone = false := by
  unfold cycleEnd at h
  have hn : n < (entries.drop (started + 1)).findIdx (·.isNone) := by omega
  have hlt : n < (entries.drop (started + 1)).length :=
    Nat.lt_of_lt_of_le hn List.findIdx_le_length
  have hshows := List.not_of_lt_findIdx hn
  rw [← List.getElem?_drop, List.getElem?_eq_getElem hlt]
  simpa using hshows

/-- The look that finds the end of a cycle shows nothing. -/
theorem shows_none_at_cycleEnd :
    (entries[cycleEnd entries started]?.join).isNone = true := by
  unfold cycleEnd
  rw [← List.getElem?_drop]
  by_cases hlt : (entries.drop (started + 1)).findIdx (·.isNone) <
      (entries.drop (started + 1)).length
  · rw [List.getElem?_eq_getElem hlt]
    have hnone := List.findIdx_getElem (w := hlt)
    simpa using hnone
  · rw [List.getElem?_eq_none (Nat.le_of_not_lt hlt)]
    rfl

end Scripts

/-! ## Looks -/

namespace Simulator

/-- The vendor after so many looks at the feed of a resource. -/
def looked (s : Simulator) (id : ResourceId) : Nat → Simulator
  | 0 => s
  | count + 1 => ((s.looked id count).call (.activeTransaction id)).1

variable {s : Simulator} {id : ResourceId}

theorem looked_looked (s : Simulator) (id : ResourceId) (count more : Nat) :
    (s.looked id count).looked id more = s.looked id (count + more) := by
  induction more with
  | zero => rfl
  | succ more ih => rw [looked, ih, ← Nat.add_assoc, looked]

/-- Looks play the script of the resource. -/
theorem holding_looked {base : Holding} {script : Script} {count : Nat}
    (holding : s.holding id = base.played script count) (more : Nat) :
    (s.looked id more).holding id = base.played script (count + more) := by
  induction more with
  | zero => exact holding
  | succ more ih =>
    rw [looked, holding_call_activeTransaction, ih, Holding.look_played, Nat.add_assoc]

/-- Looks at the feed of one resource do not concern another. -/
theorem holding_looked_of_ne {other : ResourceId} (h : other ≠ id) (count : Nat) :
    (s.looked id count).holding other = s.holding other := by
  induction count with
  | zero => rfl
  | succ count ih => rw [looked, holding_call_activeTransaction_of_ne _ h, ih]

/-- Looks are counted. -/
theorem calls_looked (s : Simulator) (id : ResourceId) (count : Nat) :
    (s.looked id count).calls =
      { s.calls with activeTransaction := s.calls.activeTransaction + count } := by
  induction count with
  | zero => rfl
  | succ count ih => rw [looked, calls_call, ih, CallCounts.record, Nat.add_assoc]

end Simulator

/-! ## The gates -/

section Gates

variable {polling : PollingConfig} {label : String} {id : ResourceId} {base : Holding}
  {script : Script} {g : Solitude}

/-- The gate for the start opens at the first look that shows something. -/
theorem assures_cycleStarted_alone (holding : g.vendor.holding id = base.played script 0) :
    (awaitStage polling .transactionsStarted label {} (transactionsStarted id)).Assures .alone
      (fun tracker g' => ∃ i, script.entries.findIdx? (·.isSome) = some i ∧
        i + 1 ≤ polling.transactionsStarted.attempts ∧ tracker.HasSeen id ∧
        g'.vendor = g.vendor.looked id (i + 1))
      (fun cause g' => (∀ i, script.entries.findIdx? (·.isSome) = some i →
          polling.transactionsStarted.attempts < i + 1) ∧
        cause = .stageTimeout .transactionsStarted label polling.transactionsStarted.maxWaitMs ∧
        g'.vendor = g.vendor.looked id polling.transactionsStarted.attempts)
      g := by
  refine (assures_awaitStage_counted (fun count => (script.entries[count]?.join).isSome)
    (fun count _ g' => g'.vendor = g.vendor.looked id count)
    (fun count tracker g' => tracker.HasSeen id ∧ g'.vendor = g.vendor.looked id (count + 1))
    Surroundings.timed_alone ?_ ?_ {} g rfl).mono ?_ ?_
  · intro count tracker g' ms g'' hlooked passed
    rw [passed]
    exact hlooked
  · intro count tracker g' hlooked
    refine (assures_transactionsStarted_alone id tracker g').mono ?_ fun _ _ h => h
    intro result g'' hresult
    obtain ⟨hholds, hseen, hnow, hvendor⟩ := hresult
    rw [hlooked, Simulator.holding_looked holding, Nat.zero_add, Holding.look_played] at hholds
    rw [hlooked] at hvendor
    refine ⟨hholds, hnow, ?_⟩
    split
    · rename_i hsome
      exact ⟨hseen (hholds.trans hsome), hvendor⟩
    · exact hvendor
  · intro tracker g' hopened
    obtain ⟨count, hcount, hearlier, hsome, hseen, hlooked⟩ := hopened
    cases hfirst : script.entries.findIdx? (·.isSome) with
    | none =>
      rw [shows_none_of_findIdx? hfirst count] at hsome
      cases hsome
    | some i =>
      obtain ⟨hi, hbefore⟩ := shows_of_findIdx? hfirst
      have heq : i = count := by
        rcases Nat.lt_trichotomy i count with hlt | heq | hgt
        · rw [hearlier i hlt] at hi
          cases hi
        · exact heq
        · rw [hbefore count hgt] at hsome
          cases hsome
      rw [← heq] at hcount hlooked
      exact ⟨i, rfl, hcount, hseen, hlooked⟩
  · intro cause g' hranOut
    obtain ⟨hnever, hcause, _, hlooked⟩ := hranOut
    refine ⟨fun i hfirst => ?_, hcause, hlooked⟩
    by_contra hle
    have hi := (shows_of_findIdx? hfirst).1
    rw [hnever i (Nat.lt_of_succ_le (Nat.le_of_not_lt hle))] at hi
    cases hi

/-- The gate for the end opens at the first look after the start that shows
nothing. -/
theorem assures_cycleEnded_alone {i : Nat} {tracker : Tracker} (seen : tracker.HasSeen id)
    (holding : g.vendor.holding id = base.played script (i + 1)) :
    (awaitStage polling .transactionsEnded label tracker (transactionsEnded id)).Assures .alone
      (fun _ g' => cycleEnd script.entries i - i ≤ polling.transactionsEnded.attempts ∧
        g'.vendor = g.vendor.looked id (cycleEnd script.entries i - i))
      (fun cause g' => polling.transactionsEnded.attempts < cycleEnd script.entries i - i ∧
        cause = .stageTimeout .transactionsEnded label polling.transactionsEnded.maxWaitMs ∧
        g'.vendor = g.vendor.looked id polling.transactionsEnded.attempts) g := by
  have hend : i + 1 ≤ cycleEnd script.entries i := Nat.le_add_right _ _
  refine (assures_awaitStage_counted
    (fun count => (script.entries[i + 1 + count]?.join).isNone)
    (fun count tracker g' => tracker.HasSeen id ∧ g'.vendor = g.vendor.looked id count)
    (fun count _ g' => g'.vendor = g.vendor.looked id (count + 1))
    Surroundings.timed_alone ?_ ?_ tracker g ⟨seen, rfl⟩).mono ?_ ?_
  · intro count tracker g' ms g'' hbefore passed
    rw [passed]
    exact hbefore
  · intro count tracker g' hbefore
    obtain ⟨hseen, hlooked⟩ := hbefore
    refine (assures_transactionsEnded_alone id hseen g').mono ?_ fun _ _ h => h
    intro result g'' hresult
    obtain ⟨hholds, hseen', hnow, hvendor⟩ := hresult
    rw [hlooked, Simulator.holding_looked holding, Holding.look_played] at hholds
    rw [hlooked] at hvendor
    refine ⟨hholds, hnow, ?_⟩
    split
    · exact hvendor
    · rename_i hsome
      exact ⟨hseen' (hholds.trans (Bool.eq_false_iff.mpr hsome)), hvendor⟩
  · intro _ g' hopened
    obtain ⟨count, hcount, hearlier, hnone, hlooked⟩ := hopened
    have hcount : count < polling.transactionsEnded.attempts := hcount
    have heq : i + 1 + count = cycleEnd script.entries i := by
      rcases Nat.lt_trichotomy (i + 1 + count) (cycleEnd script.entries i) with hlt | heq | hgt
      · rw [shows_of_lt_cycleEnd hlt] at hnone
        cases hnone
      · exact heq
      · have hbefore := hearlier (cycleEnd script.entries i - (i + 1)) (by omega)
        rw [Nat.add_sub_cancel' hend, shows_none_at_cycleEnd] at hbefore
        cases hbefore
    have hlooks : cycleEnd script.entries i - i = count + 1 := by omega
    rw [hlooks]
    exact ⟨hcount, hlooked⟩
  · intro cause g' hranOut
    obtain ⟨hnever, hcause, _, -, hlooked⟩ := hranOut
    refine ⟨?_, hcause, hlooked⟩
    by_contra hle
    have hlast := hnever (cycleEnd script.entries i - (i + 1)) (by
      show _ < polling.transactionsEnded.attempts
      omega)
    rw [Nat.add_sub_cancel' hend, shows_none_at_cycleEnd] at hlast
    cases hlast

/-- What the wait for a cycle comes to whose feed shows these entries, and after how
many looks. -/
def awaitedCycle (polling : PollingConfig) (label : String) (entries : List (Option Transaction)) :
    Except Error Unit × Nat :=
  let timeout (stage : Stage) : Except Error Unit :=
    .error (.stageTimeout stage label (polling.policy stage).maxWaitMs)
  let never := (timeout .transactionsStarted, polling.transactionsStarted.attempts)
  match entries.findIdx? (·.isSome) with
  | none => never
  | some i =>
    if polling.transactionsStarted.attempts < i + 1 then never
    else if polling.transactionsEnded.attempts < cycleEnd entries i - i then
      (timeout .transactionsEnded, i + 1 + polling.transactionsEnded.attempts)
    else (.ok (), cycleEnd entries i + 1)

/-- A wait for a cycle looks at least once. -/
theorem awaitedCycle_pos (polling : PollingConfig) (label : String)
    (entries : List (Option Transaction)) : 0 < (awaitedCycle polling label entries).2 := by
  have hpos : 0 < polling.transactionsStarted.attempts := by
    unfold StagePolicy.attempts
    omega
  unfold awaitedCycle
  cases entries.findIdx? (·.isSome) with
  | none => exact hpos
  | some i =>
    dsimp only
    split
    · exact hpos
    · split
      · exact Nat.lt_of_lt_of_le (Nat.succ_pos i) (Nat.le_add_right _ _)
      · exact Nat.succ_pos _

/-- The wait for a cycle plays the script of its resource. -/
theorem assures_awaitCycle_alone (holding : g.vendor.holding id = base.played script 0) :
    (awaitCycle polling label id).Assures .alone
      (fun _ g' => (awaitedCycle polling label script.entries).1 = .ok () ∧
        g'.vendor = g.vendor.looked id (awaitedCycle polling label script.entries).2)
      (fun cause g' => (awaitedCycle polling label script.entries).1 = .error cause ∧
        g'.vendor = g.vendor.looked id (awaitedCycle polling label script.entries).2) g := by
  simp only [awaitCycle, Procedure.assures_bind]
  unfold awaitedCycle
  refine (assures_cycleStarted_alone holding).mono ?_ ?_
  case refine_2 =>
    intro cause g₁ hstopped
    obtain ⟨hlate, rfl, hlooked⟩ := hstopped
    cases hfirst : script.entries.findIdx? (·.isSome) with
    | none => exact ⟨rfl, hlooked⟩
    | some i =>
      dsimp only
      rw [if_pos (hlate i hfirst)]
      exact ⟨rfl, hlooked⟩
  intro tracker g₁ hstarted
  obtain ⟨i, hfirst, hi, seen, hlooked⟩ := hstarted
  have holding₁ : g₁.vendor.holding id = base.played script (i + 1) := by
    rw [hlooked, Simulator.holding_looked holding, Nat.zero_add]
  rw [hfirst]
  dsimp only
  rw [if_neg (by omega)]
  refine (assures_cycleEnded_alone seen holding₁).mono ?_ ?_
  · intro _ g₂ hended
    obtain ⟨hj, hlooked₂⟩ := hended
    have hend : i + 1 ≤ cycleEnd script.entries i := Nat.le_add_right _ _
    rw [if_neg (by omega)]
    refine ⟨rfl, ?_⟩
    rw [hlooked₂, hlooked, Simulator.looked_looked]
    congr 1
    omega
  · intro cause g₂ hstopped
    obtain ⟨hlate, rfl, hlooked₂⟩ := hstopped
    rw [if_pos hlate]
    refine ⟨rfl, ?_⟩
    rw [hlooked₂, hlooked, Simulator.looked_looked]

end Gates

end Provisioning
