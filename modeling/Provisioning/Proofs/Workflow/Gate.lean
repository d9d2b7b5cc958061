import Provisioning.Proofs.Workflow.Journal
import Provisioning.Workflow.Probe

/-!
# Gates

A stage of a workflow is a gate: it is looked at until it opens, and then the
next stage begins.  A gate that is not open when its wait is over ran out.
`assures_awaitStage` says what is seen of a gate whose look is a single call,
against any vendor, and `assures_transactionsStarted`,
`assures_transactionsEnded` and `assures_loginDetailsPresent` are the looks of
the three gates of that kind.

The tracker that the two transaction gates share enters through one fact: the
gate for the start hands on a tracker that has seen the resource, and then the
gate for the end opens at the first look that finds nothing active.
-/

namespace Provisioning

variable {α σ : Type}

/-! ## Looks -/

/-- No exchange is a failure. -/
def Unfailing (exchanges : List Exchange) : Prop :=
  ∀ x ∈ exchanges, ∀ cause, x.answer ≠ .error cause

theorem unfailing_nil : Unfailing [] :=
  fun _ h => absurd h List.not_mem_nil

theorem unfailing_singleton {x : Exchange} {reply : x.call.Reply} (h : x.answer = .ok reply) :
    Unfailing [x] := by
  intro y hy cause
  rw [List.mem_singleton.mp hy, h]
  nofun

theorem Unfailing.append {xs ys : List Exchange} (hxs : Unfailing xs) (hys : Unfailing ys) :
    Unfailing (xs ++ ys) := by
  intro x hx
  rcases List.mem_append.mp hx with hx | hx
  · exact hxs x hx
  · exact hys x hx

/-- A failed call is the last one, and its error is the result. -/
def EndsAtFailure (exchanges : List Exchange) (result : Except Error α) : Prop :=
  ∀ earlier x later cause, exchanges = earlier ++ x :: later → x.answer = .error cause →
    later = [] ∧ result = .error cause

theorem Unfailing.endsAtFailure {exchanges : List Exchange} (h : Unfailing exchanges)
    (result : Except Error α) : EndsAtFailure exchanges result := by
  rintro earlier x later cause rfl failed
  exact absurd failed (h x (by simp) cause)

/-- Only the last call failed. -/
theorem Unfailing.endsAtFailure_append {exchanges : List Exchange} (h : Unfailing exchanges)
    {last : Exchange} {cause : Error} (failed : last.answer = .error cause) :
    EndsAtFailure (exchanges ++ [last]) (.error cause : Except Error α) := by
  intro earlier x later cause' heq hx
  rcases List.eq_nil_or_concat later with rfl | ⟨later', y, rfl⟩
  · obtain ⟨-, rfl⟩ := List.append_inj' heq rfl |>.imp id List.singleton_inj.mp
    rw [failed] at hx
    cases hx
    exact ⟨rfl, rfl⟩
  · rw [List.concat_eq_append, ← List.cons_append, ← List.append_assoc] at heq
    obtain ⟨rfl, -⟩ := List.append_inj' heq rfl
    exact absurd hx (h x (by simp) cause')

/-- Calls that did not fail may come before. -/
theorem Unfailing.endsAtFailure_of_append {xs ys : List Exchange} {result : Except Error α}
    (hxs : Unfailing xs) (h : EndsAtFailure ys result) : EndsAtFailure (xs ++ ys) result := by
  intro earlier x later cause heq failed
  rcases List.append_eq_append_iff.mp heq with ⟨between, hearlier, hys⟩ | ⟨between, hxs', hys⟩
  · exact h between x later cause hys failed
  · cases between with
    | nil => exact h [] x later cause hys.symm failed
    | cons y between =>
      obtain ⟨rfl, -⟩ := List.cons.inj hys
      exact absurd failed (hxs x (by simp [hxs']) cause)

/-- A look tells what its calls were answered: it fails with the last of them,
and only with that one. -/
def Look.Tells (look : Look) : Prop :=
  (∀ open?, look.holds = .ok open? → Unfailing look.exchanges) ∧
    ∀ cause, look.holds = .error cause → ∃ earlier last, look.exchanges = earlier ++ [last] ∧
      Unfailing earlier ∧ last.answer = .error cause

/-- The gate opened at the last look. -/
def Opened (looks : List Look) : Prop :=
  ∃ missed last, looks = missed ++ [last] ∧ (∀ look ∈ missed, look.holds = .ok false) ∧
    last.holds = .ok true

/-- The gate was looked at and never opened. -/
def RanOut (looks : List Look) : Prop :=
  looks ≠ [] ∧ ∀ look ∈ looks, look.holds = .ok false

/-- No call of an open gate failed. -/
theorem unfailing_of_opened {looks : List Look} (tells : ∀ look ∈ looks, look.Tells)
    (opened : Opened looks) : Unfailing (looks.flatMap (·.exchanges)) := by
  obtain ⟨missed, last, rfl, hmissed, hlast⟩ := opened
  intro x hx
  obtain ⟨look, hlook, hx⟩ := List.mem_flatMap.mp hx
  rcases List.mem_append.mp hlook with hmem | hmem
  · exact (tells look hlook).1 false (hmissed look hmem) x hx
  · rw [List.mem_singleton.mp hmem] at hx
    exact (tells last (by simp)).1 true hlast x hx

/-- A gate does not both open and run out. -/
theorem Opened.not_ranOut {looks : List Look} (h : Opened looks) : ¬RanOut looks := by
  intro ranOut
  obtain ⟨-, hall⟩ := ranOut
  obtain ⟨missed, last, rfl, -, hlast⟩ := h
  have hfalse := hall last (by simp)
  rw [hlast] at hfalse
  cases hfalse

/-- The looks of a gate are of one kind: they tell what their attempts brought. -/
structure LookKind (Seen : Look → Except Error (Option α) → Prop) : Prop where
  holds : ∀ {look outcome}, Seen look outcome → look.holds = outcome.map Option.isSome
  tells : ∀ {look outcome}, Seen look outcome → look.Tells

section Waits

variable {Seen : Look → Except Error (Option α) → Prop} {maxWaitMs : Nat} {missed : List Look}
  {last : Look} {before after : Journal}

/-- The looks of a wait are looks at its gate. -/
theorem Waited.forall_look {outcome : Except Error (Option α)}
    (h : Waited Seen maxWaitMs missed last outcome before after) {P : Look → Prop}
    (seen : ∀ look outcome, Seen look outcome → P look) : ∀ look ∈ missed ++ [last], P look := by
  intro look hlook
  rcases List.mem_append.mp hlook with hmem | hmem
  · exact seen look _ (h.nothing look hmem)
  · rw [List.mem_singleton.mp hmem]
    exact seen last _ h.decided

theorem Waited.holds_missed (kind : LookKind Seen) {outcome : Except Error (Option α)}
    (h : Waited Seen maxWaitMs missed last outcome before after) :
    ∀ look ∈ missed, look.holds = .ok false :=
  fun look hmem => kind.holds (h.nothing look hmem)

theorem Waited.unfailing_missed (kind : LookKind Seen) {outcome : Except Error (Option α)}
    (h : Waited Seen maxWaitMs missed last outcome before after) :
    Unfailing (missed.flatMap (·.exchanges)) := by
  intro x hx
  obtain ⟨look, hmem, hx⟩ := List.mem_flatMap.mp hx
  exact (kind.tells (h.nothing look hmem)).1 false (h.holds_missed kind look hmem) x hx

theorem Waited.opened (kind : LookKind Seen) {a : α}
    (h : Waited Seen maxWaitMs missed last (.ok (some a)) before after) :
    Opened (missed ++ [last]) :=
  ⟨missed, last, rfl, h.holds_missed kind, kind.holds h.decided⟩

theorem Waited.ranOut (kind : LookKind Seen)
    (h : Waited Seen maxWaitMs missed last (.ok none) before after) :
    RanOut (missed ++ [last]) := by
  refine ⟨by simp, fun look hmem => ?_⟩
  rcases List.mem_append.mp hmem with hmem | hmem
  · exact h.holds_missed kind look hmem
  · rw [List.mem_singleton.mp hmem]
    exact kind.holds h.decided

/-- A wait begins with its first call. -/
theorem Waited.begun_exchanges {outcome : Except Error (Option α)}
    (h : Waited Seen maxWaitMs missed last outcome before after) :
    (((missed ++ [last]).flatMap (·.exchanges)).map (·.time)).head? = some before.now := by
  obtain ⟨first, rest, hlooks⟩ := List.exists_cons_of_ne_nil
    (show missed ++ [last] ≠ [] by simp)
  have hfirst := h.begun first (by rw [hlooks]; rfl)
  rw [hlooks, List.flatMap_cons, List.map_append, List.head?_append]
  rw [Look.times] at hfirst
  rw [hfirst]
  rfl

/-- A wait that does not fail has no failed call. -/
theorem Waited.unfailing (kind : LookKind Seen) {found : Option α}
    (h : Waited Seen maxWaitMs missed last (.ok found) before after) :
    Unfailing ((missed ++ [last]).flatMap (·.exchanges)) := by
  rw [List.flatMap_append, List.flatMap_singleton]
  exact (h.unfailing_missed kind).append
    ((kind.tells h.decided).1 found.isSome (kind.holds h.decided))

/-- A wait that fails does so with its last call, and no call before failed. -/
theorem Waited.failed (kind : LookKind Seen) {cause : Error}
    (h : Waited Seen maxWaitMs missed last (.error cause) before after) :
    ∃ earlier x, (missed ++ [last]).flatMap (·.exchanges) = earlier ++ [x] ∧
      Unfailing earlier ∧ x.answer = .error cause := by
  obtain ⟨earlier, x, hlast, hearlier, hx⟩ := (kind.tells h.decided).2 cause (kind.holds h.decided)
  refine ⟨missed.flatMap (·.exchanges) ++ earlier, x, ?_, ?_, hx⟩
  · rw [List.flatMap_append, List.flatMap_singleton, hlast, List.append_assoc]
  · exact (h.unfailing_missed kind).append hearlier

end Waits

/-! ## Gates with a single call -/

/-- A look that is one call, and holds when the reply satisfies a condition. -/
inductive ProbeLook (call : Call) (condition : call.Reply → Bool) :
    Look → Except Error (Option Unit) → Prop where
  | failed (time : Nat) (cause : Error) :
    ProbeLook call condition ⟨[⟨time, call, .error cause⟩], .error cause⟩ (.error cause)
  | answered (time : Nat) (reply : call.Reply) :
    ProbeLook call condition ⟨[⟨time, call, .ok reply⟩], .ok (condition reply)⟩
      (.ok (if condition reply then some () else none))

theorem ProbeLook.kind (call : Call) (condition : call.Reply → Bool) :
    LookKind (ProbeLook call condition) where
  holds := by
    rintro _ _ (⟨time, cause⟩ | ⟨time, reply⟩)
    · rfl
    · cases h : condition reply <;> simp [Except.map]
  tells := by
    rintro _ _ (⟨time, cause⟩ | ⟨time, reply⟩)
    · refine ⟨nofun, ?_⟩
      intro _ h
      cases h
      exact ⟨[], _, rfl, unfailing_nil, rfl⟩
    · exact ⟨fun _ _ => unfailing_singleton rfl, nofun⟩

/-- The last look of an open gate with a single call. -/
theorem getLast?_of_opened {call : Call} {condition : call.Reply → Bool} {looks : List Look}
    (seen : ∀ look ∈ looks, ∃ outcome, ProbeLook call condition look outcome)
    (opened : Opened looks) :
    ∃ time reply, condition reply = true ∧
      (looks.flatMap (·.exchanges)).getLast? = some ⟨time, call, .ok reply⟩ := by
  obtain ⟨missed, last, rfl, -, hlast⟩ := opened
  obtain ⟨outcome, hseen⟩ := seen last (by simp)
  rcases hseen with ⟨time, cause⟩ | ⟨time, reply⟩
  · cases hlast
  · exact ⟨time, reply, Except.ok.inj hlast, by simp⟩

/-- What is seen of a gate when it is over: it opened, a call failed, or it ran
out. -/
theorem assures_awaitStage {polling : PollingConfig} {stage : Stage} {label : String}
    {probe : Tracker → Procedure (Tracker × Bool)} (call : Call) (condition : call.Reply → Bool)
    (Ready Done : Tracker → Prop)
    (probes : ∀ tracker j, Ready tracker →
      (probe tracker).Assures .anyVendor
        (fun result j' => ∃ reply, j'.exchanges = j.exchanges ++ [⟨j.now, call, .ok reply⟩] ∧
          result.2 = condition reply ∧ if condition reply then Done result.1 else Ready result.1)
        (fun cause j' => j'.exchanges = j.exchanges ++ [⟨j.now, call, .error cause⟩]) j)
    {tracker : Tracker} (ready : Ready tracker) (j : Journal) :
    (awaitStage polling stage label tracker probe).Assures .anyVendor
      (fun tracker' j' => Done tracker' ∧ ∃ missed last, Waited (ProbeLook call condition)
        (polling.policy stage).maxWaitMs missed last (.ok (some ())) j j')
      (fun cause j' => ∃ missed last outcome,
        Waited (ProbeLook call condition) (polling.policy stage).maxWaitMs missed last outcome
          j j' ∧
          (outcome = .error cause ∨ outcome = .ok none ∧
            cause = .stageTimeout stage label (polling.policy stage).maxWaitMs)) j := by
  simp only [awaitStage, awaitCondition_eq, Procedure.assures_bind]
  refine (assures_pollUntil_wait (polling.policy stage) _ (ProbeLook call condition) Ready Done ?_
    tracker ready j).mono ?_ ?_
  · intro state j' ready'
    rw [Procedure.assures_bind]
    refine (probes state j' ready').mono ?_ ?_
    · intro result j'' h
      obtain ⟨state', holds⟩ := result
      obtain ⟨reply, hexchanges, rfl, hstate⟩ := h
      refine ⟨_, ⟨hexchanges, rfl⟩, .answered j'.now reply, ?_, ?_⟩
      · intro hnone
        cases h : condition reply <;> simp_all
      · intro hsome
        cases h : condition reply <;> simp_all
    · intro cause j'' hexchanges
      exact ⟨_, ⟨hexchanges, rfl⟩, .failed j'.now cause⟩
  · intro result j' h
    obtain ⟨tracker', found⟩ := result
    obtain ⟨hdone, missed, last, wait⟩ := h
    cases found with
    | none =>
      simp only [Procedure.assures_pure, Option.isSome_none, Bool.false_eq_true, if_false,
        Procedure.assures_throw]
      exact ⟨missed, last, _, wait, .inr ⟨rfl, trivial⟩⟩
    | some _ =>
      simp only [Procedure.assures_pure, Option.isSome_some, if_true]
      exact ⟨hdone (by simp), missed, last, wait⟩
  · intro cause j' h
    obtain ⟨missed, last, wait⟩ := h
    exact ⟨missed, last, _, wait, .inl rfl⟩

/-! ## The probes -/

/-- A tracker that has seen the resource. -/
def Tracker.HasSeen (tracker : Tracker) (id : ResourceId) : Prop :=
  (tracker.last? id).isSome = true

namespace Tracker

theorem hasSeen_put (lastSeen : Lookup ResourceId Transaction) (id : ResourceId)
    (active : Transaction) : HasSeen ⟨lastSeen.put id active⟩ id := by
  simp [HasSeen, last?, Lookup.find?_put]

theorem started_holds (tracker : Tracker) (id : ResourceId) (active : Option Transaction) :
    (tracker.started id active).2.1 = active.isSome := by
  cases active <;> rfl

/-- The look that finds a start leaves a tracker that has seen the resource. -/
theorem hasSeen_started (tracker : Tracker) (id : ResourceId) (active : Transaction) :
    (tracker.started id (some active)).1.HasSeen id := by
  simp only [started]
  cases h : tracker.last? id with
  | none => exact hasSeen_put _ _ _
  | some previous => simp [HasSeen, h]

/-- Once the resource was seen, its cycle is over as soon as none is active. -/
theorem ended_holds {tracker : Tracker} {id : ResourceId} (h : tracker.HasSeen id)
    (active : Option Transaction) : (tracker.ended id active).2.1 = active.isNone := by
  cases active with
  | some active => rfl
  | none =>
    obtain ⟨previous, hprevious⟩ := Option.isSome_iff_exists.mp h
    simp [ended, hprevious]

theorem hasSeen_ended (tracker : Tracker) (id : ResourceId) (active : Transaction) :
    (tracker.ended id (some active)).1.HasSeen id :=
  hasSeen_put _ _ _

end Tracker

theorem assures_transactionsStarted (id : ResourceId) (tracker : Tracker) (j : Journal) :
    (transactionsStarted id tracker).Assures .anyVendor
      (fun result j' => ∃ reply,
        j'.exchanges = j.exchanges ++ [⟨j.now, .activeTransaction id, .ok reply⟩] ∧
          result.2 = reply.isSome ∧ if reply.isSome then result.1.HasSeen id else True)
      (fun cause j' => j'.exchanges = j.exchanges ++ [⟨j.now, .activeTransaction id, .error cause⟩])
      j := by
  simp only [transactionsStarted, Procedure.assures_bind, Procedure.assures_liftM,
    Workflow.assures_notifyAll, Procedure.assures_pure]
  refine (Procedure.assures_request _ _ _).mpr ⟨trivial, ?_, ?_⟩
  · intro reply _ answered
    obtain ⟨delay, rfl⟩ := answered
    refine ⟨reply, rfl, tracker.started_holds id reply, ?_⟩
    cases reply with
    | none => trivial
    | some active => exact tracker.hasSeen_started id active
  · intro cause _ answered
    obtain ⟨delay, rfl⟩ := answered
    rfl

theorem assures_transactionsEnded (id : ResourceId) (tracker : Tracker) (j : Journal)
    (seen : tracker.HasSeen id) :
    (transactionsEnded id tracker).Assures .anyVendor
      (fun result j' => ∃ reply,
        j'.exchanges = j.exchanges ++ [⟨j.now, .activeTransaction id, .ok reply⟩] ∧
          result.2 = reply.isNone ∧ if reply.isNone then True else result.1.HasSeen id)
      (fun cause j' => j'.exchanges = j.exchanges ++ [⟨j.now, .activeTransaction id, .error cause⟩])
      j := by
  simp only [transactionsEnded, Procedure.assures_bind, Procedure.assures_liftM,
    Workflow.assures_notifyAll, Procedure.assures_pure]
  refine (Procedure.assures_request _ _ _).mpr ⟨trivial, ?_, ?_⟩
  · intro reply _ answered
    obtain ⟨delay, rfl⟩ := answered
    refine ⟨reply, rfl, Tracker.ended_holds seen reply, ?_⟩
    cases reply with
    | none => trivial
    | some active => exact tracker.hasSeen_ended id active
  · intro cause _ answered
    obtain ⟨delay, rfl⟩ := answered
    rfl

/-- The probe for login details, as a stage asks it. -/
theorem assures_loginDetailsPresent (id : ResourceId) (tracker : Tracker) (j : Journal) :
    Procedure.Assures .anyVendor (do return (tracker, ← loginDetailsPresent id))
      (fun result j' => ∃ reply,
        j'.exchanges = j.exchanges ++ [⟨j.now, .getResource id, .ok reply⟩] ∧
          result.2 = reply.any (·.hasLoginDetails) ∧
            if reply.any (·.hasLoginDetails) then True else True)
      (fun cause j' => j'.exchanges = j.exchanges ++ [⟨j.now, .getResource id, .error cause⟩])
      j := by
  simp only [loginDetailsPresent, Procedure.assures_bind, Procedure.assures_pure]
  refine (Procedure.assures_request _ _ _).mpr ⟨trivial, ?_, ?_⟩
  · intro reply _ answered
    obtain ⟨delay, rfl⟩ := answered
    exact ⟨reply, rfl, rfl, by simp⟩
  · intro cause _ answered
    obtain ⟨delay, rfl⟩ := answered
    rfl

end Provisioning
