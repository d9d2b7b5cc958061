import Provisioning.Proofs.Workflow.Cycle
import Provisioning.Workflow.Destroy

/-!
# The stages of a destruction

A destruction looks its resource up, cancels the billing item that it found
there, once, and then waits for the cycle that takes the resource away.  Billing
that was cancelled cannot be taken back, so what matters is which item is
cancelled and what is known when the destruction says that it is done.

A `DestructionLog` has the calls of a destruction, and `DestructionLog.Follows`
is what holds of it, whatever the vendor answers.  What comes after the
cancellation is a `CycleLog`.
-/

namespace Provisioning

variable {σ : Type}

/-- A cancellation: when it was asked for, of which billing item, and the answer. -/
structure Cancellation where
  time : Nat
  item : Nat
  answer : Except Error Bool

/-- What is seen of a destruction: when its resource was looked up and what was
found, the cancellation if there was one, and the looks at the two gates. -/
structure DestructionLog where
  id : ResourceId
  time : Nat
  found : Except Error (Option Resource)
  cancellation : Option Cancellation := none
  cycle : CycleLog := {}

namespace DestructionLog

/-- The calls that cancel: at most one. -/
def cancellations (log : DestructionLog) : List Exchange :=
  log.cancellation.toList.map fun c => ⟨c.time, .cancelBillingItem c.item, c.answer⟩

/-- All calls in order. -/
def exchanges (log : DestructionLog) : List Exchange :=
  ⟨log.time, .getResource log.id, log.found⟩ :: log.cancellations ++ log.cycle.exchanges

/-- The calls of a destruction that cancelled. -/
theorem exchanges_eq (id : ResourceId) (time : Nat) (found : Except Error (Option Resource))
    (c : Cancellation) (cycle : CycleLog) :
    exchanges ⟨id, time, found, some c, cycle⟩ =
      ⟨time, .getResource id, found⟩ :: ⟨c.time, .cancelBillingItem c.item, c.answer⟩ ::
        cycle.exchanges :=
  rfl

/-- The calls of a destruction that did not come to a cancellation. -/
theorem exchanges_eq_singleton (id : ResourceId) (time : Nat)
    (found : Except Error (Option Resource)) :
    exchanges ⟨id, time, found, none, {}⟩ = [⟨time, .getResource id, found⟩] :=
  rfl

/-- How the timeouts name the resource. -/
def label (log : DestructionLog) : String :=
  match log.found with
  | .ok (some resource) => resource.hostname ++ "(" ++ toString log.id ++ ")"
  | _ => ""

/-- The cancellation was confirmed. -/
def Confirmed (log : DestructionLog) : Prop :=
  ∃ c, log.cancellation = some c ∧ c.answer = .ok true

/-- The log of a destruction that ended with a result. -/
structure Follows (log : DestructionLog) (polling : PollingConfig) (result : Except Error Unit) :
    Prop where
  unknown : log.found = .ok none → result = .ok () ∧ log.cancellation = none
  notBillable : ∀ resource, log.found = .ok (some resource) → resource.billingItemId = none →
    result = .error (.notBillable log.id) ∧ log.cancellation = none
  billable : ∀ resource item, log.found = .ok (some resource) →
    resource.billingItemId = some item → ∃ c, log.cancellation = some c ∧ c.item = item
  cancels : ∀ c, log.cancellation = some c →
    ∃ resource, log.found = .ok (some resource) ∧ resource.billingItemId = some c.item
  refused : ∀ c, log.cancellation = some c → c.answer = .ok false →
    result = .error (.vendor (.notCancelled c.item log.id))
  unconfirmed : ¬log.Confirmed → log.cycle = {}
  confirmed : log.Confirmed → log.cycle.Follows polling log.label log.id result
  success : result = .ok () → log.found ≠ .ok none →
    (∃ time active, ⟨time, .activeTransaction log.id, .ok (some active)⟩ ∈ log.exchanges) ∧
      ∃ time, log.exchanges.getLast? = some ⟨time, .activeTransaction log.id, .ok none⟩
  failure : EndsAtFailure log.exchanges result

variable {polling : PollingConfig} {id : ResourceId} {time : Nat}

/-! ## How a destruction ends -/

/-- A destruction that has nothing to cancel ends with its lookup. -/
theorem follows_of_uncancelled {found : Except Error (Option Resource)} {result : Except Error Unit}
    (unknown : found = .ok none → result = .ok ())
    (notBillable : ∀ resource, found = .ok (some resource) →
      resource.billingItemId = none ∧ result = .error (.notBillable id))
    (failed : ∀ cause, found = .error cause → result = .error cause) :
    Follows ⟨id, time, found, none, {}⟩ polling result where
  unknown hfound := ⟨unknown hfound, rfl⟩
  notBillable resource hfound _ := ⟨(notBillable resource hfound).2, rfl⟩
  billable := by
    intro resource item hfound hitem
    rw [(notBillable resource hfound).1] at hitem
    cases hitem
  cancels := by
    rintro _ ⟨⟩
  refused := by
    rintro _ ⟨⟩
  unconfirmed _ := rfl
  confirmed := by
    rintro ⟨_, hnone, -⟩
    cases hnone
  success := by
    intro hresult hfound
    rcases found with cause | _ | resource
    · rw [failed cause rfl] at hresult
      cases hresult
    · exact absurd rfl hfound
    · rw [(notBillable resource rfl).2] at hresult
      cases hresult
  failure := by
    rw [exchanges_eq_singleton]
    cases found with
    | error cause =>
      rw [failed cause rfl]
      exact unfailing_nil.endsAtFailure_append rfl
    | ok reply => exact (unfailing_singleton rfl).endsAtFailure _

/-- Whatever comes of the cancellation, it is one of the resource's billing item. -/
theorem follows_of_cancelled {resource : Resource} {item time' : Nat}
    (hitem : resource.billingItemId = some item) {answer : Except Error Bool} {cycle : CycleLog}
    {result : Except Error Unit}
    (refused : answer = .ok false → result = .error (.vendor (.notCancelled item id)))
    (unconfirmed : answer ≠ .ok true → cycle = {} ∧ result ≠ .ok ())
    (confirmed : answer = .ok true →
      cycle.Follows polling (resource.hostname ++ "(" ++ toString id ++ ")") id result)
    (failed : ∀ cause, answer = .error cause → result = .error cause) :
    Follows ⟨id, time, .ok (some resource), some ⟨time', item, answer⟩, cycle⟩ polling result := by
  have looked : Unfailing [⟨time, .getResource id, .ok (some resource)⟩] := unfailing_singleton rfl
  refine
    { unknown := nofun
      notBillable := ?_
      billable := ?_
      cancels := ?_
      refused := ?_
      unconfirmed := ?_
      confirmed := ?_
      success := ?_
      failure := ?_ }
  · rintro _ ⟨⟩ hnone
    rw [hitem] at hnone
    cases hnone
  · rintro _ _ ⟨⟩ hsome
    rw [hitem] at hsome
    exact ⟨_, rfl, Option.some.inj hsome⟩
  · rintro _ ⟨⟩
    exact ⟨resource, rfl, hitem⟩
  · rintro _ ⟨⟩ hanswer
    exact refused hanswer
  · intro h
    exact (unconfirmed fun hanswer => h ⟨_, rfl, hanswer⟩).1
  · rintro ⟨_, ⟨⟩, hanswer⟩
    exact confirmed hanswer
  · intro hresult _
    by_cases hanswer : answer = .ok true
    · have follows := confirmed hanswer
      rw [hresult] at follows
      obtain ⟨⟨t, active, hactive⟩, t', hlast⟩ := follows.evidence
      rw [exchanges_eq]
      refine ⟨⟨t, active, by simp [hactive]⟩, t', ?_⟩
      rw [List.getLast?_cons, List.getLast?_cons, hlast]
      rfl
    · exact absurd hresult (unconfirmed hanswer).2
  · rw [exchanges_eq]
    cases answer with
    | error cause =>
      obtain ⟨hcycle, -⟩ := unconfirmed (by simp)
      rw [hcycle, failed cause rfl]
      exact looked.endsAtFailure_append rfl
    | ok done =>
      have looked' : Unfailing ([⟨time, .getResource id, .ok (some resource)⟩] ++
          [⟨time', .cancelBillingItem item, .ok done⟩]) := looked.append (unfailing_singleton rfl)
      cases done with
      | false =>
        obtain ⟨hcycle, -⟩ := unconfirmed (by simp)
        rw [hcycle]
        exact looked'.endsAtFailure _
      | true => exact looked'.endsAtFailure_of_append (confirmed rfl).failure

end DestructionLog

/-! ## The whole destruction -/

/-- What is seen of a destruction: its calls are those of a log. -/
def DestructionSeen (polling : PollingConfig) (id : ResourceId) (before : List Exchange)
    (result : Except Error Unit) (after : List Exchange) : Prop :=
  ∃ log : DestructionLog, log.id = id ∧ log.Follows polling result ∧
    after = before ++ log.exchanges

theorem assures_destroyNode (polling : PollingConfig) (id : ResourceId) (j : Journal) :
    (destroyNode polling id).Assures .anyVendor
      (fun _ j' => DestructionSeen polling id j.exchanges (.ok ()) j'.exchanges)
      (fun cause j' => DestructionSeen polling id j.exchanges (.error cause) j'.exchanges) j := by
  simp only [destroyNode, Procedure.assures_bind]
  refine (Procedure.assures_request _ _ _).mpr ⟨trivial, ?_, ?_⟩
  case refine_2 =>
    intro cause _ answered
    obtain ⟨delay, rfl⟩ := answered
    have follows : DestructionLog.Follows ⟨id, j.now, .error cause, none, {}⟩ polling
        (.error cause) := by
      refine DestructionLog.follows_of_uncancelled ?_ ?_ ?_
      · rintro ⟨⟩
      · rintro _ ⟨⟩
      · rintro _ ⟨⟩
        rfl
    exact ⟨_, rfl, follows, rfl⟩
  intro found _ answered
  obtain ⟨delay, rfl⟩ := answered
  cases found with
  | none =>
    have follows : DestructionLog.Follows ⟨id, j.now, .ok none, none, {}⟩ polling (.ok ()) := by
      refine DestructionLog.follows_of_uncancelled (fun _ => rfl) ?_ ?_
      · rintro _ ⟨⟩
      · rintro _ ⟨⟩
    exact ⟨_, rfl, follows, rfl⟩
  | some resource =>
    dsimp only
    split
    · rename_i hitem
      have follows : DestructionLog.Follows ⟨id, j.now, .ok (some resource), none, {}⟩ polling
          (.error (.notBillable id)) := by
        refine DestructionLog.follows_of_uncancelled ?_ ?_ ?_
        · rintro ⟨⟩
        · rintro _ ⟨⟩
          exact ⟨hitem, rfl⟩
        · rintro _ ⟨⟩
      exact ⟨_, rfl, follows, rfl⟩
    · rename_i item hitem
      rw [Procedure.assures_bind]
      refine (Procedure.assures_request _ _ _).mpr ⟨trivial, ?_, ?_⟩
      case refine_2 =>
        intro cause _ answered
        obtain ⟨delay', rfl⟩ := answered
        have follows : DestructionLog.Follows ⟨id, j.now, .ok (some resource),
            some ⟨j.now + delay, item, .error cause⟩, {}⟩ polling (.error cause) := by
          refine DestructionLog.follows_of_cancelled hitem ?_ (fun _ => ⟨rfl, ?_⟩) ?_ ?_
          · rintro ⟨⟩
          · rintro ⟨⟩
          · rintro ⟨⟩
          · rintro _ ⟨⟩
            rfl
        exact ⟨_, rfl, follows, by simp [DestructionLog.exchanges_eq]⟩
      intro done _ answered
      obtain ⟨delay', rfl⟩ := answered
      cases done with
      | false =>
        have follows : DestructionLog.Follows ⟨id, j.now, .ok (some resource),
            some ⟨j.now + delay, item, .ok false⟩, {}⟩ polling
            (.error (.vendor (.notCancelled item id))) := by
          refine DestructionLog.follows_of_cancelled hitem (fun _ => rfl) (fun _ => ⟨rfl, ?_⟩) ?_ ?_
          · rintro ⟨⟩
          · rintro ⟨⟩
          · rintro _ ⟨⟩
        exact ⟨_, rfl, follows, by simp [DestructionLog.exchanges_eq]⟩
      | true =>
        -- from here on the destruction ends as the wait for the cycle does
        have follows : ∀ cycle result, CycleLog.Follows cycle polling
            (resource.hostname ++ "(" ++ toString id ++ ")") id result →
            DestructionLog.Follows ⟨id, j.now, .ok (some resource),
              some ⟨j.now + delay, item, .ok true⟩, cycle⟩ polling result := by
          intro cycle result h
          refine DestructionLog.follows_of_cancelled hitem ?_ (fun hanswer => absurd rfl hanswer)
            (fun _ => h) ?_
          · rintro ⟨⟩
          · rintro _ ⟨⟩
        simp only [if_true, Procedure.assures_bind, Procedure.assures_liftM, Workflow.notify,
          Workflow.Assures]
        refine (assures_awaitCycle polling _ id _).mono ?_ ?_
        · intro _ j' h
          obtain ⟨cycle, cycleFollows, calls⟩ := h
          refine ⟨_, rfl, follows cycle _ cycleFollows, ?_⟩
          rw [calls]
          simp [DestructionLog.exchanges_eq]
        · intro cause j' h
          obtain ⟨cycle, cycleFollows, calls⟩ := h
          refine ⟨_, rfl, follows cycle _ cycleFollows, ?_⟩
          rw [calls]
          simp [DestructionLog.exchanges_eq]

/-- A destruction makes the calls of its stages and no others, whatever the vendor
answers and however long it takes. -/
theorem destruction_follows_stages (polling : PollingConfig) (id : ResourceId) (v : Vendor σ)
    (start : Run σ) :
    let (result, ended) := (destroyNode polling id).run.run v start
    DestructionSeen polling id start.exchanges result ended.exchanges := by
  have assured : Workflow.Assures .anyVendor (destroyNode polling id).run
      (fun result j => DestructionSeen polling id start.exchanges result j.exchanges)
      start.journal := by
    refine Workflow.Assures.mono (assures_destroyNode polling id start.journal) ?_
    intro result j h
    cases result <;> exact h
  exact assured.run_anyVendor v start

end Provisioning
