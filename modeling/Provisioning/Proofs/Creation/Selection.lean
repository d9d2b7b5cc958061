import Provisioning.Proofs.Creation.Discovery
import Provisioning.Proofs.Creation.Placement

/-!
# The resource that a discovery picks

The vendor sees a discovery as rounds: a check of the order, and after an
approval a listing.  Approvals and listings may change from round to round, so
which resource is picked is a question about all of them.
`awaitDiscovery_picks` answers it for every receipt and every vendor: the rounds
before the last one found nothing, and what is found is the first resource of
the last listing that the receipt is about.

Which resources these are is said by `OrderReceipt.Wants`, without the search
of the program; `OrderReceipt.findIn_eq_some_iff` and
`OrderReceipt.findIn_eq_none_iff` compare the two.
-/

namespace Provisioning

variable {σ : Type} {receipt : OrderReceipt}

/-! ## The wanted resource -/

/-- The resources that a receipt is about.  Only the first echo counts, and with
an echo the hostname does not. -/
def OrderReceipt.Wants (receipt : OrderReceipt) (r : Resource) : Prop :=
  match receipt.resources with
  | echoed :: _ => r.id = echoed.id
  | [] => r.hostname = receipt.order.resource.hostname

/-- The first listed resource that a receipt is about. -/
def OrderReceipt.Picks (receipt : OrderReceipt) (listed : List Resource) (r : Resource) : Prop :=
  ∃ before after, listed = before ++ r :: after ∧ receipt.Wants r ∧
    ∀ other ∈ before, ¬receipt.Wants other

theorem OrderReceipt.isFor_iff {r : Resource} : receipt.isFor r = true ↔ receipt.Wants r := by
  unfold isFor Wants
  cases receipt.resources <;> exact beq_iff_eq

theorem OrderReceipt.findIn_eq_some_iff {listed : List Resource} {r : Resource} :
    receipt.findIn listed = some r ↔ receipt.Picks listed r := by
  rw [findIn_eq, List.find?_eq_some_iff_append, isFor_iff]
  constructor
  · rintro ⟨wanted, before, after, split, unwanted⟩
    refine ⟨before, after, split, wanted, fun other mem wanted' => ?_⟩
    have := unwanted other mem
    rw [isFor_iff.mpr wanted'] at this
    cases this
  · rintro ⟨before, after, split, wanted, unwanted⟩
    refine ⟨wanted, before, after, split, fun other mem => ?_⟩
    rw [Bool.not_eq_true', Bool.eq_false_iff]
    exact fun h => unwanted other mem (isFor_iff.mp h)

theorem OrderReceipt.findIn_eq_none_iff {listed : List Resource} :
    receipt.findIn listed = none ↔ ∀ r ∈ listed, ¬receipt.Wants r := by
  simp only [findIn_eq, List.find?_eq_none, isFor_iff]

/-! ## Rounds -/

/-- A round of a discovery: the check of the order, and a listing if there was
one, each with its time and its answer. -/
structure DiscoveryRound where
  checkedAt : Nat
  check : Except Error BillingOrder
  listing : Option (Nat × Except Error (List Resource))

namespace DiscoveryRound

/-- The calls of a round. -/
def exchanges (receipt : OrderReceipt) (round : DiscoveryRound) : List Exchange :=
  ⟨round.checkedAt, .billingOrder receipt.orderId, round.check⟩ ::
    match round.listing with
    | none => []
    | some (time, answer) => [⟨time, .listResources, answer⟩]

/-- The check of the round found the order approved. -/
def Approved (round : DiscoveryRound) : Prop :=
  ∃ order, round.check = .ok order ∧ order.status = .approved

/-- The round found this resource: its order was approved, and the resource is
the first one of its listing that the receipt is about. -/
def Finds (receipt : OrderReceipt) (round : DiscoveryRound) (r : Resource) : Prop :=
  round.Approved ∧ ∃ time listed, round.listing = some (time, .ok listed) ∧
    receipt.Picks listed r

/-- The round came to its end without a wanted resource: no call failed, and
nothing in a listing was wanted. -/
def FindsNothing (receipt : OrderReceipt) (round : DiscoveryRound) : Prop :=
  (∃ order, round.check = .ok order) ∧
    ∀ time answer, round.listing = some (time, answer) →
      ∃ listed, answer = .ok listed ∧ ∀ r ∈ listed, ¬receipt.Wants r

/-- A call of the round failed. -/
def Fails (round : DiscoveryRound) (cause : Error) : Prop :=
  round.check = .error cause ∨ ∃ time, round.listing = some (time, .error cause)

/-- What a round brought, with its listing made exactly if it was approved. -/
structure Brings (receipt : OrderReceipt) (round : DiscoveryRound)
    (outcome : Except Error (Option Resource)) : Prop where
  gated : round.listing.isSome = true ↔ round.Approved
  found : ∀ r, outcome = .ok (some r) ↔ round.Finds receipt r
  nothing : outcome = .ok none → round.FindsNothing receipt
  failed : ∀ cause, outcome = .error cause → round.Fails cause

end DiscoveryRound

open DiscoveryRound in
theorem DiscoveryLook.exists_round {look : Look} {outcome : Except Error (Option Resource)}
    (seen : DiscoveryLook receipt look outcome) :
    ∃ round : DiscoveryRound, look.exchanges = round.exchanges receipt ∧
      round.Brings receipt outcome := by
  cases seen with
  | unchecked time cause =>
    have refused : ¬Approved ⟨time, .error cause, none⟩ := by rintro ⟨_, ⟨⟩, _⟩
    refine ⟨⟨time, .error cause, none⟩, rfl, ?_, fun r => ?_, nofun, ?_⟩
    · exact ⟨nofun, fun h => absurd h refused⟩
    · exact ⟨nofun, fun h => absurd h.1 refused⟩
    · rintro _ ⟨⟩
      exact .inl rfl
  | pending time order notApproved =>
    have refused : ¬Approved ⟨time, .ok order, none⟩ := by
      rintro ⟨_, ⟨⟩, approved⟩
      exact notApproved approved
    refine ⟨⟨time, .ok order, none⟩, rfl, ?_, fun r => ?_, fun _ => ⟨⟨order, rfl⟩, nofun⟩, nofun⟩
    · exact ⟨nofun, fun h => absurd h refused⟩
    · exact ⟨nofun, fun h => absurd h.1 refused⟩
  | unlisted time time' order approved cause =>
    refine ⟨⟨time, .ok order, some (time', .error cause)⟩, rfl, ?_, fun r => ?_, nofun, ?_⟩
    · exact ⟨fun _ => ⟨order, rfl, approved⟩, fun _ => rfl⟩
    · exact ⟨nofun, by rintro ⟨_, _, _, ⟨⟩, _⟩⟩
    · rintro _ ⟨⟩
      exact .inr ⟨time', rfl⟩
  | listed time time' order approved resources =>
    refine ⟨⟨time, .ok order, some (time', .ok resources)⟩, rfl, ?_, fun r => ?_, ?_, nofun⟩
    · exact ⟨fun _ => ⟨order, rfl, approved⟩, fun _ => rfl⟩
    · rw [Except.ok.injEq, OrderReceipt.findIn_eq_some_iff]
      constructor
      · exact fun picks => ⟨⟨order, rfl, approved⟩, time', resources, rfl, picks⟩
      · rintro ⟨_, _, _, ⟨⟩, picks⟩
        exact picks
    · intro hnone
      rw [Except.ok.injEq, OrderReceipt.findIn_eq_none_iff] at hnone
      refine ⟨⟨order, rfl⟩, ?_⟩
      rintro _ _ ⟨⟩
      exact ⟨resources, rfl, hnone⟩

/-- Looks that brought nothing are rounds that found nothing. -/
theorem DiscoveryLook.exists_rounds {looks : List Look}
    (nothing : ∀ look ∈ looks, DiscoveryLook receipt look (.ok none)) :
    ∃ rounds : List DiscoveryRound,
      looks.flatMap (·.exchanges) = rounds.flatMap (·.exchanges receipt) ∧
        ∀ round ∈ rounds, round.Brings receipt (.ok none) := by
  induction looks with
  | nil => exact ⟨[], rfl, fun _ h => absurd h List.not_mem_nil⟩
  | cons look rest ih =>
    obtain ⟨rounds, calls, brings⟩ := ih fun l hl => nothing l (List.mem_cons_of_mem _ hl)
    obtain ⟨round, call, brought⟩ := (nothing look List.mem_cons_self).exists_round
    refine ⟨round :: rounds, ?_, ?_⟩
    · rw [List.flatMap_cons, List.flatMap_cons, call, calls]
    · exact List.forall_mem_cons.mpr ⟨brought, brings⟩

/-! ## The choice -/

/-- A discovery that is over.  Its calls are those of its rounds, none of which
reads the directory without an approval; the last round decides, and it is the
first one that found a wanted resource if there is one. -/
structure Discovered (policy : StagePolicy) (receipt : OrderReceipt)
    (missed : List DiscoveryRound) (last : DiscoveryRound) (result : Except Error Resource)
    (before after : Journal) : Prop where
  calls : after.exchanges =
    before.exchanges ++ (missed ++ [last]).flatMap (·.exchanges receipt)
  gated : ∀ round ∈ missed ++ [last], round.listing.isSome = true ↔ round.Approved
  nothing : ∀ round ∈ missed, round.FindsNothing receipt
  found : ∀ r, result = .ok r ↔ last.Finds receipt r
  stopped : ∀ cause, result = .error cause → last.Fails cause ∨
    last.FindsNothing receipt ∧ before.now + policy.maxWaitMs ≤ after.now ∧ cause =
      .stageTimeout .orderApproved receipt.order.resource.hostname policy.maxWaitMs

/-- The wait for a resource, seen as rounds. -/
theorem Waited.exists_rounds {policy : StagePolicy} {missed : List Look} {last : Look}
    {outcome : Except Error (Option Resource)} {before after : Journal}
    (wait : Waited (DiscoveryLook receipt) policy.maxWaitMs missed last outcome before after)
    {result : Except Error Resource} (found : ∀ r, result = .ok r ↔ outcome = .ok (some r))
    (stopped : ∀ cause, result = .error cause → outcome = .error cause ∨ outcome = .ok none ∧
      cause = .stageTimeout .orderApproved receipt.order.resource.hostname policy.maxWaitMs) :
    ∃ missed last, Discovered policy receipt missed last result before after := by
  obtain ⟨rounds, calls, brings⟩ := DiscoveryLook.exists_rounds wait.nothing
  obtain ⟨round, call, brought⟩ := wait.decided.exists_round
  refine ⟨rounds, round, ?_, ?_, fun r hr => (brings r hr).nothing rfl,
    fun r => (found r).trans (brought.found r), fun cause hcause => ?_⟩
  · rw [wait.exchanges, List.flatMap_append, List.flatMap_append, calls,
      List.flatMap_singleton, List.flatMap_singleton, call]
  · intro r hr
    rcases List.mem_append.mp hr with hr | hr
    · exact (brings r hr).gated
    · rw [List.mem_singleton.mp hr]
      exact brought.gated
  · rcases stopped cause hcause with failed | ⟨nothing, timeout⟩
    · exact .inl (brought.failed cause failed)
    · exact .inr ⟨brought.nothing nothing, wait.spent nothing, timeout⟩

/-- Against any vendor a discovery is a row of rounds, and the resource that it
ends with is the one that the first successful round picked. -/
theorem awaitDiscovery_picks (policy : StagePolicy) (receipt : OrderReceipt) (v : Vendor σ)
    (start : Run σ) :
    ∃ missed last, Discovered policy receipt missed last
      ((awaitDiscovery policy receipt).run.run v start).1 start.journal
      ((awaitDiscovery policy receipt).run.run v start).2.journal := by
  have seen := Workflow.Assures.run_anyVendor v start
    (assures_awaitDiscovery policy receipt start.journal)
  cases result : ((awaitDiscovery policy receipt).run.run v start).1 with
  | ok found =>
    rw [result] at seen
    obtain ⟨missed, last, wait⟩ := seen
    exact wait.exists_rounds (fun r => by simp only [Except.ok.injEq, Option.some.injEq]) nofun
  | error cause =>
    rw [result] at seen
    obtain ⟨missed, last, outcome, wait, stopped⟩ := seen
    refine wait.exists_rounds (fun r => ⟨nofun, ?_⟩) ?_
    · rintro rfl
      rcases stopped with stopped | ⟨stopped, _⟩ <;> cases stopped
    · rintro _ ⟨⟩
      exact stopped

end Provisioning
