import Provisioning.Proofs.Creation.Discovery

/-!
# The log of a creation

The calls of a creation after its order are the looks of the four gates, one
gate after the other, and one call that fetches the finished resource; a
`CreationLog` keeps them apart.  `CreationLog.Follows` is what holds of the log
of a creation that is over.

* Order: a gate is looked at only once all gates before it are open.
* Failure: a failed call is the last one and its error is the result; a gate
  that ran out is the last one and the result is its timeout.
* Success: the last look of every gate shows what the gate is for.

A log grows gate by gate.  `CreationLog.At` is the invariant of that growth: so
many gates are open and nothing is seen yet of the others.
-/

namespace Provisioning

variable {α : Type}

/-- How many stages of a creation come before this one. -/
def Stage.rank : Stage → Nat
  | .orderApproved => 0
  | .transactionsStarted => 1
  | .transactionsEnded => 2
  | .loginDetails => 3

theorem Stage.rank_inj {s s' : Stage} (h : s.rank = s'.rank) : s = s' := by
  cases s <;> cases s' <;> first | rfl | cases h

/-! ## Logs -/

/-- What is seen of a creation from its receipt on: the looks of every gate, the
resource that the first gate found, and when and how the call that fetches it in
the end was answered.  Before the first gate is open `found` says nothing. -/
structure CreationLog where
  receipt : OrderReceipt
  looks : Stage → List Look
  found : Resource
  refetch : Option (Nat × Except Error (Option Resource))

namespace CreationLog

/-- The calls that the looks of a gate took. -/
def exchangesOf (log : CreationLog) (stage : Stage) : List Exchange :=
  (log.looks stage).flatMap (·.exchanges)

/-- The calls that fetch the finished resource: at most one. -/
def refetches (log : CreationLog) : List Exchange :=
  log.refetch.toList.map fun fetched => ⟨fetched.1, .getResource log.found.id, fetched.2⟩

/-- All calls in order. -/
def exchanges (log : CreationLog) : List Exchange :=
  log.exchangesOf .orderApproved ++ log.exchangesOf .transactionsStarted ++
    log.exchangesOf .transactionsEnded ++ log.exchangesOf .loginDetails ++ log.refetches

/-- What the timeout of a stage is about. -/
def label (log : CreationLog) : Stage → String
  | .orderApproved => log.receipt.order.resource.hostname
  | _ => log.found.label

theorem label_of_ne (log : CreationLog) {stage : Stage} (h : stage ≠ .orderApproved) :
    log.label stage = log.found.label := by
  cases stage with
  | orderApproved => exact absurd rfl h
  | _ => rfl

/-- What a look at the gate of a stage is like, and what it brought. -/
def LooksAt (log : CreationLog) : Stage → Look → Prop
  | .orderApproved, look => ∃ outcome, DiscoveryLook log.receipt look outcome
  | .transactionsStarted, look =>
    ∃ outcome, ProbeLook (.activeTransaction log.found.id) Option.isSome look outcome
  | .transactionsEnded, look =>
    ∃ outcome, ProbeLook (.activeTransaction log.found.id) Option.isNone look outcome
  | .loginDetails, look =>
    ∃ outcome, ProbeLook (.getResource log.found.id) (Option.any (·.hasLoginDetails)) look outcome

/-- What a created node rests on: the order was approved and the resource listed
in the last round, a transaction was active and later none was, the resource had
login details, and it is the one that was fetched in the end. -/
structure Supports (log : CreationLog) (node : CreatedNode) : Prop where
  approved : ∃ time time' order listed, order.status = .approved ∧
    log.receipt.findIn listed = some log.found ∧
    (log.exchangesOf .orderApproved).getLast? = some ⟨time', .listResources, .ok listed⟩ ∧
    (log.exchangesOf .orderApproved).dropLast.getLast? =
      some ⟨time, .billingOrder log.receipt.orderId, .ok order⟩
  started : ∃ time active, (log.exchangesOf .transactionsStarted).getLast? =
    some ⟨time, .activeTransaction log.found.id, .ok (some active)⟩
  ended : ∃ time, (log.exchangesOf .transactionsEnded).getLast? =
    some ⟨time, .activeTransaction log.found.id, .ok none⟩
  login : ∃ time resource, resource.hasLoginDetails = true ∧
    (log.exchangesOf .loginDetails).getLast? =
      some ⟨time, .getResource log.found.id, .ok (some resource)⟩
  returned : ∃ time, log.refetch = some (time, .ok (some node.resource))
  credentials : node.resource.credentials = some node.credentials
  nodeId : node.nodeId = toString log.found.id

/-- Why a creation failed after its order was taken. -/
inductive Refuses (log : CreationLog) (polling : PollingConfig) : Error → Prop where
  | failed (x : Exchange) (cause : Error) (last : log.exchanges.getLast? = some x)
      (answer : x.answer = .error cause) : Refuses log polling cause
  | ranOut (stage : Stage) (spent : RanOut (log.looks stage)) :
    Refuses log polling (.stageTimeout stage (log.label stage) (polling.policy stage).maxWaitMs)
  | gone (time : Nat) (fetched : log.refetch = some (time, .ok none)) :
    Refuses log polling (.notFound "resource" (toString log.found.id))
  | lost (time : Nat) (resource : Resource)
      (fetched : log.refetch = some (time, .ok (some resource)))
      (locked : resource.credentials = none) :
    Refuses log polling (.vendor (.lostLoginDetails log.found.label))

/-- The log of a creation that ended at a time with a result. -/
structure Follows (log : CreationLog) (polling : PollingConfig) (ended : Nat)
    (result : Except Error CreatedNode) : Prop where
  looks : ∀ stage, ∀ look ∈ log.looks stage, log.LooksAt stage look
  ordersNothing : ∀ x ∈ log.exchanges, ∀ order, x.call ≠ .submitOrder order
  inOrder : ∀ stage later, stage.rank < later.rank → log.looks later ≠ [] →
    Opened (log.looks stage)
  refetched : log.refetch ≠ none → ∀ stage, Opened (log.looks stage)
  found : Opened (log.looks .orderApproved) → ∃ last,
    (log.looks .orderApproved).getLast? = some last ∧
      DiscoveryLook log.receipt last (.ok (some log.found))
  failure : EndsAtFailure log.exchanges result
  timeout : ∀ stage, RanOut (log.looks stage) →
    result = .error (.stageTimeout stage (log.label stage) (polling.policy stage).maxWaitMs) ∧
      (∃ begun, ((log.exchangesOf stage).map (·.time)).head? = some begun ∧
        begun + (polling.policy stage).maxWaitMs ≤ ended) ∧
      (∀ later, stage.rank < later.rank → log.looks later = []) ∧ log.refetch = none
  success : ∀ node, result = .ok node → log.Supports node
  refusal : ∀ cause, result = .error cause → log.Refuses polling cause

/-- No look orders anything. -/
theorem LooksAt.ne_submitOrder {log : CreationLog} {stage : Stage} {look : Look}
    (h : log.LooksAt stage look) {x : Exchange} (hx : x ∈ look.exchanges) (order : Order) :
    x.call ≠ .submitOrder order := by
  cases stage <;> obtain ⟨outcome, h⟩ := h <;> cases h <;>
    simp only [List.mem_cons, List.not_mem_nil, or_false] at hx
  case orderApproved.unlisted | orderApproved.listed => rcases hx with rfl | rfl <;> nofun
  all_goals
    subst hx
    nofun

theorem ne_submitOrder_of_looks {log : CreationLog}
    (looks : ∀ stage, ∀ look ∈ log.looks stage, log.LooksAt stage look) :
    ∀ x ∈ log.exchanges, ∀ order, x.call ≠ .submitOrder order := by
  have gate : ∀ stage, ∀ x ∈ log.exchangesOf stage, ∀ order, x.call ≠ .submitOrder order := by
    intro stage x hx
    obtain ⟨look, hlook, hx⟩ := List.mem_flatMap.mp hx
    exact (looks stage look hlook).ne_submitOrder hx
  intro x hx
  simp only [exchanges, List.mem_append] at hx
  rcases hx with (((hx | hx) | hx) | hx) | hx
  · exact gate _ x hx
  · exact gate _ x hx
  · exact gate _ x hx
  · exact gate _ x hx
  · obtain ⟨fetched, -, rfl⟩ := List.mem_map.mp hx
    nofun

/-! ## The growth of a log -/

/-- The log of a creation of which the first `count` gates are open and nothing
is seen yet of the others. -/
structure At (log : CreationLog) (count : Nat) : Prop where
  looks : ∀ stage, ∀ look ∈ log.looks stage, log.LooksAt stage look
  opened : ∀ stage, stage.rank < count → Opened (log.looks stage)
  ahead : ∀ stage, count ≤ stage.rank → log.looks stage = []
  refetch : log.refetch = none
  found : 0 < count → ∃ last, (log.looks .orderApproved).getLast? = some last ∧
    DiscoveryLook log.receipt last (.ok (some log.found))

/-- The log with the looks of a gate. -/
def look (log : CreationLog) (stage : Stage) (looks : List Look) : CreationLog :=
  { log with looks := fun s => if s = stage then looks else log.looks s }

/-- The log with the call that fetches the resource. -/
def fetch (log : CreationLog) (time : Nat) (answer : Except Error (Option Resource)) :
    CreationLog :=
  { log with refetch := some (time, answer) }

variable {log : CreationLog} {stage : Stage} {looks : List Look}

theorem looks_look_self : (log.look stage looks).looks stage = looks :=
  if_pos rfl

theorem looks_look_of_ne {s : Stage} (h : s ≠ stage) :
    (log.look stage looks).looks s = log.looks s :=
  if_neg h

/-- The looks of every gate tell what their calls were answered. -/
theorem LooksAt.tells {look : Look} (h : log.LooksAt stage look) : look.Tells := by
  cases stage <;> obtain ⟨outcome, h⟩ := h
  · exact (DiscoveryLook.kind _).tells h
  · exact (ProbeLook.kind _ _).tells h
  · exact (ProbeLook.kind _ _).tells h
  · exact (ProbeLook.kind _ _).tells h

theorem At.unfailing_exchangesOf {count : Nat} (h : log.At count) (stage : Stage) :
    Unfailing (log.exchangesOf stage) := by
  by_cases hrank : stage.rank < count
  · exact unfailing_of_opened (fun look hlook => (h.looks stage look hlook).tells)
      (h.opened stage hrank)
  · rw [exchangesOf, h.ahead stage (by omega)]
    exact unfailing_nil

theorem At.unfailing {count : Nat} (h : log.At count) : Unfailing log.exchanges := by
  have gate : ∀ stage, Unfailing (log.exchangesOf stage) := h.unfailing_exchangesOf
  rw [exchanges, refetches, h.refetch]
  exact ((((gate _).append (gate _)).append (gate _)).append (gate _)).append unfailing_nil

theorem exchangesOf_look_self :
    (log.look stage looks).exchangesOf stage = looks.flatMap (·.exchanges) := by
  rw [exchangesOf, looks_look_self]

theorem exchangesOf_look_of_ne {s : Stage} (h : s ≠ stage) :
    (log.look stage looks).exchangesOf s = log.exchangesOf s := by
  rw [exchangesOf, exchangesOf, looks_look_of_ne h]

/-- The looks of the next gate come after all calls so far. -/
theorem At.exchanges_look (h : log.At stage.rank) :
    (log.look stage looks).exchanges = log.exchanges ++ looks.flatMap (·.exchanges) := by
  have ahead : ∀ s, stage.rank ≤ s.rank → log.exchangesOf s = [] := fun s hs => by
    rw [exchangesOf, h.ahead s hs]
    rfl
  have fetches : (log.look stage looks).refetches = [] ∧ log.refetches = [] := by
    simp [refetches, look, h.refetch]
  rw [exchanges, exchanges, fetches.1, fetches.2]
  cases stage <;>
    simp (disch := decide) [exchangesOf_look_self, exchangesOf_look_of_ne, ahead]

/-- Nothing is seen yet. -/
theorem at_zero (receipt : OrderReceipt) (found : Resource) :
    At ⟨receipt, fun _ => [], found, none⟩ 0 where
  looks _ _ hlook := absurd hlook List.not_mem_nil
  opened _ hrank := absurd hrank (Nat.not_lt_zero _)
  ahead _ _ := rfl
  refetch := rfl
  found hzero := absurd hzero (Nat.lt_irrefl 0)

theorem looksAt_look {s : Stage} {seen : Look} :
    (log.look stage looks).LooksAt s seen ↔ log.LooksAt s seen := by
  cases s <;> rfl

/-- The looks at the next gate are what looks at that gate are. -/
theorem At.looks_look {count : Nat} (h : log.At count)
    (seen : ∀ look ∈ looks, log.LooksAt stage look) :
    ∀ s, ∀ look ∈ (log.look stage looks).looks s, (log.look stage looks).LooksAt s look := by
  intro s look hlook
  rw [looksAt_look]
  by_cases hs : s = stage
  · subst hs
    rw [looks_look_self] at hlook
    exact seen look hlook
  · rw [looks_look_of_ne hs] at hlook
    exact h.looks s look hlook

/-- The next gate is open. -/
theorem At.next (h : log.At stage.rank) (seen : ∀ look ∈ looks, log.LooksAt stage look)
    (opened : Opened looks) (later : stage ≠ .orderApproved) :
    (log.look stage looks).At (stage.rank + 1) where
  looks := h.looks_look seen
  opened := by
    intro s hs
    by_cases heq : s = stage
    · rw [heq, looks_look_self]
      exact opened
    · rw [looks_look_of_ne heq]
      have hne : s.rank ≠ stage.rank := fun hrank => heq (Stage.rank_inj hrank)
      exact h.opened s (by omega)
  ahead := by
    intro s hs
    rw [looks_look_of_ne (by rintro rfl; omega)]
    exact h.ahead s (by omega)
  refetch := h.refetch
  found _ := by
    rw [looks_look_of_ne later.symm]
    exact h.found (Nat.pos_of_ne_zero fun hrank => later (Stage.rank_inj hrank))

/-- The first gate is open. -/
theorem at_one {receipt : OrderReceipt} {missed : List Look} {last : Look} {found : Resource}
    (seen : ∀ look ∈ missed ++ [last], ∃ outcome, DiscoveryLook receipt look outcome)
    (opened : Opened (missed ++ [last])) (decided : DiscoveryLook receipt last (.ok (some found))) :
    (look ⟨receipt, fun _ => [], found, none⟩ .orderApproved (missed ++ [last])).At 1 where
  looks := (at_zero receipt found).looks_look seen
  opened := by
    intro s hs
    have hs : s.rank = Stage.orderApproved.rank := Nat.lt_one_iff.mp hs
    rw [Stage.rank_inj hs, looks_look_self]
    exact opened
  ahead := by
    intro s hs
    exact looks_look_of_ne (by rintro rfl; exact absurd hs (by decide))
  refetch := rfl
  found _ := ⟨last, by simp [looks_look_self], decided⟩

section Ends

variable {polling : PollingConfig} {cause : Error} {Seen : Look → Except Error (Option α) → Prop}
  {missed : List Look} {last : Look} {outcome : Except Error (Option α)} {before after : Journal}

/-- What a gate reports that did not open. -/
def Stopped (log : CreationLog) (polling : PollingConfig) (stage : Stage)
    (outcome : Except Error (Option α)) (cause : Error) : Prop :=
  outcome = .error cause ∨ outcome = .ok none ∧
    cause = .stageTimeout stage (log.label stage) (polling.policy stage).maxWaitMs

theorem Stopped.not_opened (h : log.Stopped polling stage outcome cause) (kind : LookKind Seen)
    (wait : Waited Seen (polling.policy stage).maxWaitMs missed last outcome before after) :
    ¬Opened (missed ++ [last]) := by
  intro h
  obtain ⟨missed', last', heq, -, hlast⟩ := h
  obtain ⟨-, rfl⟩ := List.append_inj' heq rfl |>.imp id List.singleton_inj.mp
  rw [kind.holds wait.decided] at hlast
  rcases h with rfl | ⟨rfl, -⟩ <;> cases hlast

theorem At.opened_look (h : log.At stage.rank) {s : Stage} (hs : s.rank < stage.rank) :
    Opened ((log.look stage looks).looks s) := by
  rw [looks_look_of_ne (by rintro rfl; omega)]
  exact h.opened s hs

theorem At.ahead_look (h : log.At stage.rank) {s : Stage} (hs : stage.rank < s.rank) :
    (log.look stage looks).looks s = [] := by
  rw [looks_look_of_ne (by rintro rfl; omega)]
  exact h.ahead s (by omega)

/-- No other gate than this one ran out. -/
theorem At.eq_of_ranOut_look (h : log.At stage.rank) {s : Stage}
    (hs : RanOut ((log.look stage looks).looks s)) : s = stage := by
  rcases Nat.lt_trichotomy s.rank stage.rank with hlt | heq | hgt
  · exact absurd hs (h.opened_look hlt).not_ranOut
  · exact Stage.rank_inj heq
  · exact absurd (h.ahead_look hgt) hs.1

/-- A creation ends at a gate that does not open. -/
theorem At.follows_of_stopped (h : log.At stage.rank) (kind : LookKind Seen)
    (wait : Waited Seen (polling.policy stage).maxWaitMs missed last outcome before after)
    (seen : ∀ look outcome, Seen look outcome → log.LooksAt stage look)
    (stopped : log.Stopped polling stage outcome cause) :
    (log.look stage (missed ++ [last])).Follows polling after.now (.error cause) where
  looks := h.looks_look (wait.forall_look seen)
  ordersNothing := ne_submitOrder_of_looks (h.looks_look (wait.forall_look seen))
  inOrder s later hlt hlater := by
    have hle : later.rank ≤ stage.rank := Nat.le_of_not_lt fun hgt => hlater (h.ahead_look hgt)
    exact h.opened_look (by omega)
  refetched hrefetch := absurd h.refetch hrefetch
  found hopened := by
    by_cases hstage : stage = .orderApproved
    · subst hstage
      rw [looks_look_self] at hopened
      exact absurd hopened (stopped.not_opened kind wait)
    · rw [looks_look_of_ne (Ne.symm hstage)]
      exact h.found (Nat.pos_of_ne_zero fun hrank => hstage (Stage.rank_inj hrank))
  failure := by
    rw [h.exchanges_look]
    rcases stopped with rfl | ⟨rfl, rfl⟩
    · obtain ⟨earlier, x, hlooks, hearlier, hx⟩ := wait.failed kind
      rw [hlooks, ← List.append_assoc]
      exact (h.unfailing.append hearlier).endsAtFailure_append hx
    · exact (h.unfailing.append (wait.unfailing kind)).endsAtFailure _
  timeout s hs := by
    obtain rfl := h.eq_of_ranOut_look hs
    rw [looks_look_self] at hs
    rcases stopped with rfl | ⟨rfl, rfl⟩
    · have hlast := hs.2 last (by simp)
      rw [kind.holds wait.decided] at hlast
      cases hlast
    · refine ⟨by cases s <;> rfl, ⟨before.now, ?_, wait.spent rfl⟩, fun _ => h.ahead_look,
        h.refetch⟩
      rw [exchangesOf_look_self]
      exact wait.begun_exchanges
  success _ hnode := by cases hnode
  refusal := by
    intro _ h
    cases h
    rcases stopped with rfl | ⟨rfl, rfl⟩
    · obtain ⟨earlier, x, hlooks, hearlier, hx⟩ := wait.failed kind
      refine .failed x cause ?_ hx
      rw [h.exchanges_look, hlooks]
      simp
    · have ranOut : RanOut ((log.look stage (missed ++ [last])).looks stage) := by
        rw [looks_look_self]
        exact wait.ranOut kind
      have refuses : (log.look stage (missed ++ [last])).Refuses polling _ := .ranOut stage ranOut
      cases stage <;> exact refuses

end Ends

/-! ## The evidence of a success -/

/-- What an open first gate has seen in its last round. -/
theorem At.approved (h : log.At 4) :
    ∃ time time' order listed, order.status = .approved ∧
      log.receipt.findIn listed = some log.found ∧
      (log.exchangesOf .orderApproved).getLast? = some ⟨time', .listResources, .ok listed⟩ ∧
      (log.exchangesOf .orderApproved).dropLast.getLast? =
        some ⟨time, .billingOrder log.receipt.orderId, .ok order⟩ := by
  obtain ⟨last, hlast, hseen⟩ := h.found (by decide)
  obtain ⟨missed, hlooks⟩ := List.getLast?_eq_some_iff.mp hlast
  generalize hfound : some log.found = found at hseen
  generalize houtcome : (Except.ok found : Except Error (Option Resource)) = outcome at hseen
  rcases hseen with _ | _ | _ | ⟨time, time', order, approved, listed⟩
  · cases houtcome
  · cases houtcome; cases hfound
  · cases houtcome
  · cases houtcome
    refine ⟨time, time', order, listed, approved, rfl, ?_, ?_⟩
    · simp [exchangesOf, hlooks]
    · simp [exchangesOf, hlooks]

/-- The result of a creation of which all gates are open, by the answer to the
fetch. -/
def fetched (found : Resource) : Except Error (Option Resource) → Except Error CreatedNode
  | .error cause => .error cause
  | .ok none => .error (.notFound "resource" (toString found.id))
  | .ok (some resource) =>
    match resource.credentials with
    | none => .error (.vendor (.lostLoginDetails found.label))
    | some credentials => .ok ⟨resource, toString found.id, credentials⟩

theorem At.opened_all (h : log.At 4) (stage : Stage) : Opened (log.looks stage) :=
  h.opened stage (by cases stage <;> decide)

theorem At.exchanges_fetch {count : Nat} (h : log.At count) (time : Nat)
    (answer : Except Error (Option Resource)) :
    (log.fetch time answer).exchanges =
      log.exchanges ++ [⟨time, .getResource log.found.id, answer⟩] := by
  simp only [exchanges, refetches, h.refetch]
  simp [exchangesOf, fetch]

theorem At.supports (h : log.At 4) (time : Nat) {resource : Resource}
    {credentials : LoginCredentials} (hcredentials : resource.credentials = some credentials) :
    (log.fetch time (.ok (some resource))).Supports
      ⟨resource, toString log.found.id, credentials⟩ where
  approved := h.approved
  started := by
    obtain ⟨time, reply, hreply, hlast⟩ :=
      getLast?_of_opened (h.looks .transactionsStarted) (h.opened_all _)
    obtain ⟨active, rfl⟩ := Option.isSome_iff_exists.mp hreply
    exact ⟨time, active, hlast⟩
  ended := by
    obtain ⟨time, reply, hreply, hlast⟩ :=
      getLast?_of_opened (h.looks .transactionsEnded) (h.opened_all _)
    obtain rfl := Option.isNone_iff_eq_none.mp hreply
    exact ⟨time, hlast⟩
  login := by
    obtain ⟨time, reply, hreply, hlast⟩ :=
      getLast?_of_opened (h.looks .loginDetails) (h.opened_all _)
    cases reply with
    | none => cases hreply
    | some resource => exact ⟨time, resource, hreply, hlast⟩
  returned := ⟨time, rfl⟩
  credentials := hcredentials
  nodeId := rfl

/-- A creation of which all gates are open ends with the fetch. -/
theorem At.follows_fetch (h : log.At 4) (polling : PollingConfig) (time ended : Nat)
    (answer : Except Error (Option Resource)) :
    (log.fetch time answer).Follows polling ended (fetched log.found answer) where
  looks := h.looks
  ordersNothing := ne_submitOrder_of_looks h.looks
  inOrder stage _ _ _ := h.opened_all stage
  refetched _ := h.opened_all
  found _ := h.found (by decide)
  failure := by
    rw [h.exchanges_fetch]
    cases answer with
    | error cause => exact h.unfailing.endsAtFailure_append rfl
    | ok reply => exact (h.unfailing.append (unfailing_singleton rfl)).endsAtFailure _
  timeout stage hs := absurd hs (h.opened_all stage).not_ranOut
  success node hnode := by
    rcases answer with cause | _ | resource
    · cases hnode
    · cases hnode
    · simp only [fetched] at hnode
      split at hnode
      · cases hnode
      · rename_i credentials hcredentials
        cases hnode
        exact h.supports time hcredentials
  refusal cause hcause := by
    rcases answer with cause' | _ | resource
    · cases hcause
      refine .failed ⟨time, .getResource log.found.id, .error cause⟩ cause ?_ rfl
      rw [h.exchanges_fetch, List.getLast?_concat]
    · cases hcause
      exact .gone time rfl
    · simp only [fetched] at hcause
      split at hcause
      · rename_i locked
        cases hcause
        exact .lost time resource rfl locked
      · cases hcause

end CreationLog

end Provisioning
