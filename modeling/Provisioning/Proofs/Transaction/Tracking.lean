import Mathlib.Data.List.DropRight
import Provisioning.Proofs.Workflow.Journal
import Provisioning.Workflow.Probe

/-!
# What a tracker has seen

A tracker is asked about any number of resources, in any order, for the start
or for the end of a cycle, and the vendor may answer anything or fail.
`assures_watch` says that its calls are polls of the feeds, one for each query,
and that its answers are `Tracker.steps` of them.

What it remembers of a resource is a function of the polls of that resource
alone, `remembered`: the two kinds of query treat the memory differently, and
`remembered_append` says what one poll of either kind does to it.
`Tracker.last?_after` is the invariant that carries this over any sequence of
polls.
-/

namespace Provisioning

variable {σ : Type}

/-! ## Queries and polls -/

/-- What a tracker may be asked about a resource. -/
inductive Question where
  | started
  | ended
deriving DecidableEq, Repr

/-- A question about a resource. -/
structure Query where
  question : Question
  id : ResourceId
deriving DecidableEq, Repr

/-- A query with the time at which the vendor was asked and what it replied. -/
structure Poll extends Query where
  time : Nat
  reply : Except Error (Option Transaction)

/-- The query, as the probe that asks it. -/
def Query.ask (query : Query) (tracker : Tracker) : Procedure (Tracker × Bool) :=
  match query.question with
  | .started => transactionsStarted query.id tracker
  | .ended => transactionsEnded query.id tracker

/-- The answer to a query and the tracker after it.  A query that failed leaves
no other tracker behind. -/
def Tracker.settle (tracker : Tracker) : Except Error (Tracker × Bool) → Except Error Bool × Tracker
  | .ok (tracker', holds) => (.ok holds, tracker')
  | .error cause => (.error cause, tracker)

/-- Asks a tracker one query after the other: the answers, each with the tracker
as it is then. -/
def watch : List Query → Tracker → Workflow (List (Except Error Bool × Tracker))
  | [], _ => pure []
  | query :: rest, tracker => do
    let step := tracker.settle (← (query.ask tracker).run)
    return step :: (← watch rest step.2)

namespace Poll

/-- The call that a poll made. -/
def exchange (p : Poll) : Exchange :=
  ⟨p.time, .activeTransaction p.id, p.reply⟩

/-- The transaction that a poll saw. -/
def snapshot? (p : Poll) : Option Transaction :=
  match p.reply with
  | .ok active => active
  | .error _ => none

/-- A poll for the end that found nothing active. -/
def findsEnd (p : Poll) : Bool :=
  match p.question, p.reply with
  | .ended, .ok none => true
  | _, _ => false

/-- The transaction that a poll for this question saw. -/
def seenFor (question : Question) (p : Poll) : Option Transaction :=
  if p.question = question then p.snapshot? else none

end Poll

/-- The polls of a resource. -/
def pollsOf (id : ResourceId) (polls : List Poll) : List Poll :=
  polls.filter (·.id = id)

/-- The polls since the last one for the end that found nothing active. -/
def sinceEnd (polls : List Poll) : List Poll :=
  polls.rtakeWhile (!·.findsEnd)

/-- A transaction was seen, and since then no poll for the end found nothing. -/
def Underway (polls : List Poll) : Prop :=
  ∃ before p after, polls = before ++ p :: after ∧ p.snapshot?.isSome = true ∧
    ∀ q ∈ after, q.findsEnd = false

/-- What is to be remembered of a resource after its polls: the last transaction
that a poll for the end saw, or else the first that a poll for the start saw. -/
def remembered (polls : List Poll) : Option Transaction :=
  ((sinceEnd polls).filterMap (·.seenFor .ended)).getLast?.or
    ((sinceEnd polls).filterMap (·.seenFor .started)).head?

/-- The answer to a poll, by what is remembered of its resource. -/
def Poll.answer (p : Poll) (last : Option Transaction) : Except Error Bool :=
  p.reply.map fun active =>
    match p.question with
    | .started => active.isSome
    | .ended => active.isNone && last.isSome

/-- What is remembered of the resource after a poll. -/
def Poll.remember (p : Poll) (last : Option Transaction) : Option Transaction :=
  match p.reply with
  | .error _ => last
  | .ok active =>
    match p.question with
    | .started => last.or active
    | .ended => active

/-! ## The polls of one resource -/

theorem pollsOf_append (id : ResourceId) (polls : List Poll) (p : Poll) :
    pollsOf id (polls ++ [p]) =
      if p.id = id then pollsOf id polls ++ [p] else pollsOf id polls := by
  by_cases h : p.id = id <;> simp [pollsOf, h]

theorem sinceEnd_append (polls : List Poll) (p : Poll) :
    sinceEnd (polls ++ [p]) = if p.findsEnd then [] else sinceEnd polls ++ [p] := by
  rw [sinceEnd, List.rtakeWhile_concat]
  cases p.findsEnd <;> rfl

/-- One more poll of the resource changes what is remembered of it. -/
theorem remembered_append (polls : List Poll) (p : Poll) :
    remembered (polls ++ [p]) = p.remember (remembered polls) := by
  obtain ⟨⟨question, id⟩, time, cause | active⟩ := p
  · cases question <;>
      simp [remembered, sinceEnd_append, Poll.findsEnd, Poll.remember, Poll.seenFor, Poll.snapshot?]
  · cases question with
    | started =>
      cases active <;>
        simp [remembered, sinceEnd_append, Poll.findsEnd, Poll.remember, Poll.seenFor,
          Poll.snapshot?]
    | ended =>
      cases active <;>
        simp [remembered, sinceEnd_append, Poll.findsEnd, Poll.remember, Poll.seenFor,
          Poll.snapshot?]

theorem not_underway_nil : ¬Underway [] := by
  rintro ⟨before, p, after, heq, -⟩
  simp at heq

theorem underway_append (polls : List Poll) (p : Poll) :
    Underway (polls ++ [p]) ↔ p.snapshot?.isSome = true ∨ Underway polls ∧ p.findsEnd = false := by
  constructor
  · rintro ⟨before, q, after, heq, seen, quiet⟩
    rcases List.eq_nil_or_concat after with rfl | ⟨after', r, rfl⟩
    · obtain ⟨-, rfl⟩ := List.append_inj' heq rfl |>.imp id List.singleton_inj.mp
      exact .inl seen
    · rw [List.concat_eq_append, ← List.cons_append, ← List.append_assoc] at heq
      obtain ⟨hpolls, hp⟩ := List.append_inj' heq rfl
      rw [← List.singleton_inj.mp hp] at quiet
      exact .inr ⟨⟨before, q, after', hpolls, seen, fun r hr => quiet r (by simp [hr])⟩,
        quiet p (by simp)⟩
  · rintro (seen | ⟨⟨before, q, after, rfl, seen, quiet⟩, hp⟩)
    · exact ⟨polls, p, [], rfl, seen, nofun⟩
    · refine ⟨before, q, after ++ [p], by simp, seen, ?_⟩
      intro r hr
      rcases List.mem_append.mp hr with hr | hr
      · exact quiet r hr
      · rw [List.mem_singleton.mp hr]
        exact hp

/-- Something is remembered of a resource as long as a cycle of it is under way. -/
theorem isSome_remembered (polls : List Poll) :
    (remembered polls).isSome = true ↔ Underway polls := by
  induction polls using List.reverseRecOn with
  | nil => exact ⟨nofun, fun h => absurd h not_underway_nil⟩
  | append_singleton polls p ih =>
    rw [remembered_append, underway_append, ← ih]
    obtain ⟨⟨question, id⟩, time, cause | active⟩ := p
    · simp [Poll.remember, Poll.snapshot?, Poll.findsEnd]
    · cases question <;> cases active <;>
        simp [Poll.remember, Poll.snapshot?, Poll.findsEnd]

/-! ## Polling -/

namespace Tracker

/-- The answer to a poll and the tracker after it. -/
def poll (tracker : Tracker) (p : Poll) : Except Error Bool × Tracker :=
  tracker.settle (p.reply.map fun active =>
    let (tracker', holds, _) :=
      match p.question with
      | .started => tracker.started p.id active
      | .ended => tracker.ended p.id active
    (tracker', holds))

/-- The answers to polls, each with the tracker as it is then. -/
def steps (tracker : Tracker) : List Poll → List (Except Error Bool × Tracker)
  | [] => []
  | p :: rest => tracker.poll p :: (tracker.poll p).2.steps rest

/-- The tracker after polls. -/
def after (tracker : Tracker) (polls : List Poll) : Tracker :=
  polls.foldl (fun tracker p => (tracker.poll p).2) tracker

theorem after_append (tracker : Tracker) (polls : List Poll) (p : Poll) :
    tracker.after (polls ++ [p]) = ((tracker.after polls).poll p).2 := by
  simp [after]

/-- A poll is answered by what is remembered of its resource. -/
theorem poll_answer (tracker : Tracker) (p : Poll) :
    (tracker.poll p).1 = p.answer (tracker.last? p.id) := by
  obtain ⟨⟨question, id⟩, time, cause | active⟩ := p
  · rfl
  · cases question with
    | started => cases active <;> rfl
    | ended =>
      cases active with
      | some active => rfl
      | none =>
        simp only [poll, Poll.answer, Except.map, ended]
        cases tracker.last? id <;> rfl

/-- A poll changes what is remembered of its own resource and of no other. -/
theorem last?_poll (tracker : Tracker) (p : Poll) (id : ResourceId) :
    (tracker.poll p).2.last? id =
      if p.id = id then p.remember (tracker.last? id) else tracker.last? id := by
  obtain ⟨⟨question, id'⟩, time, cause | active⟩ := p
  · simp [poll, settle, Except.map, Poll.remember]
  · by_cases h : id' = id
    · subst h
      cases question <;> cases active <;> cases hlast : tracker.last? id' <;>
        simp_all [poll, settle, Except.map, Poll.remember, started, ended, last?, Lookup.find?_put,
          Lookup.find?_remove]
    · have h' : ¬id = id' := fun heq => h heq.symm
      cases question <;> cases active <;> cases hlast : tracker.last? id' <;>
        simp_all [poll, settle, Except.map, started, ended, last?, Lookup.find?_put,
          Lookup.find?_remove]

/-- A tracker remembers of each resource what its own polls tell. -/
theorem last?_after (polls : List Poll) (id : ResourceId) :
    (after {} polls).last? id = remembered (pollsOf id polls) := by
  induction polls using List.reverseRecOn with
  | nil => rfl
  | append_singleton polls p ih =>
    rw [after_append, last?_poll, pollsOf_append, ih]
    by_cases h : p.id = id
    · rw [if_pos h, if_pos h, remembered_append]
    · rw [if_neg h, if_neg h]

theorem steps_append (tracker : Tracker) (before rest : List Poll) :
    tracker.steps (before ++ rest) = tracker.steps before ++ (tracker.after before).steps rest := by
  induction before generalizing tracker with
  | nil => rfl
  | cons p before ih => exact congrArg (tracker.poll p :: ·) (ih _)

theorem length_steps (tracker : Tracker) (ps : List Poll) :
    (tracker.steps ps).length = ps.length := by
  induction ps generalizing tracker with
  | nil => rfl
  | cons p rest ih => simp [steps, ih]

/-- The step of a poll that others come before. -/
theorem getElem?_steps (tracker : Tracker) (before : List Poll) (p : Poll) (rest : List Poll) :
    (tracker.steps (before ++ p :: rest))[before.length]? =
      some ((tracker.after before).poll p) := by
  rw [steps_append, List.getElem?_append_right (by simp [length_steps]), length_steps, Nat.sub_self]
  rfl

/-- The trackers of the steps, after the one at the beginning, are those after
the polls. -/
theorem getElem?_trackers (tracker : Tracker) (before rest : List Poll) :
    (tracker :: (tracker.steps (before ++ rest)).map Prod.snd)[before.length]? =
      some (tracker.after before) := by
  induction before generalizing tracker with
  | nil => rfl
  | cons p before ih =>
    have h := ih (tracker.poll p).2
    rw [List.length_cons, List.getElem?_cons_succ]
    exact h

end Tracker

/-! ## Cycles that are told to be over -/

/-- How often polls of a resource were answered that its cycle is over. -/
def endings (id : ResourceId) (polls : List Poll) (answers : List (Except Error Bool)) : Nat :=
  (polls.zip answers).countP fun (p, answer) => p.id = id ∧ answer = .ok true

/-- What the vendor replied to the polls of a resource. -/
def feed (id : ResourceId) (polls : List Poll) : List (Except Error (Option Transaction)) :=
  (pollsOf id polls).map (·.reply)

/-- The places in a feed at which no transaction directly follows one. -/
def completions (replies : List (Except Error (Option Transaction))) : Nat :=
  (replies.zip replies.tail).countP fun
    | (.ok (some _), .ok none) => true
    | _ => false

theorem completions_cons_cons (last active : Option Transaction)
    (rest : List (Except Error (Option Transaction))) :
    completions (.ok last :: .ok active :: rest) =
      (if active.isNone && last.isSome then 1 else 0) + completions (.ok active :: rest) := by
  cases last <;> cases active <;> simp [completions, Nat.add_comm]

theorem completions_none_cons (rest : List (Except Error (Option Transaction))) :
    completions (.ok none :: rest) = completions rest := by
  cases rest with
  | nil => rfl
  | cons reply rest => simp [completions]

/-- A tracker that is only asked for the end remembers the last reply, and tells
of each place of the feed where none follows a transaction. -/
theorem endings_steps (tracker : Tracker) (id : ResourceId) (polls : List Poll)
    (asked : ∀ p ∈ polls, p.id = id → p.question = .ended) :
    endings id polls ((tracker.steps polls).map Prod.fst) =
      completions (.ok (tracker.last? id) :: (feed id polls).filter Except.isOk) := by
  induction polls generalizing tracker with
  | nil => rfl
  | cons p rest ih =>
    have hrest := ih (tracker.poll p).2 fun q hq => asked q (List.mem_cons_of_mem p hq)
    have hlast := tracker.last?_poll p id
    have hanswer := tracker.poll_answer p
    by_cases hid : p.id = id
    · have hquestion := asked p List.mem_cons_self hid
      rw [if_pos hid] at hlast
      rw [hid] at hanswer
      have hfeed : feed id (p :: rest) = p.reply :: feed id rest := by simp [feed, pollsOf, hid]
      have hendings : endings id (p :: rest) (((tracker.steps (p :: rest))).map Prod.fst) =
          (if (tracker.poll p).1 = .ok true then 1 else 0) +
            endings id rest ((((tracker.poll p).2.steps rest)).map Prod.fst) := by
        simp [endings, Tracker.steps, List.countP_cons, hid, Nat.add_comm]
      rw [hendings, hrest, hfeed, hlast, hanswer]
      cases hreply : p.reply with
      | error cause =>
        simp [Poll.answer, Poll.remember, hreply, Except.map, Except.isOk, Except.toBool]
      | ok active =>
        have hkept : (Except.ok active :: feed id rest).filter Except.isOk =
            .ok active :: (feed id rest).filter Except.isOk := rfl
        rw [hkept, completions_cons_cons]
        simp [Poll.answer, Poll.remember, hreply, hquestion, Except.map]
    · rw [if_neg hid] at hlast
      have hfeed : feed id (p :: rest) = feed id rest := by simp [feed, pollsOf, hid]
      have hendings : endings id (p :: rest) (((tracker.steps (p :: rest))).map Prod.fst) =
          endings id rest ((((tracker.poll p).2.steps rest)).map Prod.fst) := by
        simp [endings, Tracker.steps, hid]
      rw [hendings, hrest, hfeed, hlast]

/-! ## Any vendor -/

/-- A query is one poll of the feed of its resource. -/
theorem assures_ask (query : Query) (tracker : Tracker) (j : Journal) :
    (query.ask tracker).Assures .anyVendor
      (fun result j' => ∃ p : Poll, p.toQuery = query ∧
        j'.exchanges = j.exchanges ++ [p.exchange] ∧ tracker.poll p = (.ok result.2, result.1))
      (fun cause j' => ∃ p : Poll, p.toQuery = query ∧
        j'.exchanges = j.exchanges ++ [p.exchange] ∧ tracker.poll p = (.error cause, tracker))
      j := by
  obtain ⟨question, id⟩ := query
  cases question
  all_goals
    simp only [Query.ask, transactionsStarted, transactionsEnded, Procedure.assures_bind,
      Procedure.assures_liftM, Workflow.assures_notifyAll, Procedure.assures_pure]
    refine (Procedure.assures_request _ _ _).mpr ⟨trivial, ?_, ?_⟩
    · intro active _ answered
      obtain ⟨delay, rfl⟩ := answered
      exact ⟨⟨⟨_, id⟩, j.now, .ok active⟩, rfl, rfl, rfl⟩
    · intro cause _ answered
      obtain ⟨delay, rfl⟩ := answered
      exact ⟨⟨⟨_, id⟩, j.now, .error cause⟩, rfl, rfl, rfl⟩

/-- Queries are polls of the feeds, and nothing else is asked of the vendor. -/
theorem assures_watch (queries : List Query) (tracker : Tracker) (j : Journal) :
    (watch queries tracker).Assures .anyVendor
      (fun steps j' => ∃ polls : List Poll, polls.map (·.toQuery) = queries ∧
        j'.exchanges = j.exchanges ++ polls.map (·.exchange) ∧ steps = tracker.steps polls) j := by
  induction queries generalizing tracker j with
  | nil => exact ⟨[], rfl, by simp, rfl⟩
  | cons query rest ih =>
    simp only [watch, Workflow.assures_monadBind, Workflow.assures_monadPure]
    refine Workflow.Assures.mono (assures_ask query tracker j) ?_
    intro result j₁ h
    have polled : ∃ p : Poll, p.toQuery = query ∧ j₁.exchanges = j.exchanges ++ [p.exchange] ∧
        tracker.settle result = tracker.poll p := by
      cases result with
      | ok result =>
        obtain ⟨p, hquery, hexchanges, hpoll⟩ := h
        exact ⟨p, hquery, hexchanges, hpoll.symm⟩
      | error cause =>
        obtain ⟨p, hquery, hexchanges, hpoll⟩ := h
        exact ⟨p, hquery, hexchanges, hpoll.symm⟩
    obtain ⟨p, hquery, hexchanges, hpoll⟩ := polled
    rw [hpoll]
    refine (ih (tracker.poll p).2 j₁).mono ?_
    rintro _ j₂ ⟨polls, hqueries, hexchanges', rfl⟩
    refine ⟨p :: polls, ?_, ?_, rfl⟩
    · rw [List.map_cons, hquery, hqueries]
    · rw [hexchanges', hexchanges, List.map_cons, List.append_assoc]
      rfl

/-- What is seen of a tracker that was asked: `answers` are its answers to the
polls, and `trackers` are the tracker before the first poll and after each. -/
structure Tracked (polls : List Poll) (answers : List (Except Error Bool))
    (trackers : List Tracker) : Prop where
  alone : ∀ before p after, polls = before ++ p :: after →
    answers[before.length]? = some (p.answer (remembered (pollsOf p.id before)))
  started : ∀ before p after active, polls = before ++ p :: after → p.question = .started →
    p.reply = .ok active → (answers[before.length]? = some (.ok true) ↔ active.isSome = true)
  ended : ∀ before p after active, polls = before ++ p :: after → p.question = .ended →
    p.reply = .ok active →
      (answers[before.length]? = some (.ok true) ↔
        active = none ∧ Underway (pollsOf p.id before))
  failed : ∀ before p after cause, polls = before ++ p :: after → p.reply = .error cause →
    answers[before.length]? = some (.error cause) ∧
      trackers[before.length + 1]? = trackers[before.length]?
  memory : ∀ before after, polls = before ++ after →
    ∃ tracker, trackers[before.length]? = some tracker ∧
      ∀ id, tracker.last? id = remembered (pollsOf id before)
  completed : ∀ id, (∀ p ∈ polls, p.id = id → p.question = .ended) →
    endings id polls answers = completions ((feed id polls).filter Except.isOk)

/-- The steps of a new tracker are as they should be. -/
theorem Tracker.tracked (polls : List Poll) :
    Tracked polls ((steps {} polls).map Prod.fst) ({} :: (steps {} polls).map Prod.snd) := by
  have answered : ∀ before p after, polls = before ++ p :: after →
      ((steps {} polls).map Prod.fst)[before.length]? =
        some (p.answer (remembered (pollsOf p.id before))) := by
    rintro before p rest rfl
    rw [List.getElem?_map, getElem?_steps, Option.map_some, poll_answer, last?_after]
  refine
    { alone := answered
      started := ?_
      ended := ?_
      failed := ?_
      memory := ?_
      completed := ?_ }
  · intro before p rest active hpolls hquestion hreply
    rw [answered before p rest hpolls]
    simp [Poll.answer, hreply, hquestion, Except.map]
  · intro before p rest active hpolls hquestion hreply
    rw [answered before p rest hpolls, ← isSome_remembered]
    simp [Poll.answer, hreply, hquestion, Except.map]
  · intro before p rest cause hpolls hreply
    have hafter : after {} (before ++ [p]) = after {} before := by
      rw [after_append, poll, hreply]
      rfl
    refine ⟨?_, ?_⟩
    · rw [answered before p rest hpolls, Poll.answer, hreply]
      rfl
    · have hnext := getElem?_trackers {} (before ++ [p]) rest
      rw [List.append_assoc, List.singleton_append, List.length_append, hafter, ← hpolls] at hnext
      rw [hpolls, getElem?_trackers, ← hpolls]
      exact hnext
  · rintro before rest rfl
    exact ⟨_, getElem?_trackers _ _ _, fun id => last?_after before id⟩
  · intro id asked
    rw [endings_steps _ _ _ asked]
    exact completions_none_cons _

/-- A new tracker that is asked about any resources answers each query by the
polls of its resource, and remembers of each resource what they tell, whatever
the vendor answers. -/
theorem tracker_follows_feeds (queries : List Query) (v : Vendor σ) (start : Run σ) :
    let (steps, ended) := (watch queries {}).run v start
    ∃ polls : List Poll, polls.map (·.toQuery) = queries ∧
      ended.exchanges = start.exchanges ++ polls.map (·.exchange) ∧
      Tracked polls (steps.map Prod.fst) ({} :: steps.map Prod.snd) := by
  have assured := (assures_watch queries {} start.journal).run_anyVendor v start
  obtain ⟨polls, hqueries, hexchanges, hsteps⟩ := assured
  refine ⟨polls, hqueries, hexchanges, ?_⟩
  rw [hsteps]
  exact Tracker.tracked polls

/-- A vendor that answers polls from a list. -/
def Vendor.ofReplies : Vendor (List (Except Error (Option Transaction))) where
  respond replies _ call :=
    match call, replies with
    | .activeTransaction _, reply :: rest => (rest, 0, reply)
    | _, replies => (replies, 0, .error (.vendor (.other "nothing to reply")))

/-- Failures have to be left out of a feed before its completions are counted: a
cycle is told to be over here, and no reply of none directly follows a
transaction. -/
theorem completion_behind_a_failure :
    let replies := [.ok (some ⟨1, "PROVISION_SERVER", 0, 0⟩), .error (.timeout 1), .ok none]
    let steps := ((watch (List.replicate 3 ⟨.ended, ⟨1⟩⟩) {}).run Vendor.ofReplies ⟨replies, 0, []⟩).1
    steps.map Prod.fst = [.ok false, .error (.timeout 1), .ok true] ∧ completions replies = 0 := by
  decide

end Provisioning
