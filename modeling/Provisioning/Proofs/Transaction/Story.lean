import Mathlib.Data.List.SplitBy
import Provisioning.Proofs.Transaction.Tracking

/-!
# What is reported of a cycle

A tracker reports while it follows a cycle of transactions.  It compares each snapshot
with the one before it and nothing else, so what it tells has to be put together from
neighbours.  This file says what the whole of it is.

There are four groups.

* Stretches.  The snapshots of a cycle fall into stretches of the same unit of work, each
  as long as it can be.  `Stretches.map_snapshots` says that this is the splitting of the
  library, so there is just one.
* The story.  `story` is what should be reported of a row of stretches, and `narrated` is
  what comparing neighbours yields.  `narrated_stretches` equates the two.
* The polls.  `FollowsCycle` is the shape of the polls of one cycle, and
  `reports_followsCycle` says what a tracker tells during them.
* Any vendor.  `run_watch` carries the reports over to runs.

A unit of work that comes back after another one opens a new stretch.
-/

namespace Provisioning

variable {σ : Type}

/-! ## Stretches -/

theorem Transaction.sameWork_iff {a b : Transaction} :
    a.sameWork b = true ↔ a.id = b.id ∧ a.name = b.name := by
  simp [sameWork]

/-- A row of snapshots of one unit of work. -/
structure Stretch where
  first : Transaction
  rest : List Transaction
  same : ∀ t ∈ rest, first.sameWork t = true

namespace Stretch

def snapshots (s : Stretch) : List Transaction :=
  s.first :: s.rest

/-- The snapshot with the latest progress. -/
def last (s : Stretch) : Transaction :=
  s.snapshots.getLast (List.cons_ne_nil _ _)

theorem snapshots_injective : Function.Injective snapshots := by
  rintro ⟨first, rest, same⟩ ⟨first', rest', same'⟩ heq
  simp only [snapshots, List.cons.injEq] at heq
  obtain ⟨rfl, rfl⟩ := heq
  rfl

/-- All snapshots of a stretch are of the work of its first one. -/
theorem sameWork_first (s : Stretch) {t : Transaction} (h : t ∈ s.snapshots) :
    t.id = s.first.id ∧ t.name = s.first.name := by
  rcases List.mem_cons.mp h with rfl | h
  · exact ⟨rfl, rfl⟩
  · obtain ⟨hid, hname⟩ := Transaction.sameWork_iff.mp (s.same t h)
    exact ⟨hid.symm, hname.symm⟩

theorem pairwise (s : Stretch) :
    s.snapshots.Pairwise fun t u => t.sameWork u = true := by
  apply List.pairwise_of_forall_mem_list
  intro t ht u hu
  obtain ⟨htid, htname⟩ := s.sameWork_first ht
  obtain ⟨huid, huname⟩ := s.sameWork_first hu
  exact Transaction.sameWork_iff.mpr ⟨htid.trans huid.symm, htname.trans huname.symm⟩

/-- The last snapshot of a stretch compares with others as the first one does. -/
theorem sameWork_last (s : Stretch) (t : Transaction) :
    s.last.sameWork t = s.first.sameWork t := by
  have hmem : s.last ∈ s.snapshots := List.getLast_mem _
  obtain ⟨hid, hname⟩ := s.sameWork_first hmem
  rw [Transaction.sameWork, Transaction.sameWork, hid, hname]

end Stretch

/-- Snapshots fall into these stretches, and none of the stretches could be longer. -/
structure Stretches (snapshots : List Transaction) (stretches : List Stretch) : Prop where
  joined : stretches.flatMap (·.snapshots) = snapshots
  apart : stretches.IsChain fun s next => s.first.sameWork next.first = false

theorem stretches_nil : Stretches [] [] where
  joined := rfl
  apart := .nil

/-- One more snapshot in front lengthens the first stretch or is one of its own. -/
theorem Stretches.cons {snapshots : List Transaction} {stretches : List Stretch}
    (h : Stretches snapshots stretches) (t : Transaction) :
    ∃ stretches', Stretches (t :: snapshots) stretches' := by
  cases stretches with
  | nil =>
    refine ⟨[⟨t, [], nofun⟩], ?_, .singleton _⟩
    have hnil : snapshots = [] := h.joined.symm
    rw [hnil]
    rfl
  | cons s more =>
    by_cases hwork : t.sameWork s.first = true
    · have hsame := Transaction.sameWork_iff.mp hwork
      have same : ∀ u ∈ s.snapshots, t.sameWork u = true := by
        intro u hu
        obtain ⟨hid, hname⟩ := s.sameWork_first hu
        exact Transaction.sameWork_iff.mpr ⟨hsame.1.trans hid.symm, hsame.2.trans hname.symm⟩
      refine ⟨⟨t, s.snapshots, same⟩ :: more, ?_, ?_⟩
      · rw [← h.joined]
        rfl
      · have hchain := List.isChain_cons.mp h.apart
        refine List.isChain_cons.mpr ⟨?_, hchain.2⟩
        intro next hnext
        have happart := hchain.1 next hnext
        rw [Transaction.sameWork] at happart ⊢
        rwa [hsame.1, hsame.2]
    · refine ⟨⟨t, [], nofun⟩ :: s :: more, ?_, ?_⟩
      · rw [← h.joined]
        rfl
      · refine List.isChain_cons_cons.mpr ⟨?_, h.apart⟩
        exact Bool.eq_false_iff.mpr hwork

theorem exists_stretches (snapshots : List Transaction) :
    ∃ stretches, Stretches snapshots stretches := by
  induction snapshots with
  | nil => exact ⟨[], stretches_nil⟩
  | cons t snapshots ih =>
    obtain ⟨stretches, h⟩ := ih
    exact h.cons t

/-- The stretches are those into which neighbours of the same work are split. -/
theorem Stretches.map_snapshots {snapshots : List Transaction} {stretches : List Stretch}
    (h : Stretches snapshots stretches) :
    stretches.map (·.snapshots) = snapshots.splitBy Transaction.sameWork := by
  refine (List.splitBy_eq_iff.mpr ⟨?_, ?_, ?_, ?_⟩).symm
  · rw [← h.joined, List.flatMap_def]
  · simp [Stretch.snapshots]
  · intro row hrow
    obtain ⟨s, -, rfl⟩ := List.mem_map.mp hrow
    exact s.pairwise.isChain
  · refine List.isChain_map _ |>.mpr (h.apart.imp ?_)
    intro s next happart
    refine ⟨List.cons_ne_nil _ _, List.cons_ne_nil _ _, ?_⟩
    exact (s.sameWork_last next.first).trans happart

theorem Stretches.unique {snapshots : List Transaction} {stretches stretches' : List Stretch}
    (h : Stretches snapshots stretches) (h' : Stretches snapshots stretches') :
    stretches' = stretches := by
  apply List.map_injective_iff.mpr Stretch.snapshots_injective
  exact h'.map_snapshots.trans h.map_snapshots.symm

/-! ## The story -/

namespace Stretch

/-- The report that a unit of work is done, by its latest snapshot. -/
def completed (s : Stretch) : Notice :=
  .transactionCompleted s.last.name s.last.elapsedSeconds

/-- The report that a unit of work is the current one, by its first snapshot. -/
def current (s : Stretch) : Notice :=
  .currentTransaction s.first.name s.first.averageDuration

/-- The report of the first work that is seen.  Only a query for the start tells
that the resource has started it. -/
def opened (s : Stretch) (id : ResourceId) : Question → Notice
  | .started => .cycleStarted id s.first.name
  | .ended => s.current

/-- The report that no work is left. -/
def concluded (s : Stretch) (id : ResourceId) : Notice :=
  .cycleCompleted id s.last.name s.last.elapsedSeconds

end Stretch

/-- What is to be reported of neighbouring stretches. -/
def turns (stretches : List Stretch) : List Notice :=
  (stretches.zip stretches.tail).flatMap fun (s, next) => [s.completed, next.current]

/-- What is to be reported of a cycle in these stretches: how it opens, each turn
from one unit of work to the next, and how it ends. -/
def story (opening : Question) (id : ResourceId) (stretches : List Stretch) : List Notice :=
  (stretches.head?.map (·.opened id opening)).toList ++ turns stretches ++
    (stretches.getLast?.map (·.concluded id)).toList

theorem turns_cons_cons (s next : Stretch) (more : List Stretch) :
    turns (s :: next :: more) = s.completed :: next.current :: turns (next :: more) :=
  rfl

/-- What comparing each snapshot with the one before it tells, up to the end. -/
def narrated (id : ResourceId) (last : Transaction) : List Transaction → List Notice
  | [] => [.cycleCompleted id last.name last.elapsedSeconds]
  | t :: rest =>
    (if last.sameWork t then []
      else [.transactionCompleted last.name last.elapsedSeconds,
        .currentTransaction t.name t.averageDuration]) ++ narrated id t rest

/-- Nothing is told within a stretch. -/
theorem narrated_row (id : ResourceId) (first : Transaction) (row more : List Transaction)
    (same : (first :: row).Pairwise fun t u => t.sameWork u = true) :
    narrated id first (row ++ more) =
      narrated id ((first :: row).getLast (List.cons_ne_nil _ _)) more := by
  induction row generalizing first with
  | nil => rfl
  | cons t row ih =>
    obtain ⟨hfirst, hrow⟩ := List.pairwise_cons.mp same
    rw [List.cons_append, narrated, if_pos (hfirst t List.mem_cons_self), List.nil_append,
      ih t hrow, List.getLast_cons (List.cons_ne_nil t row)]

/-- Comparing neighbours tells of each turn between stretches, and of the end. -/
theorem narrated_stretches (id : ResourceId) (s : Stretch) (more : List Stretch)
    (apart : (s :: more).IsChain fun s next => s.first.sameWork next.first = false) :
    narrated id s.first (s.rest ++ more.flatMap (·.snapshots)) =
      turns (s :: more) ++ ((s :: more).getLast?.map (·.concluded id)).toList := by
  have within := narrated_row id s.first s.rest (more.flatMap (·.snapshots)) s.pairwise
  induction more generalizing s with
  | nil => exact within
  | cons next more ih =>
    obtain ⟨happart, hmore⟩ := List.isChain_cons_cons.mp apart
    have hturn : s.last.sameWork next.first ≠ true := by
      rw [s.sameWork_last, happart]
      exact Bool.false_ne_true
    have hnext := ih next hmore (narrated_row id next.first next.rest _ next.pairwise)
    rw [within, List.flatMap_cons]
    show narrated id s.last (next.first :: (next.rest ++ more.flatMap (·.snapshots))) = _
    rw [narrated, if_neg hturn, hnext, turns_cons_cons, List.getLast?_cons_cons]
    rfl

theorem level_of_mem_story (opening : Question) (id : ResourceId) (stretches : List Stretch) :
    ∀ notice ∈ story opening id stretches, notice.level = .info := by
  intro notice h
  simp only [story, turns, List.mem_append, List.mem_flatMap, Option.mem_toList,
    Option.map_eq_some_iff, List.mem_cons, List.not_mem_nil, or_false] at h
  rcases h with (⟨s, -, rfl⟩ | ⟨_, -, rfl | rfl⟩) | ⟨s, -, rfl⟩
  · cases opening <;> rfl
  · rfl
  · rfl
  · rfl

/-! ## The polls of a cycle -/

/-- Polls for the end of a cycle, up to the first that finds nothing active. -/
inductive AwaitsEnd (id : ResourceId) : List Poll → Prop where
  | finished (time : Nat) : AwaitsEnd id [⟨⟨.ended, id⟩, time, .ok none⟩]
  | active {rest : List Poll} (time : Nat) (t : Transaction) (tail : AwaitsEnd id rest) :
    AwaitsEnd id (⟨⟨.ended, id⟩, time, .ok (some t)⟩ :: rest)
  | failed {rest : List Poll} (time : Nat) (cause : Error) (tail : AwaitsEnd id rest) :
    AwaitsEnd id (⟨⟨.ended, id⟩, time, .error cause⟩ :: rest)

/-- The polls of one cycle of a resource: polls with the opening question, up to
the first that sees a transaction, and then polls for the end. -/
inductive FollowsCycle (opening : Question) (id : ResourceId) : List Poll → Prop where
  | opened {rest : List Poll} (time : Nat) (t : Transaction) (tail : AwaitsEnd id rest) :
    FollowsCycle opening id (⟨⟨opening, id⟩, time, .ok (some t)⟩ :: rest)
  | idle {rest : List Poll} (time : Nat) (tail : FollowsCycle opening id rest) :
    FollowsCycle opening id (⟨⟨opening, id⟩, time, .ok none⟩ :: rest)
  | failed {rest : List Poll} (time : Nat) (cause : Error)
    (tail : FollowsCycle opening id rest) :
    FollowsCycle opening id (⟨⟨opening, id⟩, time, .error cause⟩ :: rest)

/-- The snapshots that polls saw. -/
def observed (polls : List Poll) : List Transaction :=
  polls.filterMap (·.snapshot?)

namespace Tracker

/-- What is reported during a poll. -/
def report (tracker : Tracker) (p : Poll) : List Notice :=
  match p.reply with
  | .error _ => []
  | .ok active =>
    match p.question with
    | .started => (tracker.started p.id active).2.2
    | .ended => (tracker.ended p.id active).2.2

/-- What is reported during polls. -/
def reports (tracker : Tracker) : List Poll → List Notice
  | [] => []
  | p :: rest => tracker.report p ++ (tracker.poll p).2.reports rest

/-- A tracker that remembers a snapshot tells how those that follow compare. -/
theorem reports_awaitsEnd {id : ResourceId} {polls : List Poll} (h : AwaitsEnd id polls)
    {tracker : Tracker} {last : Transaction} (hlast : tracker.last? id = some last) :
    tracker.reports polls = narrated id last (observed polls) := by
  induction h generalizing tracker last with
  | finished time => simp [reports, report, ended, hlast, observed, Poll.snapshot?, narrated]
  | @active rest time t tail ih =>
    have hnext := tracker.last?_poll ⟨⟨.ended, id⟩, time, .ok (some t)⟩ id
    rw [if_pos rfl] at hnext
    have htail := ih hnext
    have hobserved : observed (⟨⟨.ended, id⟩, time, .ok (some t)⟩ :: rest) =
        t :: observed rest := rfl
    rw [reports, htail, hobserved, narrated]
    simp [report, ended, hlast]
  | @failed rest time cause tail ih =>
    exact ih hlast

/-- What a tracker tells of a cycle, when it remembers nothing of the resource. -/
theorem reports_followsCycle {opening : Question} {id : ResourceId} {polls : List Poll}
    (h : FollowsCycle opening id polls) {tracker : Tracker} (fresh : tracker.last? id = none)
    {stretches : List Stretch} (split : Stretches (observed polls) stretches) :
    tracker.reports polls = story opening id stretches := by
  induction h generalizing tracker with
  | @opened rest time t tail =>
    have hseen := tracker.last?_poll ⟨⟨opening, id⟩, time, .ok (some t)⟩ id
    rw [if_pos rfl, fresh] at hseen
    have hlast : (tracker.poll ⟨⟨opening, id⟩, time, .ok (some t)⟩).2.last? id = some t := by
      rw [hseen]
      cases opening <;> rfl
    obtain ⟨joined, apart⟩ := split
    cases stretches with
    | nil => exact absurd joined (List.cons_ne_nil t (observed rest)).symm
    | cons s more =>
      obtain ⟨rfl, hrest⟩ : s.first = t ∧ s.rest ++ more.flatMap (·.snapshots) = observed rest :=
        List.cons.inj joined
      have hopened : tracker.report ⟨⟨opening, id⟩, time, .ok (some s.first)⟩ =
          [s.opened id opening] := by
        cases opening <;> simp [report, started, ended, fresh, Stretch.opened, Stretch.current]
      rw [reports, hopened, reports_awaitsEnd tail hlast, ← hrest, narrated_stretches id s more apart,
        story, List.append_assoc]
      rfl
  | @idle rest time tail ih =>
    have hnext := tracker.last?_poll ⟨⟨opening, id⟩, time, .ok none⟩ id
    rw [if_pos rfl, fresh] at hnext
    have hstill : (tracker.poll ⟨⟨opening, id⟩, time, .ok none⟩).2.last? id = none := by
      rw [hnext]
      cases opening <;> rfl
    have hnothing : tracker.report ⟨⟨opening, id⟩, time, .ok none⟩ = [] := by
      cases opening <;> simp [report, started, ended, fresh]
    rw [reports, hnothing, List.nil_append]
    exact ih hstill split
  | @failed rest time cause tail ih => exact ih fresh split

end Tracker

/-! ## Any vendor -/

/-- Reports in order are added to the reports of a run and change nothing else. -/
theorem run_notifyAll (v : Vendor σ) (notices : List Notice) (run : Run σ) :
    let after := ((Workflow.notifyAll notices).run v run).2
    after.notices = run.notices ++ notices ∧ after.exchanges = run.exchanges := by
  induction notices generalizing run with
  | nil => exact ⟨(List.append_nil _).symm, rfl⟩
  | cons notice notices ih =>
    obtain ⟨hnotices, hexchanges⟩ := ih { run with events := .noticed run.now notice :: run.events }
    refine ⟨hnotices.trans ?_, hexchanges.trans (Run.exchanges_noticed ..)⟩
    simp [Run.notices, Run.history, Event.notice?]

/-- A query is a poll of the feed, and it reports what the tracker tells during it. -/
theorem run_ask (v : Vendor σ) (query : Query) (tracker : Tracker) (run : Run σ) :
    let asked := (query.ask tracker).run.run v run
    ∃ p : Poll, p.toQuery = query ∧ tracker.settle asked.1 = tracker.poll p ∧
      asked.2.exchanges = run.exchanges ++ [p.exchange] ∧
      asked.2.notices = run.notices ++ tracker.report p := by
  obtain ⟨question, id⟩ := query
  rcases answers : v.respond run.vendor run.now (.activeTransaction id) with ⟨vendor, delay, reply⟩
  let polled : Run σ :=
    ⟨vendor, run.now + delay, .asked run.now (.activeTransaction id) reply :: run.events⟩
  have hexchanges : polled.exchanges = run.exchanges ++ [⟨run.now, .activeTransaction id, reply⟩] :=
    Run.exchanges_asked ..
  have hnotices : polled.notices = run.notices := by
    simp [polled, Run.notices, Run.history, Event.notice?]
  refine ⟨⟨⟨question, id⟩, run.now, reply⟩, rfl, ?_⟩
  cases reply with
  | error cause =>
    have hsilent : polled.notices = run.notices ++ [] := by rw [hnotices, List.append_nil]
    cases question
    all_goals
      simp only [Query.ask, transactionsStarted, transactionsEnded, Procedure.run_bind,
        run_request answers]
      exact ⟨rfl, hexchanges, hsilent⟩
  | ok active =>
    have told : ∀ notices : List Notice,
        let after := ((Workflow.notifyAll notices).run v polled).2
        after.exchanges = run.exchanges ++ [⟨run.now, .activeTransaction id, .ok active⟩] ∧
          after.notices = run.notices ++ notices := by
      intro notices
      obtain ⟨hnotified, hsame⟩ := run_notifyAll v notices polled
      exact ⟨hsame.trans hexchanges, by rw [hnotified, hnotices]⟩
    cases question
    all_goals
      simp only [Query.ask, transactionsStarted, transactionsEnded, Procedure.run_bind,
        run_request answers]
      rw [Procedure.run_liftM]
      exact ⟨rfl, told _⟩

/-- Queries are polls of the feeds, and they report what the tracker tells during them. -/
theorem run_watch (v : Vendor σ) (queries : List Query) (tracker : Tracker) (run : Run σ) :
    let after := ((watch queries tracker).run v run).2
    ∃ polls : List Poll, polls.map (·.toQuery) = queries ∧
      after.exchanges = run.exchanges ++ polls.map (·.exchange) ∧
      after.notices = run.notices ++ tracker.reports polls := by
  induction queries generalizing tracker run with
  | nil => exact ⟨[], rfl, (List.append_nil _).symm, (List.append_nil _).symm⟩
  | cons query rest ih =>
    obtain ⟨p, hquery, hsettled, hexchanges, hnotices⟩ := run_ask v query tracker run
    obtain ⟨polls, hqueries, hexchanges', hnotices'⟩ :=
      ih (tracker.poll p).2 ((query.ask tracker).run.run v run).2
    have hrun : ((watch (query :: rest) tracker).run v run).2 =
        ((watch rest (tracker.poll p).2).run v ((query.ask tracker).run.run v run).2).2 := by
      show ((Workflow.bind _ _).run v run).2 = _
      rw [Workflow.run_bind, hsettled]
      show ((Workflow.bind _ _).run v _).2 = _
      rw [Workflow.run_bind]
      rfl
    refine ⟨p :: polls, ?_, ?_, ?_⟩
    · rw [List.map_cons, hquery, hqueries]
    · rw [hrun, hexchanges', hexchanges, List.map_cons, List.append_assoc]
      rfl
    · rw [hrun, hnotices', hnotices, Tracker.reports, List.append_assoc]

/-- A query and the exchange it led to make the poll. -/
theorem Poll.eq_of_exchange {p q : Poll} (hquery : p.toQuery = q.toQuery)
    (hexchange : p.exchange = q.exchange) : p = q := by
  obtain ⟨query, time, reply⟩ := p
  obtain ⟨query', time', reply'⟩ := q
  obtain rfl : query = query' := hquery
  obtain ⟨rfl, -, hanswer⟩ := Exchange.mk.inj hexchange
  have hreply : reply = reply' := eq_of_heq hanswer
  rw [hreply]

/-- So the polls of a run can be read off its exchanges. -/
theorem polls_eq_of_exchanges {polls polls' : List Poll}
    (hqueries : polls.map (·.toQuery) = polls'.map (·.toQuery))
    (hexchanges : polls.map (·.exchange) = polls'.map (·.exchange)) : polls = polls' := by
  induction polls generalizing polls' with
  | nil => exact (List.map_eq_nil_iff.mp hqueries.symm).symm
  | cons p polls ih =>
    cases polls' with
    | nil => exact absurd hqueries (List.cons_ne_nil _ _)
    | cons p' polls' =>
      obtain ⟨hquery, hqueries⟩ := List.cons.inj hqueries
      obtain ⟨hexchange, hexchanges⟩ := List.cons.inj hexchanges
      rw [Poll.eq_of_exchange hquery hexchange, ih hqueries hexchanges]

/-- The reports of a cycle tell its true story, whatever the vendor answers.  Let a tracker
that remembers nothing of a resource be asked the queries of some polls, and let the vendor
answer so that they are these polls; let them follow one cycle of the resource, opened by
either question.  Then what they saw falls into stretches of the same work, in one way
only, and the reports are the story of these stretches and nothing else. -/
theorem reports_tell_the_story (v : Vendor σ) (start : Run σ) (tracker : Tracker)
    (opening : Question) (id : ResourceId) (polls : List Poll)
    (fresh : tracker.last? id = none) (cycle : FollowsCycle opening id polls) :
    let final := ((watch (polls.map (·.toQuery)) tracker).run v start).2
    final.exchanges = start.exchanges ++ polls.map (·.exchange) →
      ∃ stretches, Stretches (observed polls) stretches ∧
        (∀ others, Stretches (observed polls) others → others = stretches) ∧
        final.notices = start.notices ++ story opening id stretches ∧
        ∀ notice ∈ story opening id stretches, notice.level = .info := by
  intro final answered
  obtain ⟨polled, hqueries, hexchanges, hnotices⟩ :=
    run_watch v (polls.map (·.toQuery)) tracker start
  have hpolls : polled = polls := by
    apply polls_eq_of_exchanges hqueries
    exact List.append_cancel_left (hexchanges.symm.trans answered)
  subst hpolls
  obtain ⟨stretches, split⟩ := exists_stretches (observed polled)
  refine ⟨stretches, split, fun others other => split.unique other, ?_, ?_⟩
  · rw [← Tracker.reports_followsCycle cycle fresh split]
    exact hnotices
  · exact level_of_mem_story opening id stretches

/-- Polls of a cycle in which a unit of work comes back after another one, and in which one
query fails. -/
def pollsOfReturn : List Poll :=
  [⟨⟨.started, ⟨7⟩⟩, 0, .ok none⟩,
    ⟨⟨.started, ⟨7⟩⟩, 0, .ok (some ⟨1, "PROVISION_SERVER", 0, 0⟩)⟩,
    ⟨⟨.ended, ⟨7⟩⟩, 0, .ok (some ⟨1, "PROVISION_SERVER", 30, 0⟩)⟩,
    ⟨⟨.ended, ⟨7⟩⟩, 0, .error (.timeout 1)⟩,
    ⟨⟨.ended, ⟨7⟩⟩, 0, .ok (some ⟨2, "OS_RELOAD", 5, 0⟩)⟩,
    ⟨⟨.ended, ⟨7⟩⟩, 0, .ok (some ⟨1, "PROVISION_SERVER", 45, 0⟩)⟩,
    ⟨⟨.ended, ⟨7⟩⟩, 0, .ok none⟩]

/-- The work that comes back is told of twice. -/
theorem reports_tell_of_return :
    let final := ((watch (pollsOfReturn.map (·.toQuery)) {}).run .ofReplies
      ⟨pollsOfReturn.map (·.reply), 0, []⟩).2
    Tracker.last? {} ⟨7⟩ = none ∧ FollowsCycle .started ⟨7⟩ pollsOfReturn ∧
      final.exchanges = pollsOfReturn.map (·.exchange) ∧
      ∃ stretches, Stretches (observed pollsOfReturn) stretches ∧
        (∀ others, Stretches (observed pollsOfReturn) others → others = stretches) ∧
        final.notices = story .started ⟨7⟩ stretches ∧
        ∀ notice ∈ story .started ⟨7⟩ stretches, notice.level = .info := by
  intro final
  have cycle : FollowsCycle .started ⟨7⟩ pollsOfReturn :=
    .idle 0 (.opened 0 _ (.active 0 _ (.failed 0 _ (.active 0 _ (.active 0 _ (.finished 0))))))
  have answered : final.exchanges = pollsOfReturn.map (·.exchange) := rfl
  have told := reports_tell_the_story .ofReplies ⟨pollsOfReturn.map (·.reply), 0, []⟩ {}
    .started ⟨7⟩ pollsOfReturn rfl cycle
  exact ⟨rfl, cycle, answered, told answered⟩

end Provisioning
