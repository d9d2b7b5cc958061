import Provisioning.Proofs.Concurrent.Soundness

/-!
# Workflows on distinct resources do not interfere

Each task of a pool gets on as if the others were not there, provided that they
are there for distinct resources.  `Pool.Undisturbed` says what a task can rely
on, and `workflows_undisturbed` that it can do so after any moves.

Feeds are compared between runs too.  Where a feed is put in place by the
vendor its transactions are numbered as they come, so two runs show a task the
same but for these numbers (`Pool.AgreeOn`).
-/

namespace Provisioning

variable {ι : Type} {start : Simulator} {pool : Pool ι}

/-! ## What follows for the tasks -/

/-- A unit of work whatever its number. -/
def Transaction.unnumbered (t : Transaction) : Transaction :=
  { t with id := 0 }

/-- What a task in a pool can rely on, whatever the others do. -/
structure Pool.Undisturbed (start : Simulator) (pool : Pool ι) : Prop where
  /-- A creation that succeeds brings back the resource that it has ordered. -/
  created : ∀ i p w node, (pool.tasks i).errand = .create p w →
    (pool.tasks i).result? = some (.created (.ok node)) →
    ∃ id, (pool.tasks i).given = some id ∧ node.IsOf id w.hostname
  /-- Every call concerns the own resource or none. -/
  asks : ∀ i, ∀ exchange ∈ (pool.tasks i).exchanges,
    exchange.call.KeepsTo start (pool.tasks i).own
  /-- The own feed shows the entries of its script in order. -/
  feed : ∀ i id, (pool.tasks i).own = some id → ∃ number, (pool.tasks i).feed =
    (List.range (pool.tasks i).feed.length).map fun n =>
      ((pool.tasks i).errand.entries start id number)[n]?.join
  /-- Without a resource there is no feed. -/
  idle : ∀ i, (pool.tasks i).own = none → (pool.tasks i).feed = []
  /-- The own resource is what the own looks have made of it. -/
  kept : ∀ i id, (pool.tasks i).own = some id →
    ∃ base, (pool.tasks i).errand.Begins start id base ∧
      pool.vendor.holding id = base.after (pool.tasks i).feed.length
  /-- A reserved id goes to the order that it is reserved for. -/
  reserved : ∀ i p w id reserved, (pool.tasks i).errand = .create p w →
    (pool.tasks i).given = some id → start.reservedIds.find? w.hostname = some reserved →
    id = reserved
  /-- What nobody owns is as it was. -/
  bystander : ∀ id, (∀ i, (pool.tasks i).own ≠ some id) →
    pool.vendor.holding id = start.holding id

/-- No id is given to an order while it is reserved for another. -/
def Pool.KeepsReservations (start : Simulator) (pool : Pool ι) : Prop :=
  ∀ i p w id, (pool.tasks i).errand = .create p w → (pool.tasks i).given = some id →
    ∀ hostname, start.reservedIds.find? hostname = some id → hostname = w.hostname

/-- Feeds are in place for resources that are there and for reserved ids only. -/
def Simulator.FeedsKnown (s : Simulator) : Prop :=
  ∀ id script, s.scripts.find? id = some script →
    (∃ badge ∈ s.badges, badge.id = id) ∨ ∃ hostname, s.reservedIds.find? hostname = some id

/-- A task is shown the same in two pools, except for the numbers of the
transactions. -/
def Pool.AgreeOn (pool other : Pool ι) (i : ι) : Prop :=
  ∀ (n : Nat) (shown shown' : Option Transaction), (pool.tasks i).feed[n]? = some shown →
    (other.tasks i).feed[n]? = some shown' →
    shown.map Transaction.unnumbered = shown'.map Transaction.unnumbered

theorem Task.left_of_result? {task : Task} {result : ErrandResult}
    (h : task.result? = some result) : task.left = .plain (.done result) := by
  unfold result? at h
  split at h
  · rename_i heq
    rw [heq, Option.some.inj h]
  · cases h

/-- A task is shown as much as it looks. -/
theorem Stands.length_feed {vendor : Simulator} {task : Task} {o : Ownership}
    (stands : Stands start vendor task (some o)) : task.feed.length = o.looks := by
  rw [stands.feed]
  show (o.base.shown o.looks).length = o.looks
  unfold Holding.shown
  rw [List.length_map, List.length_range]

/-- The feed of an owner shows the entries of its script. -/
theorem Stands.feed_eq {vendor : Simulator} {task : Task} {o : Ownership}
    (stands : Stands start vendor task (some o)) :
    ∃ number, task.feed = (List.range task.feed.length).map fun n =>
      (task.errand.entries start o.id number)[n]?.join := by
  rw [stands.length_feed, stands.feed]
  by_cases hlooks : o.looks = 0
  · refine ⟨0, ?_⟩
    show o.base.shown o.looks = _
    rw [hlooks]
    rfl
  · obtain ⟨script, hscript⟩ := Option.isSome_iff_exists.mp (stands.looked o rfl hlooks)
    obtain ⟨number, hentries⟩ := (stands.begins o rfl).entries hscript
    refine ⟨number, ?_⟩
    rw [← hentries]
    exact Holding.shown_eq hscript o.looks

/-- Who owns a resource stands somewhere with it. -/
theorem Sound.owner (sound : Sound start pool) {i : ι} {id : ResourceId}
    (own : (pool.tasks i).own = some id) :
    ∃ o, Stands start pool.vendor (pool.tasks i) (some o) ∧ o.id = id := by
  obtain ⟨g, stands⟩ := sound.stands i
  rw [stands.own] at own
  obtain ⟨o, ho, hid⟩ := Option.map_eq_some_iff.mp own
  rw [ho] at stands
  exact ⟨o, stands, hid⟩

theorem Sound.undisturbed (sound : Sound start pool) : pool.Undisturbed start := by
  refine ⟨?created, ?asks, ?feed, ?idle, ?kept, sound.reserved, sound.bystander⟩
  case created =>
    intro i p w node errand result
    obtain ⟨g, stands⟩ := sound.stands i
    have left := stands.left
    rw [Task.left_of_result? result] at left
    obtain ⟨o, ho, isOf⟩ := left p w node errand rfl
    have own := stands.own
    unfold Task.own at own
    rw [errand, ho] at own
    exact ⟨o.id, own, isOf⟩
  case asks =>
    intro i exchange hexchange
    obtain ⟨g, stands⟩ := sound.stands i
    rw [stands.own]
    exact stands.asks exchange hexchange
  case feed =>
    intro i id own
    obtain ⟨o, stands, rfl⟩ := sound.owner own
    exact stands.feed_eq
  case idle =>
    intro i own
    obtain ⟨g, stands⟩ := sound.stands i
    rw [stands.own, Option.map_eq_none_iff] at own
    rw [stands.feed, own]
    rfl
  case kept =>
    intro i id own
    obtain ⟨o, stands, rfl⟩ := sound.owner own
    rw [stands.length_feed]
    exact ⟨o.base, stands.begins o rfl, stands.holding o rfl⟩

/-! ## Two runs of a task -/

/-- The entries of feeds differ in numbers only if the same feeds are in place. -/
theorem Errand.entries_unnumbered (errand : Errand) {s : Simulator} {id id' : ResourceId}
    (same : s.scripts.find? id = s.scripts.find? id') (number number' n : Nat) :
    ((errand.entries s id number)[n]?.join).map Transaction.unnumbered =
      ((errand.entries s id' number')[n]?.join).map Transaction.unnumbered := by
  have lists : (errand.entries s id number).map (·.map Transaction.unnumbered) =
      (errand.entries s id' number').map (·.map Transaction.unnumbered) := by
    unfold entries
    rw [same]
    cases s.scripts.find? id' with
    | some script => rfl
    | none => cases errand <;> rfl
  have join : ∀ entries : List (Option Transaction),
      (entries[n]?.join).map Transaction.unnumbered =
        ((entries.map (·.map Transaction.unnumbered))[n]?).join := by
    intro entries
    rw [List.getElem?_map]
    cases entries[n]? <;> rfl
  rw [join, join, lists]

theorem eq_of_getElem?_map_range {α : Type} {f : Nat → α} {count n : Nat} {a : α}
    (h : ((List.range count).map f)[n]? = some a) : a = f n := by
  obtain ⟨hlt, heq⟩ := List.getElem?_eq_some_iff.mp h
  rw [← heq, List.getElem_map, List.getElem_range]

/-- An id that was given but not reserved has no feed in place. -/
theorem scripts_of_unreserved {i : ι} {p : Provisioner} {w : CreateRequest} {id : ResourceId}
    (known : start.FeedsKnown) (separate : pool.Separate start)
    (keeps : pool.KeepsReservations start) (herrand : (pool.tasks i).errand = .create p w)
    (hgiven : (pool.tasks i).given = some id)
    (unreserved : start.reservedIds.find? w.hostname = none) : start.scripts.find? id = none := by
  cases hscript : start.scripts.find? id with
  | none => rfl
  | some script =>
    rcases known id script hscript with ⟨badge, hbadge, hid⟩ | ⟨hostname, hreserved⟩
    · exact absurd hid (separate.unused i id hgiven badge hbadge).1
    · rw [keeps i p w id herrand hgiven hostname hreserved, unreserved] at hreserved
      cases hreserved

/-- A task that owns resources with the same feed in two pools is shown the same
in both. -/
theorem Pool.Undisturbed.agreeOn {other : Pool ι} {i : ι} (h : pool.Undisturbed start)
    (h' : other.Undisturbed start) (errand : (other.tasks i).errand = (pool.tasks i).errand)
    (same : ∀ id id', (pool.tasks i).own = some id → (other.tasks i).own = some id' →
      start.scripts.find? id = start.scripts.find? id') : pool.AgreeOn other i := by
  unfold AgreeOn
  intro n shown shown' hshown hshown'
  cases own : (pool.tasks i).own with
  | none =>
    rw [h.idle i own] at hshown
    cases hshown
  | some id =>
    cases own' : (other.tasks i).own with
    | none =>
      rw [h'.idle i own'] at hshown'
      cases hshown'
    | some id' =>
      obtain ⟨number, hfeed⟩ := h.feed i id own
      obtain ⟨number', hfeed'⟩ := h'.feed i id' own'
      rw [hfeed] at hshown
      rw [hfeed'] at hshown'
      rw [eq_of_getElem?_map_range hshown, eq_of_getElem?_map_range hshown', errand]
      exact (pool.tasks i).errand.entries_unnumbered (same id id' own own') number number' n

/-- Workflows on distinct resources do not interfere, whatever the order of
their calls and pauses.  Every other run of the same errands, one in which only
one task moves included, shows a task the same. -/
theorem workflows_undisturbed [DecidableEq ι] (now : Nat) {start : Simulator} (tidy : start.Tidy)
    (errands : ι → Errand) (moves : List (PoolMove ι))
    (separate : ((Pool.begin now start errands).after moves).Separate start) :
    ((Pool.begin now start errands).after moves).Undisturbed start ∧
      ∀ now' others, start.FeedsKnown →
        ((Pool.begin now start errands).after moves).KeepsReservations start →
        ((Pool.begin now' start errands).after others).Separate start →
        ((Pool.begin now' start errands).after others).KeepsReservations start →
        ∀ i, ((Pool.begin now start errands).after moves).AgreeOn
          ((Pool.begin now' start errands).after others) i := by
  have sound := (sound_begin now tidy errands).after moves separate
  refine ⟨sound.undisturbed, ?_⟩
  intro now' others known keeps separate' keeps' i
  have sound' := (sound_begin now' tidy errands).after others separate'
  have errand := fun now moves => Pool.errand_after (Pool.begin now start errands) moves i
  refine sound.undisturbed.agreeOn sound'.undisturbed ?_ ?_
  · rw [errand, errand]
    rfl
  intro id id' own own'
  unfold Task.own at own own'
  rw [errand] at own own'
  cases herrand : errands i with
  | list p =>
    rw [show ((Pool.begin now start errands).tasks i).errand = _ from herrand] at own
    cases own
  | destroy p id'' =>
    rw [show ((Pool.begin now start errands).tasks i).errand = _ from herrand] at own
    rw [show ((Pool.begin now' start errands).tasks i).errand = _ from herrand] at own'
    cases own
    cases own'
    rfl
  | create p w =>
    rw [show ((Pool.begin now start errands).tasks i).errand = _ from herrand] at own
    rw [show ((Pool.begin now' start errands).tasks i).errand = _ from herrand] at own'
    have herrand₁ := (errand now moves).trans herrand
    have herrand₂ := (errand now' others).trans herrand
    cases hreserved : start.reservedIds.find? w.hostname with
    | some reserved =>
      rw [sound.reserved i p w id reserved herrand₁ own hreserved,
        sound'.reserved i p w id' reserved herrand₂ own' hreserved]
    | none =>
      rw [scripts_of_unreserved known separate keeps herrand₁ own hreserved,
        scripts_of_unreserved known separate' keeps' herrand₂ own' hreserved]

/-- The task has created its node. -/
def Task.created (task : Task) : Bool :=
  match task.result? with
  | some (.created (.ok _)) => true
  | _ => false

/-- The task has destroyed its resource. -/
def Task.destroyed (task : Task) : Bool :=
  match task.result? with
  | some (.destroyed (.ok _)) => true
  | _ => false

theorem Task.exists_node_of_created {task : Task} (h : task.created = true) :
    ∃ node, task.result? = some (.created (.ok node)) := by
  unfold created at h
  split at h
  · exact ⟨_, ‹_›⟩
  · cases h

/-- How far a task of a pool has come: the id that its order was given, how often it has
looked at its feed, and whether it has created its node or destroyed its resource. -/
def Pool.progress (pool : Pool ι) (i : ι) : Option ResourceId × Nat × Bool × Bool :=
  let task := pool.tasks i
  (task.given, task.feed.length, task.created, task.destroyed)

/-- Rounds of `often` turns each, with a millisecond after every round. -/
def PoolMove.rounds (count often : Nat) (turn : List (PoolMove ι)) : List (PoolMove ι) :=
  (List.replicate count ((List.replicate often turn).flatten ++ [.wait 1])).flatten

/-- A creation and a destruction that take turns until both have succeeded, and the
creation alone. -/
theorem workflows_undisturbed_for_two :
    let policy : StagePolicy := ⟨3, 1, 2⟩
    let polling : PollingConfig :=
      { orderApproved := policy, transactionsStarted := policy, transactionsEnded := policy }
    let provisioner : Provisioner := ⟨{ polling := polling }, by decide⟩
    let wanted : CreateRequest := ⟨"db01", none, "dal05", "17438", "1921,1267"⟩
    let old : Resource :=
      { id := ⟨7⟩, hostname := "db00", domain := "example.com", billingItemId := some 71 }
    let start := (Simulator.withDemoCatalog .bareMetal).insertResource old
    let errands : Bool → Errand := fun creates =>
      if creates then .create provisioner wanted else .destroy provisioner ⟨7⟩
    let fetched : PoolMove Bool := .supply true (.ok (Demo.catalog .bareMetal))
    ∃ pool alone, pool = (Pool.begin 0 start errands).after
        (fetched :: PoolMove.rounds 4 8 [.step true, .step false]) ∧
      alone = (Pool.begin 0 start errands).after (fetched :: PoolMove.rounds 4 8 [.step true]) ∧
      pool.progress true = (some ⟨1⟩, 4, true, false) ∧
      pool.progress false = (none, 3, false, true) ∧
      alone.progress true = (some ⟨1⟩, 4, true, false) ∧
      alone.progress false = (none, 0, false, false) ∧
      (∃ node, (pool.tasks true).result? = some (.created (.ok node)) ∧ node.IsOf ⟨1⟩ "db01") ∧
      pool.Undisturbed start ∧ pool.AgreeOn alone true := by
  intro policy polling provisioner wanted old start errands fetched
  obtain ⟨pool, hpool⟩ : ∃ pool, pool = (Pool.begin 0 start errands).after
    (fetched :: PoolMove.rounds 4 8 [.step true, .step false]) := ⟨_, rfl⟩
  obtain ⟨alone, halone⟩ : ∃ alone, alone = (Pool.begin 0 start errands).after
    (fetched :: PoolMove.rounds 4 8 [.step true]) := ⟨_, rfl⟩
  -- `progress` hides the projections of the pool, under which runs this long are unfolded
  -- too deeply when the evaluated statement is compared with the one to be proved
  have progress : pool.progress true = (some ⟨1⟩, 4, true, false) ∧
      pool.progress false = (none, 3, false, true) := by
    rw [hpool]
    constructor <;> decide +kernel
  have progress' : alone.progress true = (some ⟨1⟩, 4, true, false) ∧
      alone.progress false = (none, 0, false, false) := by
    rw [halone]
    constructor <;> decide +kernel
  have errand : ∀ i, (pool.tasks i).errand = errands i := by
    rw [hpool]
    exact fun i => Pool.errand_after _ _ i
  have errand' : ∀ i, (alone.tasks i).errand = errands i := by
    rw [halone]
    exact fun i => Pool.errand_after _ _ i
  -- both runs give the same ids to the same errands
  have separate : ∀ pool : Pool Bool, (∀ i, (pool.tasks i).errand = errands i) →
      (pool.tasks true).given = some ⟨1⟩ → (pool.tasks false).given = none →
      pool.Separate start := by
    intro pool errand given ungiven
    refine ⟨?names, ?newNames, ?given, ?unused, ?destroyed, ?existing⟩
    case names =>
      intro i j p q v w hne hi hj
      rw [errand] at hi hj
      cases i <;> cases j
      · exact absurd rfl hne
      · cases hi
      · cases hj
      · exact absurd rfl hne
    case newNames =>
      intro i p w hi badge hbadge
      rw [errand] at hi
      cases i
      · cases hi
      · cases hi
        rw [List.mem_singleton.mp hbadge]
        decide
    case given =>
      intro i j id hne hi hj
      cases i <;> cases j
      · exact hne rfl
      · rw [ungiven] at hi
        cases hi
      · rw [ungiven] at hj
        cases hj
      · exact hne rfl
    case unused =>
      intro i id hi badge hbadge
      cases i
      · rw [ungiven] at hi
        cases hi
      · rw [given] at hi
        cases hi
        rw [List.mem_singleton.mp hbadge]
        decide
    case destroyed =>
      intro i j p q id hne hi hj
      rw [errand] at hi hj
      cases i <;> cases j
      · exact hne rfl
      · cases hj
      · cases hi
      · exact hne rfl
    case existing =>
      intro i p id hi
      rw [errand] at hi
      cases i
      · cases hi
        exact ⟨_, List.mem_singleton_self _, rfl⟩
      · cases hi
  have tidy : start.Tidy := List.pairwise_singleton _ _
  have known : start.FeedsKnown := fun _ _ h => (by cases h)
  have keeps : ∀ pool : Pool Bool, pool.KeepsReservations start :=
    fun _ _ _ _ _ _ _ _ h => (by cases h)
  have given := congrArg Prod.fst progress.1
  have separate₁ := separate pool errand given (congrArg Prod.fst progress.2)
  have separate₂ := separate alone errand' (congrArg Prod.fst progress'.1)
    (congrArg Prod.fst progress'.2)
  have both : pool.Undisturbed start ∧ pool.AgreeOn alone true := by
    rw [hpool] at separate₁ ⊢
    rw [halone] at separate₂ ⊢
    obtain ⟨undisturbed, agree⟩ := workflows_undisturbed 0 tidy errands _ separate₁
    exact ⟨undisturbed, agree 0 _ known (keeps _) separate₂ (keeps _) true⟩
  have created : (pool.tasks true).created = true := congrArg (·.2.2.1) progress.1
  obtain ⟨node, hnode⟩ := Task.exists_node_of_created created
  obtain ⟨id, hid, isOf⟩ := both.1.created true provisioner wanted node (errand true) hnode
  cases given.symm.trans hid
  exact ⟨pool, alone, hpool, halone, progress.1, progress.2, progress'.1, progress'.2,
    ⟨node, hnode, isOf⟩, both⟩

end Provisioning
