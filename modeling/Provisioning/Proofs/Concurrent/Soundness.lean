import Provisioning.Proofs.Concurrent.Standing

/-!
# The invariant of a pool

Tasks of a pool share one vendor with one directory, one table of feeds and one
counter of ids.  `Pool.Separate` says that they are there for distinct
resources, and `Sound` is what holds then between moves.

* The vendor is tidy, and every new resource belongs to the task that ordered
  it.
* Every task stands where its own calls have led it (`Stands`).
* What nobody owns is as it was at the beginning.

A move is a step of one task, or nothing that counts.  `Sound.submit` is the
step that orders a resource, `Sound.put` are all others, and `Sound.after` is
the invariant after any moves.
-/

namespace Provisioning

variable {ι : Type} {start : Simulator} {pool : Pool ι}

/-! ## Tasks for distinct resources -/

/-- The tasks are there for distinct resources: new ones under distinct new
hostnames, distinct new ids and new billing items, and distinct old ones. -/
structure Pool.Separate (start : Simulator) (pool : Pool ι) : Prop where
  names : ∀ i j p q v w, i ≠ j → (pool.tasks i).errand = .create p v →
    (pool.tasks j).errand = .create q w → v.hostname ≠ w.hostname
  newNames : ∀ i p w, (pool.tasks i).errand = .create p w →
    ∀ badge ∈ start.badges, badge.hostname ≠ w.hostname
  given : ∀ i j id, i ≠ j → (pool.tasks i).given = some id → (pool.tasks j).given ≠ some id
  unused : ∀ i id, (pool.tasks i).given = some id → ∀ badge ∈ start.badges,
    badge.id ≠ id ∧ badge.billingItemId ≠ some (id.value * 10 + 1)
  destroyed : ∀ i j p q id, i ≠ j → (pool.tasks i).errand = .destroy p id →
    (pool.tasks j).errand ≠ .destroy q id
  existing : ∀ i p id, (pool.tasks i).errand = .destroy p id →
    ∃ badge ∈ start.badges, badge.id = id

/-- No two tasks own the same resource. -/
theorem Pool.Separate.own_unique (h : pool.Separate start) {i j : ι} {id : ResourceId}
    (hi : (pool.tasks i).own = some id) (hj : (pool.tasks j).own = some id) : i = j := by
  by_contra hne
  unfold Task.own at hi hj
  cases herrand : (pool.tasks i).errand with
  | list p =>
    rw [herrand] at hi
    cases hi
  | create p v =>
    rw [herrand] at hi
    cases herrand' : (pool.tasks j).errand with
    | list q =>
      rw [herrand'] at hj
      cases hj
    | create q w =>
      rw [herrand'] at hj
      exact h.given i j id hne hi hj
    | destroy q id' =>
      rw [herrand'] at hj
      cases hj
      obtain ⟨badge, hbadge, hid⟩ := h.existing j q id herrand'
      exact (h.unused i id hi badge hbadge).1 hid
  | destroy p id' =>
    rw [herrand] at hi
    cases hi
    cases herrand' : (pool.tasks j).errand with
    | list q =>
      rw [herrand'] at hj
      cases hj
    | create q w =>
      rw [herrand'] at hj
      obtain ⟨badge, hbadge, hid⟩ := h.existing i p id herrand
      exact (h.unused j id hj badge hbadge).1 hid
    | destroy q id' =>
      rw [herrand'] at hj
      cases hj
      exact h.destroyed i j p q id hne herrand herrand'

section

variable [DecidableEq ι]

namespace Pool

theorem errand_move (pool : Pool ι) (m : PoolMove ι) (j : ι) :
    ((pool.move m).tasks j).errand = (pool.tasks j).errand := by
  cases m with
  | wait ms => rfl
  | browse call =>
    unfold move
    dsimp only
    split <;> rfl
  | supply i catalog =>
    by_cases hj : j = i
    · obtain ⟨left, heq, -⟩ := (pool.tasks i).supply_cases catalog
      show (Function.update pool.tasks i _ j).errand = _
      rw [hj, Function.update_self, heq]
    · show (Function.update pool.tasks i _ j).errand = _
      rw [Function.update_of_ne hj]
  | step i =>
    by_cases hj : j = i
    · show (Function.update pool.tasks i _ j).errand = _
      rw [hj, Function.update_self]
      exact (pool.tasks i).errand_step pool.now pool.vendor
    · show (Function.update pool.tasks i _ j).errand = _
      rw [Function.update_of_ne hj]

theorem errand_after (pool : Pool ι) (moves : List (PoolMove ι)) (j : ι) :
    ((pool.after moves).tasks j).errand = (pool.tasks j).errand := by
  induction moves generalizing pool with
  | nil => rfl
  | cons m rest ih => exact (ih (pool.move m)).trans (pool.errand_move m j)

/-- An id once given stays given. -/
theorem given_move (m : PoolMove ι) {j : ι} {id : ResourceId}
    (h : (pool.tasks j).given = some id) : ((pool.move m).tasks j).given = some id := by
  cases m with
  | wait ms => exact h
  | browse call =>
    unfold move
    dsimp only
    split <;> exact h
  | supply i catalog =>
    show (Function.update pool.tasks i _ j).given = _
    by_cases hj : j = i
    · obtain ⟨left, heq, -⟩ := (pool.tasks i).supply_cases catalog
      rw [hj, Function.update_self, heq, ← hj]
      exact h
    · rw [Function.update_of_ne hj]
      exact h
  | step i =>
    show (Function.update pool.tasks i _ j).given = _
    by_cases hj : j = i
    · rw [hj] at h ⊢
      rw [Function.update_self]
      exact Task.given_step h pool.now pool.vendor
    · rw [Function.update_of_ne hj]
      exact h

/-- Tasks that are separate after a move were separate before. -/
theorem Separate.of_move {m : PoolMove ι} (h : (pool.move m).Separate start) :
    pool.Separate start where
  names i j p q v w hne hi hj :=
    h.names i j p q v w hne (by rw [errand_move, hi]) (by rw [errand_move, hj])
  newNames i p w hi := h.newNames i p w (by rw [errand_move, hi])
  given i j id hne hi hj := h.given i j id hne (given_move m hi) (given_move m hj)
  unused i id hi := h.unused i id (given_move m hi)
  destroyed i j p q id hne hi hj :=
    h.destroyed i j p q id hne (by rw [errand_move, hi]) (by rw [errand_move, hj])
  existing i p id hi := h.existing i p id (by rw [errand_move, hi])

theorem Separate.of_after {moves : List (PoolMove ι)} (h : (pool.after moves).Separate start) :
    pool.Separate start := by
  induction moves generalizing pool with
  | nil => exact h
  | cons m rest ih =>
    have next : (pool.move m).Separate start := ih h
    exact next.of_move

end Pool

end

/-! ## The invariant -/

/-- A resource with this badge was there at the beginning or was ordered by a
task. -/
def Pool.Accounts (start : Simulator) (pool : Pool ι) (badge : Badge) : Prop :=
  badge ∈ start.badges ∨ ∃ i p w, (pool.tasks i).errand = .create p w ∧
    (pool.tasks i).given = some badge.id ∧ badge.hostname = w.hostname ∧
    badge.billingItemId = some (badge.id.value * 10 + 1)

/-- What holds of a pool between moves. -/
structure Sound (start : Simulator) (pool : Pool ι) : Prop where
  tidy : pool.vendor.Tidy
  accounts : ∀ badge ∈ pool.vendor.badges, pool.Accounts start badge
  stands : ∀ i, ∃ g, Stands start pool.vendor (pool.tasks i) g
  bystander : ∀ id, (∀ i, (pool.tasks i).own ≠ some id) →
    pool.vendor.holding id = start.holding id
  waiting : ∀ i p w, (pool.tasks i).errand = .create p w → (pool.tasks i).given = none →
    pool.vendor.reservedIds.find? w.hostname = start.reservedIds.find? w.hostname
  reserved : ∀ i p w id reserved, (pool.tasks i).errand = .create p w →
    (pool.tasks i).given = some id → start.reservedIds.find? w.hostname = some reserved →
    id = reserved

/-- An id that is not in use and that no task was given. -/
structure Pool.Free (start : Simulator) (pool : Pool ι) (id : ResourceId) : Prop where
  unused : ∀ badge ∈ start.badges, badge.id ≠ id ∧ badge.billingItemId ≠ some (id.value * 10 + 1)
  nobody : ∀ i, (pool.tasks i).given ≠ some id

/-- Nobody owns a free id. -/
theorem Pool.Free.unowned {id : ResourceId} (free : pool.Free start id)
    (separate : pool.Separate start) (i : ι) : (pool.tasks i).own ≠ some id := by
  intro own
  unfold Task.own at own
  cases herrand : (pool.tasks i).errand with
  | list p =>
    rw [herrand] at own
    cases own
  | create p w =>
    rw [herrand] at own
    exact free.nobody i own
  | destroy p id' =>
    rw [herrand] at own
    cases own
    obtain ⟨badge, hbadge, hid⟩ := separate.existing i p id herrand
    exact (free.unused badge hbadge).1 hid

/-- No resource has a free id or its billing item. -/
theorem Sound.apart (sound : Sound start pool) {id : ResourceId} (free : pool.Free start id) :
    ∀ badge ∈ pool.vendor.badges,
      badge.id ≠ id ∧ badge.billingItemId ≠ some (id.value * 10 + 1) := by
  intro badge hbadge
  rcases sound.accounts badge hbadge with hold | hnew
  · exact free.unused badge hold
  · obtain ⟨i, p, w, -, hgiven, -, hitem⟩ := hnew
    have hne : badge.id ≠ id := by
      intro heq
      rw [heq] at hgiven
      exact free.nobody i hgiven
    refine ⟨hne, fun hsame => hne ?_⟩
    rw [hitem] at hsame
    have hitems : badge.id.value * 10 + 1 = id.value * 10 + 1 := Option.some.inj hsame
    have hvalue : badge.id.value = id.value := by omega
    exact congrArg ResourceId.mk hvalue

/-- The directory shows no other resource of the name that a task has ordered. -/
theorem Sound.named (sound : Sound start pool) (separate : pool.Separate start) {i : ι}
    {id : ResourceId} (own : (pool.tasks i).own = some id) :
    ∀ badge ∈ pool.vendor.badges, (pool.tasks i).errand.hostname? = some badge.hostname →
      badge.id = id := by
  intro badge hbadge hname
  unfold Task.own at own
  cases herrand : (pool.tasks i).errand with
  | destroy provisioner id' =>
    rw [herrand] at hname
    cases hname
  | list provisioner =>
    rw [herrand] at hname
    cases hname
  | create provisioner wanted =>
    rw [herrand] at own hname
    have hname : wanted.hostname = badge.hostname := Option.some.inj hname
    rcases sound.accounts badge hbadge with hold | ⟨j, p, w, herrand', hgiven, hname', -⟩
    · exact absurd hname.symm (separate.newNames i provisioner wanted herrand badge hold)
    · by_cases hj : j = i
      · rw [hj] at hgiven
        exact Option.some.inj (hgiven.symm.trans own)
      · exact absurd (hname'.symm.trans hname.symm)
          (separate.names j i p provisioner w wanted hj herrand' herrand)

/-! ## The beginning and the moves -/

theorem sound_begin (now : Nat) (tidy : start.Tidy) (errands : ι → Errand) :
    Sound start (Pool.begin now start errands) where
  tidy := tidy
  accounts _ hbadge := .inl hbadge
  stands i := ⟨_, stands_begin start (errands i)⟩
  bystander _ _ := rfl
  waiting _ _ _ _ _ := rfl
  reserved _ _ _ _ _ _ hgiven := by cases hgiven

/-- The vendor's other customers do not matter as long as they browse. -/
theorem Sound.browse (sound : Sound start pool) {vendor : Simulator}
    (browsed : pool.vendor.Browsed vendor) : Sound start { pool with vendor := vendor } := by
  obtain ⟨calls, catalogFaults, rfl⟩ := browsed
  refine ⟨sound.tidy, sound.accounts, fun i => ?_, sound.bystander, sound.waiting, sound.reserved⟩
  obtain ⟨g, stands⟩ := sound.stands i
  exact ⟨g, stands.of_holding fun _ _ => rfl⟩

/-! ## A new resource -/

/-- Between the two pools a task has placed an order and was given an id. -/
structure OrderPlaced (pool pool' : Pool ι) (i : ι) (provisioner : Provisioner)
    (wanted : CreateRequest) (order : Order) (id : ResourceId) : Prop where
  vendor : pool'.vendor = (pool.vendor.call (.submitOrder order)).1
  rest : ∀ j, j ≠ i → pool'.tasks j = pool.tasks j
  name : wanted.hostname = order.resource.hostname
  givenId : id = pool.vendor.givenId order.resource.hostname
  errand : (pool.tasks i).errand = .create provisioner wanted
  errand' : (pool'.tasks i).errand = .create provisioner wanted
  notGiven : (pool.tasks i).given = none
  given : (pool'.tasks i).given = some id

namespace OrderPlaced

variable {pool' : Pool ι} {i : ι} {provisioner : Provisioner} {wanted : CreateRequest}
  {order : Order} {id : ResourceId}

theorem ne_of_given (placed : OrderPlaced pool pool' i provisioner wanted order id) {j : ι}
    {other : ResourceId} (given : (pool.tasks j).given = some other) : j ≠ i := by
  intro hj
  rw [hj, placed.notGiven] at given
  cases given

theorem ne_of_not_given (placed : OrderPlaced pool pool' i provisioner wanted order id) {j : ι}
    (notGiven : (pool'.tasks j).given = none) : j ≠ i := by
  intro hj
  rw [hj, placed.given] at notGiven
  cases notGiven

/-- The id was free. -/
theorem free (placed : OrderPlaced pool pool' i provisioner wanted order id)
    (separate : pool'.Separate start) : pool.Free start id := by
  refine ⟨separate.unused i id placed.given, fun j hj => ?_⟩
  have hne := placed.ne_of_given hj
  exact separate.given i j id hne.symm placed.given (by rw [placed.rest j hne, hj])

theorem holding_of_ne (placed : OrderPlaced pool pool' i provisioner wanted order id)
    {other : ResourceId} (h : other ≠ id) :
    pool'.vendor.holding other = pool.vendor.holding other := by
  rw [placed.givenId] at h
  rw [placed.vendor]
  exact Simulator.holding_call_submitOrder_of_ne h

theorem tidy (placed : OrderPlaced pool pool' i provisioner wanted order id)
    (sound : Sound start pool) (free : pool.Free start id) : pool'.vendor.Tidy := by
  have apart := sound.apart free
  rw [placed.givenId] at apart
  rw [placed.vendor]
  exact Simulator.Tidy.placeOrder (s := (pool.vendor.arrive (.submitOrder order)).1) sound.tidy
    order apart

theorem accounts (placed : OrderPlaced pool pool' i provisioner wanted order id)
    (sound : Sound start pool) : ∀ badge ∈ pool'.vendor.badges, pool'.Accounts start badge := by
  have badges : pool'.vendor.badges = pool.vendor.badges ++ [⟨id, order.resource.hostname,
      some (id.value * 10 + 1)⟩] := by
    rw [placed.vendor, placed.givenId]
    exact Simulator.badges_placeOrder (s := (pool.vendor.arrive (.submitOrder order)).1) order
  intro badge hbadge
  rw [badges] at hbadge
  rcases List.mem_append.mp hbadge with hbadge | hbadge
  · rcases sound.accounts badge hbadge with hold | hnew
    · exact .inl hold
    · obtain ⟨j, p, w, errand, given, hrest⟩ := hnew
      rw [← placed.rest j (placed.ne_of_given given)] at errand given
      exact .inr ⟨j, p, w, errand, given, hrest⟩
  · rw [List.mem_singleton.mp hbadge]
    exact .inr ⟨i, provisioner, wanted, placed.errand', placed.given, placed.name.symm, rfl⟩

theorem bystander (placed : OrderPlaced pool pool' i provisioner wanted order id)
    (sound : Sound start pool) {other : ResourceId}
    (unowned : ∀ j, (pool'.tasks j).own ≠ some other) :
    pool'.vendor.holding other = start.holding other := by
  have hne : other ≠ id := by
    intro heq
    apply unowned i
    unfold Task.own
    rw [placed.errand', heq]
    exact placed.given
  rw [placed.holding_of_ne hne]
  refine sound.bystander other fun j own => ?_
  by_cases hj : j = i
  · unfold Task.own at own
    rw [hj, placed.errand] at own
    exact placed.ne_of_given own rfl
  · rw [← placed.rest j hj] at own
    exact unowned j own

theorem waiting (placed : OrderPlaced pool pool' i provisioner wanted order id)
    (sound : Sound start pool) (separate : pool'.Separate start) {j : ι} {p : Provisioner}
    {w : CreateRequest} (errand : (pool'.tasks j).errand = .create p w)
    (notGiven : (pool'.tasks j).given = none) :
    pool'.vendor.reservedIds.find? w.hostname = start.reservedIds.find? w.hostname := by
  have hj := placed.ne_of_not_given notGiven
  have hne : w.hostname ≠ order.resource.hostname := by
    rw [← placed.name]
    exact separate.names j i p provisioner w wanted hj errand placed.errand'
  rw [placed.rest j hj] at errand notGiven
  refine Eq.trans ?_ (sound.waiting j p w errand notGiven)
  rw [placed.vendor]
  exact Simulator.reservedIds_placeOrder (s := (pool.vendor.arrive (.submitOrder order)).1) order
    hne

theorem reserved (placed : OrderPlaced pool pool' i provisioner wanted order id)
    (sound : Sound start pool) {j : ι} {p : Provisioner} {w : CreateRequest}
    {other reserved : ResourceId} (errand : (pool'.tasks j).errand = .create p w)
    (given : (pool'.tasks j).given = some other)
    (hreserved : start.reservedIds.find? w.hostname = some reserved) : other = reserved := by
  by_cases hj : j = i
  · rw [hj, placed.errand'] at errand
    rw [hj, placed.given] at given
    cases errand
    cases given
    have waits := sound.waiting i provisioner wanted placed.errand placed.notGiven
    rw [hreserved, placed.name] at waits
    rw [placed.givenId]
    unfold Simulator.givenId
    rw [waits]
  · rw [placed.rest j hj] at errand given
    exact sound.reserved j p w other reserved errand given hreserved

end OrderPlaced

/-! ## Steps -/

section

variable [DecidableEq ι]

/-- The pool after one task has done something to the vendor. -/
def Pool.put (pool : Pool ι) (i : ι) (vendor : Simulator) (task : Task) : Pool ι :=
  { pool with vendor := vendor, tasks := Function.update pool.tasks i task }

/-- A task that has done something to its own resource, but has not got one. -/
theorem Sound.put (sound : Sound start pool) (separate : pool.Separate start) {i : ι}
    {vendor : Simulator} {task : Task} (errand : task.errand = (pool.tasks i).errand)
    (given : task.given = (pool.tasks i).given)
    (badges : vendor.badges.Sublist pool.vendor.badges)
    (reservedIds : vendor.reservedIds = pool.vendor.reservedIds)
    (others : ∀ other, (pool.tasks i).own ≠ some other →
      vendor.holding other = pool.vendor.holding other)
    (stands : ∃ g, Stands start vendor task g) : Sound start (pool.put i vendor task) := by
  have same : ∀ j, ((pool.put i vendor task).tasks j).errand = (pool.tasks j).errand ∧
      ((pool.put i vendor task).tasks j).given = (pool.tasks j).given := by
    intro j
    show (Function.update pool.tasks i task j).errand = _ ∧
      (Function.update pool.tasks i task j).given = _
    by_cases hj : j = i
    · rw [hj, Function.update_self]
      exact ⟨errand, given⟩
    · rw [Function.update_of_ne hj]
      exact ⟨rfl, rfl⟩
  have own : ∀ j, ((pool.put i vendor task).tasks j).own = (pool.tasks j).own := by
    intro j
    unfold Task.own
    rw [(same j).1, (same j).2]
  refine ⟨List.Pairwise.sublist badges sound.tidy, ?accounts, ?stands, ?bystander, ?waiting,
    ?reserved⟩
  case accounts =>
    intro badge hbadge
    rcases sound.accounts badge (badges.subset hbadge) with hold | hnew
    · exact .inl hold
    · obtain ⟨j, p, w, herrand, hgiven, hrest⟩ := hnew
      exact .inr ⟨j, p, w, by rw [(same j).1, herrand], by rw [(same j).2, hgiven], hrest⟩
  case stands =>
    intro j
    show ∃ g, Stands start vendor (Function.update pool.tasks i task j) g
    by_cases hj : j = i
    · rw [hj, Function.update_self]
      exact stands
    · rw [Function.update_of_ne hj]
      obtain ⟨g, stands⟩ := sound.stands j
      refine ⟨g, stands.of_holding fun id hid => others id fun hi => ?_⟩
      exact hj (separate.own_unique hid hi)
  case bystander =>
    intro id hid
    have unowned : ∀ j, (pool.tasks j).own ≠ some id := by
      intro j
      rw [← own j]
      exact hid j
    exact (others id (unowned i)).trans (sound.bystander id unowned)
  case waiting =>
    intro j p w herrand hgiven
    rw [(same j).1] at herrand
    rw [(same j).2] at hgiven
    exact (congrArg (·.find? w.hostname) reservedIds).trans (sound.waiting j p w herrand hgiven)
  case reserved =>
    intro j p w id reserved herrand hgiven
    rw [(same j).1] at herrand
    rw [(same j).2] at hgiven
    exact sound.reserved j p w id reserved herrand hgiven

/-- A task orders a resource. -/
theorem Sound.submit (sound : Sound start pool) {i : ι} {order : Order}
    {next : (Call.submitOrder order).Answer → Workflow ErrandResult}
    (hleft : (pool.tasks i).left = .plain (.ask (.submitOrder order) next))
    (before : pool.Separate start)
    (separate : (pool.put i (pool.vendor.call (.submitOrder order)).1
      ((pool.tasks i).asked pool.now pool.vendor (.submitOrder order) next)).Separate start) :
    Sound start (pool.put i (pool.vendor.call (.submitOrder order)).1
      ((pool.tasks i).asked pool.now pool.vendor (.submitOrder order) next)) := by
  obtain ⟨g, stands⟩ := sound.stands i
  obtain ⟨-, notGiven, provisioner, wanted, errand, name⟩ := stands.creates hleft
  obtain ⟨task, htask⟩ : ∃ task,
      task = (pool.tasks i).asked pool.now pool.vendor (.submitOrder order) next := ⟨_, rfl⟩
  rw [← htask] at separate ⊢
  obtain ⟨pool', hpool'⟩ : ∃ pool',
      pool' = pool.put i (pool.vendor.call (.submitOrder order)).1 task := ⟨_, rfl⟩
  rw [← hpool'] at separate ⊢
  have self : pool'.tasks i = task := by
    rw [hpool']
    exact Function.update_self ..
  have given : task.given = some (pool.vendor.givenId order.resource.hostname) := by
    rw [htask]
    show (pool.tasks i).given.or _ = _
    rw [notGiven]
    rfl
  have placed : OrderPlaced pool pool' i provisioner wanted order
      (pool.vendor.givenId order.resource.hostname) := by
    refine ⟨?_, ?_, name, rfl, errand, ?_, notGiven, ?_⟩
    · rw [hpool']
      rfl
    · intro j hj
      rw [hpool']
      exact Function.update_of_ne hj ..
    · rw [self, htask, ← errand]
      rfl
    · rw [self, given]
  have free := placed.free separate
  refine ⟨placed.tidy sound free, placed.accounts sound, fun j => ?stands,
    fun other unowned => placed.bystander sound unowned,
    fun j p w errand notGiven => placed.waiting sound separate errand notGiven,
    fun j p w id reserved errand given => placed.reserved sound errand given⟩
  case stands =>
    by_cases hj : j = i
    · rw [hj, self, htask, placed.vendor]
      refine stands.submit hleft ?_ (sound.bystander _ (free.unowned before))
      exact Simulator.find?_eq_none_of_badges fun badge hbadge => (sound.apart free badge hbadge).1
    · obtain ⟨g', stands'⟩ := sound.stands j
      rw [placed.rest j hj]
      refine ⟨g', stands'.of_holding fun other own => placed.holding_of_ne fun heq => ?_⟩
      rw [heq] at own
      exact free.unowned before j own

/-- A step of a task. -/
theorem Sound.step (sound : Sound start pool) {i : ι}
    (separate : (pool.move (.step i)).Separate start) : Sound start (pool.move (.step i)) := by
  have before := separate.of_move
  obtain ⟨g, stands⟩ := sound.stands i
  have moved : pool.move (.step i) =
      pool.put i ((pool.tasks i).step pool.now pool.vendor).1
        ((pool.tasks i).step pool.now pool.vendor).2 := rfl
  rw [moved] at separate ⊢
  obtain ⟨call, next, hleft, heq⟩ | ⟨left, wakesAt, heq, assures⟩ :=
    (pool.tasks i).step_cases pool.now pool.vendor
  · rw [heq] at separate ⊢
    by_cases submits : call.operation = .submitOrder
    · cases call with
      | submitOrder order => exact sound.submit hleft before separate
      | _ => cases submits
    · have gives : pool.vendor.gives call = none := by
        cases call with
        | submitOrder order => exact absurd rfl submits
        | _ => rfl
      obtain ⟨stands', others⟩ := stands.ask sound.tidy hleft submits
        fun id own => sound.named before own
      refine sound.put before rfl ?_ (pool.vendor.badges_call submits)
        (pool.vendor.reservedIds_call submits) others stands'
      show (pool.tasks i).given.or _ = _
      rw [gives, Option.or_none]
  · rw [heq]
    exact sound.put before rfl rfl (List.Sublist.refl _) rfl (fun _ _ => rfl)
      ⟨g, stands.of_left wakesAt (assures _ _ _ stands.left)⟩

/-- Every move keeps the invariant, if the tasks are separate after it. -/
theorem Sound.move (sound : Sound start pool) {m : PoolMove ι}
    (separate : (pool.move m).Separate start) : Sound start (pool.move m) := by
  have before := separate.of_move
  cases m with
  | step i => exact sound.step separate
  | supply i catalog =>
    obtain ⟨g, stands⟩ := sound.stands i
    obtain ⟨left, heq, assures⟩ := (pool.tasks i).supply_cases catalog
    have moved : pool.move (.supply i catalog) =
        pool.put i pool.vendor ((pool.tasks i).supply catalog) := rfl
    rw [moved, heq]
    exact sound.put before rfl rfl (List.Sublist.refl _) rfl (fun _ _ => rfl)
      ⟨g, stands.of_left _ (assures _ _ _ stands.left)⟩
  | browse call =>
    unfold Pool.move
    dsimp only
    split
    · rename_i browses
      exact sound.browse (pool.vendor.browsed_call browses)
    · exact sound
  | wait ms => exact ⟨sound.tidy, sound.accounts, sound.stands, sound.bystander, sound.waiting,
      sound.reserved⟩

/-- The invariant holds after any moves that leave the tasks separate. -/
theorem Sound.after (sound : Sound start pool) (moves : List (PoolMove ι))
    (separate : (pool.after moves).Separate start) : Sound start (pool.after moves) := by
  induction moves generalizing pool with
  | nil => exact sound
  | cons m rest ih =>
    have next : (pool.move m).Separate start := Pool.Separate.of_after separate
    exact ih (sound.move next) separate

end

end Provisioning
