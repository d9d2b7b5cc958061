import Mathlib.Logic.Function.Basic
import Provisioning.Proofs.Catalog.Browsing
import Provisioning.Proofs.Concurrent.Errands
import Provisioning.Proofs.Workflow.Journal

/-!
# Pools of tasks

Any number of tasks share one simulated vendor and one clock.  A move of the
pool lets one task do the next thing that it has to do, and a list of moves is
one way in which the tasks interleave.

The catalog is left open.  A task that waits for the catalog is handed any
outcome at any time, and the vendor is asked for packages at any time, so a pool
goes on as it would with any caches and any refreshes that share the vendor.
-/

namespace Provisioning

/-! ## Tasks -/

/-- An errand on its way: what is left to do, the time before which nothing is
done, the exchanges so far and the id that its order was given. -/
structure Task where
  errand : Errand
  left : Job ErrandResult
  wakesAt : Nat := 0
  exchanges : List Exchange := []
  given : Option ResourceId := none

/-- The id that the vendor gives to the resource that a call orders. -/
def Simulator.gives (s : Simulator) : Call → Option ResourceId
  | .submitOrder order => some (s.givenId order.resource.hostname)
  | _ => none

/-- What a look at a feed has shown. -/
def Exchange.shown? : Exchange → Option (Option Transaction)
  | ⟨_, .activeTransaction _, .ok active⟩ => some active
  | _ => none

/-- A call that the owner of a resource makes, or of none, over a vendor that was
`start` at the beginning: feeds and snapshots are asked for by their owners
only, and billing items are cancelled by them only. -/
def Call.KeepsTo (start : Simulator) (own : Option ResourceId) : Call → Prop
  | .submitOrder _ => True
  | .billingOrder _ => True
  | .listResources => True
  | .activeTransaction id => own = some id
  | .getResource id => own = some id
  | .cancelBillingItem item =>
    ∃ badge ∈ start.badges, badge.billingItemId = some item ∧ own = some badge.id
  | _ => False

namespace Task

/-- An errand of which nothing is done. -/
def begin (errand : Errand) : Task :=
  { errand := errand, left := errand.job }

/-- The resource of a task: the one that is to be destroyed, or the one that was
ordered. -/
def own (task : Task) : Option ResourceId :=
  match task.errand with
  | .create _ _ => task.given
  | .destroy _ id => some id
  | .list _ => none

/-- The result of a task that is done. -/
def result? (task : Task) : Option ErrandResult :=
  match task.left with
  | .plain (.done result) => some result
  | _ => none

/-- What the task has been shown of feeds, in order. -/
def feed (task : Task) : List (Option Transaction) :=
  task.exchanges.filterMap Exchange.shown?

/-- Hands the catalog to a task that waits for it. -/
def supply (task : Task) (catalog : RefreshOutcome) : Task :=
  match task.left with
  | .plain _ => task
  | .withCatalog workflow => { task with left := .plain (workflow catalog) }

/-- The task after a call with its answer. -/
def asked (task : Task) (now : Nat) (vendor : Simulator) (call : Call)
    (next : call.Answer → Workflow ErrandResult) : Task :=
  { task with
    left := .plain (next (vendor.call call).2)
    exchanges := task.exchanges ++ [⟨now, call, (vendor.call call).2⟩]
    given := task.given.or (vendor.gives call) }

/-- The task does the next thing that it has to do, unless it waits. -/
def step (task : Task) (now : Nat) (vendor : Simulator) : Simulator × Task :=
  if now < task.wakesAt then (vendor, task)
  else
    match task.left with
    | .plain (.ask call next) => ((vendor.call call).1, task.asked now vendor call next)
    | .plain (.pause ms next) => (vendor, { task with left := .plain next, wakesAt := now + ms })
    | .plain (.clock next) => (vendor, { task with left := .plain (next now) })
    | .plain (.report _ next) => (vendor, { task with left := .plain next })
    | _ => (vendor, task)

end Task

/-! ## Pools -/

/-- Tasks over one vendor and one clock. -/
structure Pool (ι : Type) where
  now : Nat
  vendor : Simulator
  tasks : ι → Task

/-- What can happen in a pool. -/
inductive PoolMove (ι : Type) where
  | step (i : ι)
  | supply (i : ι) (catalog : RefreshOutcome)
  | browse (call : Call)
  | wait (ms : Nat)

namespace Pool

variable {ι : Type} [DecidableEq ι]

/-- A pool of errands of which nothing is done. -/
def begin (now : Nat) (vendor : Simulator) (errands : ι → Errand) : Pool ι :=
  ⟨now, vendor, fun i => .begin (errands i)⟩

/-- The pool after a move. -/
def move (pool : Pool ι) : PoolMove ι → Pool ι
  | .step i =>
    let (vendor, task) := (pool.tasks i).step pool.now pool.vendor
    { pool with vendor := vendor, tasks := Function.update pool.tasks i task }
  | .supply i catalog =>
    { pool with tasks := Function.update pool.tasks i ((pool.tasks i).supply catalog) }
  | .browse call =>
    if call.operation = .activePackageByName ∨ call.operation = .packageDetail then
      { pool with vendor := (pool.vendor.call call).1 }
    else pool
  | .wait ms => { pool with now := pool.now + ms }

/-- The pool after one move after the other. -/
def after (pool : Pool ι) (moves : List (PoolMove ι)) : Pool ι :=
  moves.foldl move pool

end Pool

/-! ## What a move does to a task -/

/-- A step of a task is a call, or else it concerns nothing but what is left to
do and when. -/
theorem Task.step_cases (task : Task) (now : Nat) (vendor : Simulator) :
    (∃ call next, task.left = .plain (.ask call next) ∧
      task.step now vendor = ((vendor.call call).1, task.asked now vendor call next)) ∨
    ∃ left wakesAt,
      task.step now vendor = (vendor, { task with left := left, wakesAt := wakesAt }) ∧
      ∀ name? post g, task.left.Assures (.amid name?) post g →
        left.Assures (.amid name?) post g := by
  unfold step
  split
  · exact .inr ⟨task.left, task.wakesAt, rfl, fun _ _ _ h => h⟩
  · split
    · rename_i call next hleft
      exact .inl ⟨call, next, hleft, rfl⟩
    · rename_i ms next hleft
      refine .inr ⟨.plain next, now + ms, rfl, fun name? post g h => ?_⟩
      rw [hleft] at h
      exact h g rfl
    · rename_i next hleft
      refine .inr ⟨.plain (next now), task.wakesAt, rfl, fun name? post g h => ?_⟩
      rw [hleft] at h
      exact h now trivial
    · rename_i notice next hleft
      refine .inr ⟨.plain next, task.wakesAt, rfl, fun name? post g h => ?_⟩
      rw [hleft] at h
      exact h
    · exact .inr ⟨task.left, task.wakesAt, rfl, fun _ _ _ h => h⟩

/-- A task that is handed the catalog goes on with it. -/
theorem Task.supply_cases (task : Task) (catalog : RefreshOutcome) :
    ∃ left, task.supply catalog = { task with left := left } ∧
      ∀ name? post g, task.left.Assures (.amid name?) post g →
        left.Assures (.amid name?) post g := by
  unfold supply
  split
  · exact ⟨task.left, rfl, fun _ _ _ h => h⟩
  · rename_i workflow hleft
    refine ⟨.plain (workflow catalog), rfl, fun name? post g h => ?_⟩
    rw [hleft] at h
    exact h catalog

theorem Task.errand_step (task : Task) (now : Nat) (vendor : Simulator) :
    (task.step now vendor).2.errand = task.errand := by
  obtain ⟨call, next, -, heq⟩ | ⟨left, wakesAt, heq, -⟩ := task.step_cases now vendor
  · rw [heq]
    rfl
  · rw [heq]

/-- An id once given stays given. -/
theorem Task.given_step {task : Task} {id : ResourceId} (h : task.given = some id) (now : Nat)
    (vendor : Simulator) : (task.step now vendor).2.given = some id := by
  obtain ⟨call, next, -, heq⟩ | ⟨left, wakesAt, heq, -⟩ := task.step_cases now vendor
  · rw [heq]
    show task.given.or _ = some id
    rw [h]
    rfl
  · rw [heq]
    exact h

end Provisioning
