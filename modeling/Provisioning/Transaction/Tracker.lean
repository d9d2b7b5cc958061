import Provisioning.Identity
import Provisioning.Lookup
import Provisioning.Notice
import Provisioning.Transaction

/-!
# Following a cycle of transactions

Only the current transaction of a resource can be seen, so the end of a cycle
is inferred: one was active and now none is.  A tracker remembers, for each
resource, the transaction seen last.  `Tracker.started` and `Tracker.ended` are
what one look at the feed does to it.
-/

namespace Provisioning

/-- The transaction seen last on each resource whose cycle is not over. -/
structure Tracker where
  lastSeen : Lookup ResourceId Transaction := []

namespace Tracker

/-- The transaction seen last on a resource. -/
def last? (tracker : Tracker) (id : ResourceId) : Option Transaction :=
  tracker.lastSeen.find? id

/-- A look for the start of a cycle: it has started once any transaction is
active.  The first one seen is remembered, so that a cycle that ends before the
next look is not missed. -/
def started (tracker : Tracker) (id : ResourceId) :
    Option Transaction → Tracker × Bool × List Notice
  | some active =>
    let tracker := match tracker.last? id with
      | some _ => tracker
      | none => ⟨tracker.lastSeen.put id active⟩
    (tracker, true, [.cycleStarted id active.name])
  | none => (tracker, false, [])

/-- A look for the end of a cycle: it has ended when none is active and one was
seen before, and then the resource is forgotten. -/
def ended (tracker : Tracker) (id : ResourceId) :
    Option Transaction → Tracker × Bool × List Notice
  | none =>
    match tracker.last? id with
    | some previous =>
      (⟨tracker.lastSeen.remove id⟩, true,
        [.cycleCompleted id previous.name previous.elapsedSeconds])
    | none => (tracker, false, [])
  | some active =>
    let notices := match tracker.last? id with
      | some previous =>
        if previous.sameWork active then []
        else [.transactionCompleted previous.name previous.elapsedSeconds,
          .currentTransaction active.name active.averageDuration]
      | none => [.currentTransaction active.name active.averageDuration]
    (⟨tracker.lastSeen.put id active⟩, false, notices)

end Tracker

end Provisioning
