/-!
# Transactions

A unit of work that the vendor runs on a resource.  While it runs its elapsed
time changes; its number and name do not, and `Transaction.sameWork` compares
those two.
-/

namespace Provisioning

/-- The work that is active on a resource.  `averageDuration` is in minutes. -/
structure Transaction where
  id : Nat
  name : String
  elapsedSeconds : Nat
  averageDuration : Float
deriving BEq, Repr

/-- The same unit of work, at whatever point of its progress. -/
def Transaction.sameWork (a b : Transaction) : Bool :=
  a.id == b.id && a.name == b.name

end Provisioning
