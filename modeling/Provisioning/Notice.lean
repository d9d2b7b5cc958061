import Provisioning.Error
import Provisioning.Decimal.Layout

/-!
# Notices

What a running workflow reports about its progress.  `Notice.message` words
each report, and `Notice.level` says how serious it is.
-/

namespace Provisioning

/-- How serious a notice is. -/
inductive NoticeLevel where
  | info
  | warn
deriving DecidableEq, Repr

instance : ToString NoticeLevel where
  toString
    | .info => "INFO"
    | .warn => "WARN"

/-- A report of progress. -/
inductive Notice where
  | refreshingCatalog (package : String)
  | retryingCatalog (package : String) (cause : Error)
  | catalogNotAuthorized (package : String) (cause : Error)
  | awaitingApproval (kind : ResourceKind) (hostname : String)
  | awaitingTransactions (label : String)
  | resourceReady (label : String)
  | resourceDestroyed (label : String)
  | cycleStarted (id : ResourceId) (name : String)
  | cycleCompleted (id : ResourceId) (name : String) (elapsedSeconds : Nat)
  | transactionCompleted (name : String) (elapsedSeconds : Nat)
  | currentTransaction (name : String) (averageDuration : Float)

namespace Notice

/-- How serious a notice is. -/
def level : Notice → NoticeLevel
  | .retryingCatalog _ _ | .catalogNotAuthorized _ _ => .warn
  | _ => .info

/-- The wording of a notice. -/
def message : Notice → String
  | .refreshingCatalog package => "Refreshing catalog package '" ++ package ++ "'"
  | .retryingCatalog package cause =>
    "Catalog fetch for '" ++ package ++ "' failed, retrying: " ++ cause.message
  | .catalogNotAuthorized package cause =>
    "Catalog fetch for '" ++ package ++ "' is not authorized: " ++ cause.message
  | .awaitingApproval kind hostname =>
    "Waiting for " ++ toString kind ++ "(" ++ hostname ++ ") order approval"
  | .awaitingTransactions label => "Waiting for " ++ label ++ " transactions to complete"
  | .resourceReady label => "Resource " ++ label ++ " is ready"
  | .resourceDestroyed label => "Resource " ++ label ++ " destroyed"
  | .cycleStarted id name => "Resource " ++ toString id ++ " started transaction " ++ name
  | .cycleCompleted id name elapsedSeconds =>
    "Successfully completed all transactions for resource " ++ toString id ++ " (last was " ++
      name ++ " after " ++ toString elapsedSeconds ++ "s)"
  | .transactionCompleted name elapsedSeconds =>
    "Successfully completed transaction " ++ name ++ " in " ++ toString elapsedSeconds ++ " seconds"
  | .currentTransaction name averageDuration =>
    "Current transaction is " ++ name ++ ". Average completion time is " ++
      Decimal.Layout.report.write averageDuration ++ " minutes"

/-- The notice as a line of a log. -/
def line (notice : Notice) : String :=
  toString notice.level ++ " " ++ notice.message

end Notice

end Provisioning
