import Provisioning.Workflow.Polling

/-!
# Refreshing the catalog

A package is looked up by name and then fetched in full.  Transient failures
are retried within the bounds of the retry policy; a failed authorization ends
the refresh at once, and so does any other failure.
-/

namespace Provisioning

/-- What a refresh ends with: the package, or the failure that every caller who
waited for it gets. -/
abbrev RefreshOutcome := Except Error ProductPackage

/-- The lookup of a package and its detail. -/
def fetchPackage (name : String) : Procedure ProductPackage := do
  let package ← request (.activePackageByName name)
  request (.packageDetail package.id)

/-- One attempt of a refresh: a transient failure is reported and leaves the
attempt without a package. -/
def attemptFetch (name : String) : Procedure (Option ProductPackage) :=
  tryCatch (some <$> fetchPackage name) fun cause => do
    if cause.isTransient then
      Workflow.notify (.retryingCatalog name cause)
      return none
    else throw cause

/-- A refresh of the package of this name. -/
def refreshCatalog (name : String) (retry : StagePolicy) : Workflow RefreshOutcome := do
  Workflow.notify (.refreshingCatalog name)
  let fetched ← (pollUntil retry () fun _ => do return ((), ← attemptFetch name)).run
  match fetched with
  | .ok (_, some package) => return .ok package
  | .ok (_, none) =>
    return .error (.catalogUnavailable name
      ("still failing after " ++ toString retry.maxWaitMs ++ "ms"))
  | .error cause =>
    if cause.isAuthorization then
      Workflow.notify (.catalogNotAuthorized name cause)
      return .error (.catalogAuthorization cause.message)
    else return .error (.catalogUnavailable name cause.message)

end Provisioning
