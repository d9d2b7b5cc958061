import Provisioning.Error

/-!
# Failed commands

Why a command failed, with what was being done at the time.
`Failure.message` is the first line that the user sees.
-/

namespace Provisioning.Console

/-- Why a command failed. -/
inductive Failure where
  | failed (cause : Error)
  | loadingConfig (path : String) (cause : Error)
  | loadingState (path : String) (cause : Error)
  | savingState (path : String) (cause : Error)
  | noSuchNode (id : ResourceId)
  | alreadyExists (path : String)
deriving DecidableEq, Repr

namespace Failure

/-- What failed. -/
def message : Failure → String
  | failed cause => cause.message
  | loadingConfig path _ => "loading config from " ++ path
  | loadingState path _ => "loading vendor state from " ++ path
  | savingState path _ => "saving vendor state to " ++ path
  | noSuchNode id => "node " ++ toString id ++ " not found"
  | alreadyExists path => path ++ " already exists (use --force to overwrite)"

/-- The cause below what failed, where they are two things. -/
def cause? : Failure → Option Error
  | loadingConfig _ cause | loadingState _ cause | savingState _ cause => some cause
  | _ => none

/-- The report of a failure. -/
def report (failure : Failure) : String :=
  "Error: " ++ failure.message ++
    match failure.cause? with
    | some cause => "\n\nCaused by:\n    " ++ cause.message
    | none => ""

end Failure

end Provisioning.Console
