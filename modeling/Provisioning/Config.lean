import Provisioning.Error
import Provisioning.Catalog.Demo
import Provisioning.Text.Blank

/-!
# Configuration

What a provisioner is told before it starts: the kind of resource, the package
to order from, the price lines that every order carries and the bounds of every
wait.  `Config.validate` names the first fault.
-/

namespace Provisioning

/-- The bounds of one wait, in milliseconds: how long in all, and the first and
the longest pause between attempts. -/
structure StagePolicy where
  maxWaitMs : Nat
  basePeriodMs : Nat
  capPeriodMs : Nat
deriving DecidableEq, Repr

/-- A base period of zero is a fault, and so is one above the cap. -/
def StagePolicy.fault? (name : String) (policy : StagePolicy) : Option ConfigFault :=
  if policy.basePeriodMs = 0 then some (.zeroBasePeriod name)
  else if policy.capPeriodMs < policy.basePeriodMs then
    some (.basePeriodAboveCap name policy.basePeriodMs policy.capPeriodMs)
  else none

/-- Milliseconds in an hour. -/
def hourMs : Nat := 60 * 60 * 1000

/-- The bounds of each wait of the workflows. -/
structure PollingConfig where
  orderApproved : StagePolicy := ⟨5 * hourMs, 5000, 10000⟩
  transactionsStarted : StagePolicy := ⟨5 * hourMs, 5000, 10000⟩
  transactionsEnded : StagePolicy := ⟨10 * hourMs, 5000, 10000⟩
  loginDetails : StagePolicy := ⟨hourMs, 50, 1000⟩
  catalogRetry : StagePolicy := ⟨60000, 1000, 5000⟩
deriving DecidableEq, Repr

/-- The bounds of a stage. -/
def PollingConfig.policy (polling : PollingConfig) : Stage → StagePolicy
  | .orderApproved => polling.orderApproved
  | .transactionsStarted => polling.transactionsStarted
  | .transactionsEnded => polling.transactionsEnded
  | .loginDetails => polling.loginDetails

/-- The configuration of a provisioner.  A missing package name stands for the
standard package of the kind, and a missing port speed for every speed. -/
structure Config where
  kind : ResourceKind := .bareMetal
  packageName? : Option String := none
  portSpeed : Option Nat := some 10
  prices : List PriceId := [21, 55, 57, 58, 1800, 905, 418, 420]
  catalogTtlSecs : Nat := 60
  domain : String := "example.com"
  polling : PollingConfig := {}
deriving DecidableEq, Repr

namespace Config

/-- The package that resources are ordered from. -/
def packageName (config : Config) : String :=
  config.packageName?.getD (Demo.packageName config.kind)

/-- How long a fetched catalog stays fresh, in milliseconds. -/
def catalogTtlMs (config : Config) : Nat :=
  config.catalogTtlSecs * 1000

/-- The first fault of a configuration. -/
def fault? (config : Config) : Option ConfigFault :=
  if Text.isBlankText config.packageName then some .emptyPackageName
  else if config.polling.loginDetails.maxWaitMs ≤ 500 then some .shortLoginWait
  else
    [("order_approved", config.polling.orderApproved),
     ("transactions_started", config.polling.transactionsStarted),
     ("transactions_ended", config.polling.transactionsEnded),
     ("login_details", config.polling.loginDetails),
     ("catalog_retry", config.polling.catalogRetry)].findSome? fun entry =>
      entry.2.fault? entry.1

/-- A configuration passes when it has no fault. -/
def validate (config : Config) : Except Error Unit :=
  match config.fault? with
  | none => .ok ()
  | some fault => .error (.invalidConfig fault)

end Config

end Provisioning
