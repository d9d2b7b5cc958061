import Provisioning.Identity

/-!
# Failures

Everything that can go wrong, as causes.  `Error.message` is the one place
that words them.  `Error.isTransient` and `Error.isAuthorization` are the two
classes that the catalog refresh treats differently: the first is worth another
attempt, the second must never be retried.
-/

namespace Provisioning

/-- What is wrong with a configuration. -/
inductive ConfigFault where
  | emptyPackageName
  | shortLoginWait
  | zeroBasePeriod (policy : String)
  | basePeriodAboveCap (policy : String) (basePeriod capPeriod : Nat)
  | other (text : String)
deriving DecidableEq, Repr

/-- What is wrong with the hardware or image of a request. -/
inductive ProfileFault where
  | emptyHardwareId
  | notAPriceId (part hardwareId : String)
  | notAnImageId (imageId : String)
  | other (text : String)
deriving DecidableEq, Repr

/-- What the vendor, or the resource it returned, did wrong. -/
inductive VendorFault where
  | lostLoginDetails (label : String)
  | notCancelled (billingItemId : Nat) (id : ResourceId)
  | other (text : String)
deriving DecidableEq, Repr

/-- A failure of the library or of the vendor behind it. -/
inductive Error where
  | io (text : String)
  | serialization (text : String)
  | configParse (text : String)
  | configEncode (text : String)
  | stageTimeout (stage : Stage) (resource : String) (waitedMs : Nat)
  | notBillable (id : ResourceId)
  | catalogUnavailable (package reason : String)
  | catalogAuthorization (text : String)
  | unsupportedOperation (operation : PowerOperation) (kind : ResourceKind)
  | notFound (what id : String)
  | invalidId (text : String)
  | unauthorized (text : String)
  | timeout (seconds : Nat)
  | vendor (fault : VendorFault)
  | invalidConfig (fault : ConfigFault)
  | invalidProfile (fault : ProfileFault)
deriving DecidableEq, Repr

/-- The wording of a fault in a configuration. -/
def ConfigFault.message : ConfigFault → String
  | .emptyPackageName => "package_name must not be empty"
  | .shortLoginWait => "login_details.max_wait_ms must be in milliseconds and greater than 500"
  | .zeroBasePeriod policy => policy ++ ": base period must be greater than zero"
  | .basePeriodAboveCap policy basePeriod capPeriod =>
    policy ++ ": base period " ++ toString basePeriod ++ "ms exceeds cap period " ++
      toString capPeriod ++ "ms"
  | .other text => text

/-- The wording of a fault in a request. -/
def ProfileFault.message : ProfileFault → String
  | .emptyHardwareId => "empty hardware id"
  | .notAPriceId part hardwareId => "'" ++ part ++ "' is not a price id in '" ++ hardwareId ++ "'"
  | .notAnImageId imageId => "'" ++ imageId ++ "' is not an image price id"
  | .other text => text

/-- The wording of a fault of the vendor. -/
def VendorFault.message : VendorFault → String
  | .lostLoginDetails label => label ++ " lost its login details"
  | .notCancelled billingItemId id =>
    "billing item " ++ toString billingItemId ++ " of resource " ++ toString id ++
      " was not cancelled"
  | .other text => text

namespace Error

/-- The wording of a failure. -/
def message : Error → String
  | .io text => "IO error: " ++ text
  | .serialization text => "Serialization error: " ++ text
  | .configParse text => "Config parse error: " ++ text
  | .configEncode text => "Config encode error: " ++ text
  | .stageTimeout stage resource waitedMs =>
    toString stage ++ " for " ++ resource ++ " did not complete within " ++ toString waitedMs ++ "ms"
  | .notBillable id =>
    "No billing item for resource " ++ toString id ++ ", so the order cannot be cancelled"
  | .catalogUnavailable package reason =>
    "Catalog package '" ++ package ++ "' unavailable: " ++ reason
  | .catalogAuthorization text => "Catalog authorization failed: " ++ text
  | .unsupportedOperation operation kind =>
    toString operation ++ " is not supported for " ++ toString kind ++ " resources"
  | .notFound what id => "Resource not found: " ++ what ++ " with id " ++ id
  | .invalidId text => "Invalid resource id '" ++ text ++ "': expected a number"
  | .unauthorized text => "Unauthorized: " ++ text
  | .timeout seconds => "Vendor call timed out after " ++ toString seconds ++ "s"
  | .vendor fault => "Vendor error: " ++ fault.message
  | .invalidConfig fault => "Invalid configuration: " ++ fault.message
  | .invalidProfile fault => "Invalid hardware profile: " ++ fault.message

/-- Failures worth another attempt after a pause. -/
def isTransient : Error → Bool
  | .timeout _ | .vendor _ => true
  | _ => false

/-- Failures that must never be retried. -/
def isAuthorization : Error → Bool
  | .unauthorized _ | .catalogAuthorization _ => true
  | _ => false

/-- No failure is both worth another attempt and forbidden to retry. -/
theorem not_isAuthorization_of_isTransient {e : Error} (h : e.isTransient = true) :
    e.isAuthorization = false := by
  cases e <;> simp_all [isTransient, isAuthorization]

end Error

end Provisioning
