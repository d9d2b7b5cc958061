import Provisioning.Error
import Provisioning.Text.Blank
import Provisioning.Text.Numeral

/-!
# Resources

A server or guest as the vendor reports it, the login that comes with it, and
the reading of a resource id from text.
-/

namespace Provisioning

namespace ResourceId

/-- The id that a text names: a numeral of 64 bits, with blanks around it. -/
def parse? (text : String) : Option ResourceId :=
  (Text.numeral? Text.wordBound (Text.trimmed text.toList)).map ResourceId.mk

/-- The id that a text names, or the text itself as the cause of failure. -/
def parse (text : String) : Except Error ResourceId :=
  match parse? text with
  | some id => .ok id
  | none => .error (.invalidId text)

end ResourceId

/-- The initial password of one account of an operating system. -/
structure Password where
  username : String
  password : String
deriving DecidableEq, Repr

/-- The operating system of a resource; it appears when provisioning ends. -/
structure OperatingSystem where
  passwords : List Password
deriving DecidableEq, Repr

/-- A place where resources run. -/
structure Datacenter where
  id : Nat
  name : String
  longName : Option String
deriving DecidableEq, Repr

/-- What a user logs in with. -/
structure LoginCredentials where
  user : String
  password : String
deriving DecidableEq, Repr

/-- The credentials of a password record. -/
def LoginCredentials.ofPassword (record : Password) : LoginCredentials :=
  ⟨record.username, record.password⟩

/-- A snapshot of one resource.  The billing item is absent until the resource
is billable; `status` is the vendor's own key. -/
structure Resource where
  id : ResourceId
  hostname : String
  domain : String
  primaryIp : Option String := none
  primaryBackendIp : Option String := none
  billingItemId : Option Nat := none
  operatingSystem : Option OperatingSystem := none
  datacenter : Option Datacenter := none
  status : Option String := none
deriving DecidableEq, Repr

namespace Resource

/-- Whether the resource can be billed, and so cancelled. -/
def hasBillingItem (r : Resource) : Bool :=
  r.billingItemId.isSome

/-- The hostname, and the domain after a point if there is one. -/
def fqdn (r : Resource) : String :=
  if r.domain.isEmpty then r.hostname else r.hostname ++ "." ++ r.domain

/-- The first password of the operating system. -/
def firstPassword (r : Resource) : Option Password :=
  r.operatingSystem.bind (·.passwords.head?)

/-- The login that comes with the resource. -/
def credentials (r : Resource) : Option LoginCredentials :=
  r.firstPassword.map .ofPassword

/-- Both addresses are assigned and there is a password. -/
def hasLoginDetails (r : Resource) : Bool :=
  r.primaryIp.isSome && r.primaryBackendIp.isSome && r.firstPassword.isSome

/-- How reports name the resource. -/
def label (r : Resource) : String :=
  r.hostname ++ "(" ++ toString r.id ++ ")"

/-- A resource with login details has credentials. -/
theorem isSome_credentials_of_hasLoginDetails {r : Resource} (h : r.hasLoginDetails = true) :
    r.credentials.isSome = true := by
  simp only [hasLoginDetails, Bool.and_eq_true] at h
  simp [credentials, h.2]

end Resource

end Provisioning
