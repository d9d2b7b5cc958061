import Provisioning.Resource
import Provisioning.Status

/-!
# Nodes

A resource in words that belong to no vendor.  Hostnames of the form
`group-hex` name the group that the node was launched into.
-/

namespace Provisioning

/-- An ASCII hexadecimal digit of either case. -/
def isHexDigit (c : Char) : Bool :=
  c.isDigit || ('a' ≤ c && c ≤ 'f') || ('A' ≤ c && c ≤ 'F')

/-- The texts before and after the last hyphen. -/
def splitAtLastHyphen? (cs : List Char) : Option (List Char × List Char) :=
  let tail := (cs.reverse.takeWhile (· != '-')).reverse
  match cs.reverse.dropWhile (· != '-') with
  | [] => none
  | _ :: before => some (before.reverse, tail)

/-- The group of a hostname: what stands before its last hyphen, if something
does and one or more hexadecimal digits follow it. -/
def groupOf? (hostname : String) : Option String :=
  match splitAtLastHyphen? hostname.toList with
  | some (group, suffix) =>
    if group.isEmpty || suffix.isEmpty || !suffix.all isHexDigit then none
    else some (String.ofList group)
  | none => none

/-- The description of a node. -/
structure NodeMetadata where
  id : ResourceId
  name : String
  hostname : String
  group : Option String
  status : CanonicalStatus
  publicAddresses : List String
  privateAddresses : List String
  location : Option String
deriving DecidableEq, Repr

/-- The description of a resource of the given kind. -/
def NodeMetadata.ofResource (kind : ResourceKind) (r : Resource) : NodeMetadata where
  id := r.id
  name := r.hostname
  hostname := r.hostname
  group := groupOf? r.hostname
  status := .ofKey kind r.status
  publicAddresses := r.primaryIp.toList
  privateAddresses := r.primaryBackendIp.toList
  location := r.datacenter.map (·.name)

end Provisioning
