import Provisioning.Console.Command
import Provisioning.Console.Table
import Provisioning.Json.Printer
import Provisioning.Wire.Catalog

/-!
# Listings

How nodes and parts of the catalog are written in each of the output formats.
A `Listing` has a header, a row of cells for each item, and a JSON value.
-/

namespace Provisioning.Console

/-- How the items of a type are written. -/
structure Listing (α : Type) where
  header : List String
  row : α → List String
  json : α → Json

/-- The text of a cell that may have no value. -/
def orDash (value : Option String) : String :=
  value.getD "-"

/-- A text that may be missing, as a JSON value. -/
def textOrNull (value : Option String) : Json :=
  (Json.nullable Json.text).write value

namespace Listing

variable {α : Type}

/-- The cells of an item, each on a line with its header. -/
def plainItem (listing : Listing α) (item : α) : String :=
  String.join (listing.header.zipWith (fun name cell => name ++ ": " ++ cell ++ "\n") (listing.row item))

/-- One item. -/
def writeItem (listing : Listing α) (format : OutputFormat) (item : α) : String :=
  match format with
  | .table => Table.render listing.header [listing.row item] ++ "\n"
  | .json => (listing.json item).pretty ++ "\n"
  | .plain => listing.plainItem item

/-- A list of items. -/
def writeList (listing : Listing α) (format : OutputFormat) (items : List α) : String :=
  match format, items with
  | .json, items => (Json.arr (items.map listing.json)).pretty ++ "\n"
  | _, [] => "No items found.\n"
  | .table, items => Table.render listing.header (items.map listing.row) ++ "\n"
  | .plain, items => "---\n".intercalate (items.map listing.plainItem)

end Listing

/-- Nodes. -/
def nodes : Listing NodeMetadata where
  header := ["ID", "Hostname", "Group", "Status", "Public IP", "Private IP", "Location"]
  row node :=
    [toString node.id, node.hostname, orDash node.group, toString node.status,
     ", ".intercalate node.publicAddresses, ", ".intercalate node.privateAddresses,
     orDash node.location]
  json := Wire.nodeMetadata.write

/-- New nodes with their logins. -/
def createdNodes : Listing CreatedNode where
  header := ["ID", "FQDN", "Public IP", "User", "Password"]
  row created :=
    [created.nodeId, created.resource.fqdn, orDash created.resource.primaryIp,
     created.credentials.user, created.credentials.password]
  json created := .object
    [("id", .str created.nodeId), ("fqdn", .str created.resource.fqdn),
     ("public_ip", textOrNull created.resource.primaryIp),
     ("user", .str created.credentials.user), ("password", .str created.credentials.password)]

/-- Hardware profiles. -/
def profiles : Listing HardwareProfile where
  header := ["ID", "Description"]
  row profile := [profile.id, toString profile]
  json profile := .object [("id", .str profile.id), ("description", .str (toString profile))]

/-- Images. -/
def images : Listing Image where
  header := ["ID", "Description"]
  row image := [image.id, image.description]
  json := Wire.image.write

/-- Datacenters. -/
def locations : Listing Datacenter where
  header := ["ID", "Name", "Description"]
  row place := [toString place.id, place.name, orDash place.longName]
  json place := .object
    [("id", Json.ofNat place.id), ("name", .str place.name),
     ("description", textOrNull place.longName)]

end Provisioning.Console
