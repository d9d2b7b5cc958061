import Provisioning.Workflow.Create

/-!
# Commands

What the command line can ask for, and how it wants the answer to be written.
-/

namespace Provisioning.Console

/-- How answers are written. -/
inductive OutputFormat where
  | table
  | json
  | plain
deriving DecidableEq, Repr

namespace OutputFormat

/-- Every format. -/
def all : List OutputFormat := [.table, .json, .plain]

/-- The name of a format on the command line. -/
def name : OutputFormat → String
  | .table => "table"
  | .json => "json"
  | .plain => "plain"

/-- The format of a name. -/
def ofName? (name : String) : Option OutputFormat :=
  all.find? (·.name == name)

end OutputFormat

/-- Commands about nodes.  They may change the vendor, whose state is saved
after them. -/
inductive NodeCommand where
  | create (wanted : CreateRequest)
  | destroy (id : ResourceId)
  | list
  | get (id : ResourceId)
  | power (operation : PowerOperation) (id : ResourceId)
deriving DecidableEq, Repr

/-- Commands about the catalog. -/
inductive CatalogCommand where
  | profiles
  | images
  | locations
deriving DecidableEq, Repr

/-- Commands about the configuration file. -/
inductive ConfigCommand where
  | view
  | init (path : Option String) (force : Bool)
deriving DecidableEq, Repr

/-- A command. -/
inductive Command where
  | node (command : NodeCommand)
  | catalog (command : CatalogCommand)
  | config (command : ConfigCommand)
deriving DecidableEq, Repr

/-- A command line that has been understood. -/
structure Invocation where
  configPath : Option String
  format : OutputFormat
  verbose : Bool
  command : Command
deriving DecidableEq, Repr

end Provisioning.Console
