import Provisioning.Console.Command
import Provisioning.Console.Manual
import Provisioning.Resource

/-!
# The arguments of the program

The grammar of this program's command line and the reading of its levels as an
`Invocation`.  The options for the configuration file, the output format and
verbosity stand at any level, and the deepest one given counts.  The
environment may name the configuration file; the command line wins over it.
-/

namespace Provisioning.Console

/-- The variable of the environment that may name the configuration file. -/
def configVariable : String := "PROVISIONER_CONFIG"

/-- The rank of the options that every list of them ends with. -/
def lastRank : Nat := 999

/-- Any value. -/
def anyValue (_ : String) : Bool := true

/-- Paths are not empty. -/
def isPath (value : String) : Bool := !value.isEmpty

/-- Values that name a resource. -/
def isResourceId (value : String) : Bool := (ResourceId.parse? value).isSome

/-- What a format shows. -/
def OutputFormat.summary : OutputFormat → String
  | .table => "Human-readable table format"
  | .json => "JSON format"
  | .plain => "Plain text format"

/-- The options of every level. -/
def commonOptions : List OptionRule :=
  [{ name := "config", effect := .value isPath, rank := 0
     summary := fun _ => "Configuration file", standIn := some configVariable },
   { name := "format", effect := .value fun value => (OutputFormat.ofName? value).isSome, rank := 1
     summary := fun _ => "Output format", usual := some OutputFormat.table.name
     choices := OutputFormat.all.map fun format => (format.name, format.summary) },
   { name := "verbose", short := some 'v', effect := .mark, rank := 2
     summary := fun _ => "Enable verbose output" },
   { name := "help", short := some 'h', effect := .help, rank := lastRank
     summary := fun
       | .brief => "Print help (see more with '--help')"
       | .full => "Print help (see a summary with '-h')" },
   { name := "version", short := some 'V', effect := .version, rank := lastRank
     summary := fun _ => "Print version" }]

/-- A command without commands below it. -/
def leaf (name summary : String) (options : List OptionRule) (operand : Option OperandRule) :
    CommandRule :=
  .mk name summary (options ++ commonOptions) operand []

/-- A command about one node. -/
def nodeLeaf (name summary : String) : CommandRule :=
  leaf name summary [] (some ⟨"<ID>", "Node ID", isResourceId⟩)

/-- The options that describe a new node. -/
def createOptions : List OptionRule :=
  [{ name := "hostname", effect := .value anyValue, rank := 0, required := true
     summary := fun _ => "Hostname of the new node" },
   { name := "domain", effect := .value anyValue, rank := 1
     summary := fun _ => "Domain, defaults to the configured one" },
   { name := "location", short := some 'l', effect := .value anyValue, rank := 2, required := true
     summary := fun _ => "Datacenter name (see `locations`)" },
   { name := "image", short := some 'i', effect := .value anyValue, rank := 3, required := true
     summary := fun _ => "Image id (see `images`)" },
   { name := "profile", short := some 'p', effect := .value anyValue, rank := 4, required := true
     summary := fun _ => "Hardware profile id (see `profiles`)" }]

/-- The commands about the configuration file. -/
def configRule : CommandRule :=
  .mk "config" "Inspect or create the configuration file" commonOptions none
    [leaf "show" "Show the effective configuration" [] none,
     leaf "init" "Write a default configuration file"
       [{ name := "force", short := some 'f', effect := .mark, rank := 0
          summary := fun _ => "Overwrite an existing file" }]
       (some ⟨"[PATH]", "Destination, defaults to the --config path", isPath⟩)]

/-- The grammar of the program. -/
def programRule : CommandRule :=
  .mk "provisioner" "Command-line front end for the provisioning orchestrator" commonOptions none
    [leaf "create" "Order a node and wait until it can be logged into" createOptions none,
     nodeLeaf "destroy" "Cancel a node and wait for it to be reclaimed",
     leaf "list" "List billable nodes" [] none,
     nodeLeaf "get" "Get node details",
     nodeLeaf "reboot" "Reboot a node",
     nodeLeaf "suspend" "Suspend a node",
     nodeLeaf "resume" "Resume a suspended node",
     leaf "profiles" "List orderable hardware profiles" [] none,
     leaf "images" "List operating system images" [] none,
     leaf "locations" "List datacenters" [] none,
     configRule]

/-- What is printed when no command is carried out: the version under the names of
the commands that lead to it, or a manual.  `named` is the configuration file that
the environment names. -/
def Ending.text (named : Option String) : Ending → String
  | .usage => ""
  | .version path => "-".intercalate path ++ " 0.1.0\n"
  | .help path extent =>
    match programRule.at? path.tail with
    | some rule => Manual.render (fun _ => named.getD "") path rule extent
    | none => ""

/-- The code to exit with when no command is carried out. -/
def Ending.code : Ending → Nat
  | .usage => 2
  | .version _ => 0
  | .help _ _ => 0

/-- The value of an option at the deepest level that gives it. -/
def deepest? (name : String) : List Level → Option String
  | [] => none
  | level :: below => deepest? name below <|> level.options.lookup name

/-- The request that the options of a level describe. -/
def Level.createRequest? (level : Level) : Option CreateRequest := do
  let value? (name : String) : Option String := level.options.lookup name
  return {
    hostname := ← value? "hostname"
    domain := value? "domain"
    location := ← value? "location"
    imageId := ← value? "image"
    hardwareId := ← value? "profile" }

/-- The resource that the operand of a level names. -/
def Level.id? (level : Level) : Option ResourceId :=
  level.operand.bind ResourceId.parse?

/-- The command of the levels below the program's. -/
def command? : List Level → Option Command
  | [level] =>
    match level.name with
    | "create" => level.createRequest?.map (.node <| .create ·)
    | "destroy" => level.id?.map (.node <| .destroy ·)
    | "list" => some (.node .list)
    | "get" => level.id?.map (.node <| .get ·)
    | "reboot" => level.id?.map (.node <| .power .reboot ·)
    | "suspend" => level.id?.map (.node <| .power .suspend ·)
    | "resume" => level.id?.map (.node <| .power .resume ·)
    | "profiles" => some (.catalog .profiles)
    | "images" => some (.catalog .images)
    | "locations" => some (.catalog .locations)
    | _ => none
  | [_, level] =>
    match level.name with
    | "show" => some (.config .view)
    | "init" => some (.config (.init level.operand (level.options.lookup "force").isSome))
    | _ => none
  | _ => none

/-- The invocation of the levels of a command line.  `named` is the configuration
file that the environment names; an empty name is refused at every level that
does not give one. -/
def invocation? (named : Option String) (levels : List Level) : Option Invocation := do
  if named == some "" && !levels.all (·.options.lookup "config" |>.isSome) then none
  let command ← command? levels.tail
  let format ← OutputFormat.ofName? ((deepest? "format" levels).getD OutputFormat.table.name)
  return {
    configPath := deepest? "config" levels <|> named
    format := format
    verbose := (deepest? "verbose" levels).isSome
    command := command }

/-- The invocation of a command line. -/
def Invocation.parse (named : Option String) (words : List String) : Except Ending Invocation := do
  orUsage (invocation? named (← programRule.read words))

end Provisioning.Console
