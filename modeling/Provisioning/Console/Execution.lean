import Provisioning.Config.Document
import Provisioning.Console.Failure
import Provisioning.Console.Listing
import Provisioning.Place
import Provisioning.Session
import Provisioning.Wire.Config

/-!
# Carrying out commands

A command about nodes opens a session from the configuration file and the saved
vendor, and the vendor is saved again after it, whether or not it succeeded.  A
command about the catalog saves nothing.

`Invocation.outcome` says what an invocation does to the world outside, given
what the files hold: the effects in order, and the failure it ends with.
-/

namespace Provisioning.Console

/-- What a node command has come to. -/
inductive NodeResult where
  | created (node : CreatedNode)
  | destroyed (id : ResourceId)
  | listed (nodes : List NodeMetadata)
  | found (node : NodeMetadata)
  | powered (operation : PowerOperation) (id : ResourceId)
deriving DecidableEq, Repr

/-- What a catalog command has come to. -/
inductive CatalogResult where
  | profiles (profiles : List HardwareProfile)
  | images (images : List Image)
  | locations (locations : List Datacenter)
deriving BEq, Repr

/-- A result of the library, with its failure as a failed command. -/
def orFailed {α : Type} (result : Except Error α) : Except Failure α :=
  result.mapError .failed

/-- Carries out a node command. -/
def NodeCommand.execute (command : NodeCommand) (s : Session) :
    Except Failure NodeResult × Session :=
  let p := s.provisioner
  match command with
  | .create wanted =>
    let (result, s) := s.perform (p.create wanted)
    (orFailed (result.map .created), s)
  | .destroy id =>
    let (result, s) := s.perform (p.destroy id)
    (orFailed (result.map fun _ => .destroyed id), s)
  | .list =>
    let (result, s) := s.perform p.listNodes
    (orFailed (result.map fun listed => .listed (listed.map p.metadata)), s)
  | .get id =>
    let (result, s) := s.perform (p.getNode id)
    (match result with
      | .ok (some resource) => .ok (.found (p.metadata resource))
      | .ok none => .error (.noSuchNode id)
      | .error cause => .error (.failed cause), s)
  | .power operation id =>
    let (result, s) := s.perform (p.power operation id)
    (orFailed (result.map fun _ => .powered operation id), s)

/-- Carries out a catalog command. -/
def CatalogCommand.execute (command : CatalogCommand) (s : Session) :
    Except Failure CatalogResult × Session :=
  let p := s.provisioner
  match command with
  | .profiles =>
    let (result, s) := s.perform p.profiles
    (orFailed (result.map .profiles), s)
  | .images =>
    let (result, s) := s.perform p.images
    (orFailed (result.map .images), s)
  | .locations =>
    let (result, s) := s.perform p.locations
    (orFailed (result.map .locations), s)

/-! ## Writing results -/

/-- A message of success; JSON output has none. -/
def success (format : OutputFormat) (message : String) : String :=
  match format with
  | .json => ""
  | _ => "✅ " ++ message ++ "\n"

/-- The past of a power operation. -/
def pastOf : PowerOperation → String
  | .reboot => "rebooted"
  | .suspend => "suspended"
  | .resume => "resumed"

/-- The output of a node command. -/
def NodeResult.write (format : OutputFormat) : NodeResult → String
  | .created node =>
    success format ("Node '" ++ node.resource.hostname ++ "' is ready") ++
      createdNodes.writeItem format node
  | .destroyed id => success format ("Node " ++ toString id ++ " destroyed")
  | .listed all => nodes.writeList format all
  | .found node => nodes.writeItem format node
  | .powered operation id => success format ("Node " ++ toString id ++ " " ++ pastOf operation)

/-- The output of a catalog command. -/
def CatalogResult.write (format : OutputFormat) : CatalogResult → String
  | .profiles all => Console.profiles.writeList format all
  | .images all => Console.images.writeList format all
  | .locations all => Console.locations.writeList format all

/-! ## Invocations -/

/-- Where an invocation finds its files: the configuration and the vendor. -/
structure Places where
  config : String
  state : String
deriving DecidableEq, Repr

/-- Something done to the world outside: a text is printed, or a file is
written, which may fail. -/
inductive Effect where
  | print (text : String)
  | write (path content : String) (onFailure : Error → Failure)

/-- What an invocation does: its effects, the failure that follows them, the
reports of its workflows and how long they take. -/
structure Outcome where
  effects : List Effect := []
  failure : Option Failure := none
  notices : List Notice := []
  elapsedMs : Nat := 0

/-- Opens a session, given what the files hold. -/
def openSession (places : Places) (read : String → FileContent) : Except Failure Session := do
  let config ← (Config.load (read places.config)).mapError (.loadingConfig places.config)
  let simulator ←
    (Simulator.load (read places.state) config.kind).mapError (.loadingState places.state)
  orFailed (Session.new config simulator)

/-- The outcome of a command in a session. -/
def sessionOutcome {α : Type} (write : α → String) (result : Except Failure α) (s : Session)
    (after : List Effect) : Outcome where
  effects := (match result with
    | .ok a => [.print (write a)]
    | .error _ => []) ++ after
  failure := match result with
    | .ok _ => none
    | .error failure => some failure
  notices := s.run.notices
  elapsedMs := s.run.now

/-- The outcome of a node command: the vendor is saved in any case. -/
def NodeCommand.outcome (command : NodeCommand) (format : OutputFormat) (places : Places)
    (read : String → FileContent) : Outcome :=
  match openSession places read with
  | .error failure => { failure := some failure }
  | .ok s =>
    let (result, s) := command.execute s
    sessionOutcome (·.write format) result s
      [.write places.state s.close (.savingState places.state)]

/-- The outcome of a catalog command. -/
def CatalogCommand.outcome (command : CatalogCommand) (format : OutputFormat) (places : Places)
    (read : String → FileContent) : Outcome :=
  match openSession places read with
  | .error failure => { failure := some failure }
  | .ok s =>
    let (result, s) := command.execute s
    sessionOutcome (·.write format) result s []

/-- The text of a configuration in an output format. -/
def writeConfig (format : OutputFormat) (config : Config) : Except Error String :=
  match format with
  | .json => .ok ((Wire.config.write config).pretty ++ "\n")
  | _ => config.save

/-- The outcome of showing the configuration. -/
def viewOutcome (format : OutputFormat) (path : String) (read : String → FileContent) : Outcome :=
  match Config.load (read path) >>= writeConfig format with
  | .ok text => { effects := [.print text] }
  | .error cause => { failure := some (.failed cause) }

/-- The outcome of writing a default configuration to a path. -/
def initOutcome (format : OutputFormat) (path : String) (force : Bool)
    (read : String → FileContent) : Outcome :=
  if read path ≠ .missing ∧ ¬force then { failure := some (.alreadyExists path) }
  else
    match ({} : Config).save with
    | .ok content =>
      { effects := [.write path content .failed,
          .print (success format ("Wrote default configuration to " ++ path))] }
    | .error cause => { failure := some (.failed cause) }

/-- The outcome of an invocation, given what the files hold. -/
def Invocation.outcome (invocation : Invocation) (places : Places) (read : String → FileContent) :
    Outcome :=
  match invocation.command with
  | .node command => command.outcome invocation.format places read
  | .catalog command => command.outcome invocation.format places read
  | .config .view => viewOutcome invocation.format places.config read
  | .config (.init path force) =>
    initOutcome invocation.format (path.getD places.config) force read

/-- The places of an invocation, given the home directory. -/
def Invocation.places (invocation : Invocation) (home : Option String) : Places where
  config := invocation.configPath.getD (Place.configFile home)
  state := Place.vendorStateFile home

/-- The files whose content an invocation depends on. -/
def Invocation.inputs (invocation : Invocation) (places : Places) : List String :=
  match invocation.command with
  | .node _ | .catalog _ => [places.config, places.state]
  | .config .view => [places.config]
  | .config (.init path _) => [path.getD places.config]

end Provisioning.Console
