import Provisioning.Proofs.Config.Saving
import Provisioning.Proofs.Console.Processes

/-!
# Processes for both kinds of resource

The kind that a vendor serves is that of the configuration at hand, but its catalog is
whatever its file holds.  While there is no file, each process finds the demonstration
catalog of its own kind.  The first node command saves the vendor with that catalog, and
from then on every process finds the catalog of that first kind (`Carried`).

So the catalog commands of a process list the standard package of their own kind exactly
if nothing was saved before or the first node command was of their kind.  A process of
the other kind asks for its own package by name and is refused.
-/

namespace Provisioning.Console

variable {home : Option String} {invocation : Invocation} {files : Files} {config : Config}

/-! ## Listings -/

/-- What a catalog command lists of a package. -/
def CatalogCommand.listing (config : Config) (package : ProductPackage) :
    CatalogCommand → CatalogResult
  | .profiles => .profiles (package.hardwareProfiles config.kind config.portSpeed)
  | .images => .images package.images
  | .locations => .locations package.datacenters

theorem CatalogCommand.execute_fst (command : CatalogCommand) (s : Session) :
    (command.execute s).1 =
      orFailed (s.catalog.1.map fun package => command.listing s.provisioner.config package) := by
  cases command with
  | profiles =>
    show orFailed (Except.map _ (Except.map _ s.catalog.1)) = _
    cases s.catalog.1 <;> rfl
  | images =>
    show orFailed (Except.map _ (Except.map _ s.catalog.1)) = _
    cases s.catalog.1 <;> rfl
  | locations =>
    show orFailed (Except.map _ (Except.map _ s.catalog.1)) = _
    cases s.catalog.1 <;> rfl

/-- The failure of a catalog command that does not find the standard package of its
kind. -/
def standardUnavailable (kind : ResourceKind) : Failure :=
  .failed (.catalogUnavailable (Demo.packageName kind)
    (Error.notFound "package" (Demo.packageName kind)).message)

theorem offered_demo {s : Simulator} {kind : ResourceKind} (hcatalog : s.catalog = some (Demo.catalog kind))
    (own : ResourceKind) :
    s.offered (Demo.packageName own) = if kind = own then .ok (Demo.catalog own) else
      .error (.catalogUnavailable (Demo.packageName own)
        (Error.notFound "package" (Demo.packageName own)).message) := by
  unfold Simulator.offered
  rw [hcatalog]
  cases kind <;> cases own <;> rfl

/-! ## What the file carries -/

/-- For whichever kind the vendor's file is loaded, its catalog is the demonstration
catalog of the first kind that was saved or, with nothing saved, of that kind. -/
def Carried (file : FileContent) (first : Option ResourceKind) (room : Nat) : Prop :=
  ∀ kind, ∃ vendor, Simulator.load file kind = .ok vendor ∧ vendor.HasRoom room ∧
    vendor.catalog = some (Demo.catalog (first.getD kind))

/-- The kind of the first invocation that saves. -/
def firstSaved (config : Invocation → Config) (earlier : List Invocation) : Option ResourceKind :=
  (earlier.find? (·.saves)).map fun invocation => (config invocation).kind

theorem carried_missing {room : Nat} (h : room < 0x1000000000000000) : Carried .missing none room :=
  fun kind => ⟨.withDemoCatalog kind, rfl, .withDemoCatalog kind h, rfl⟩

/-- A loaded configuration has no fault. -/
theorem fault?_of_load {file : FileContent} (h : Config.load file = .ok config) :
    config.fault? = none := by
  cases file with
  | missing =>
    cases h
    decide
  | unreadable reason => cases h
  | text content =>
    simp only [Config.load, bind, Except.bind, Config.validate] at h
    split at h
    · cases h
    · rename_i parsed _
      cases hfault : parsed.fault? with
      | none =>
        rw [hfault] at h
        cases h
        exact hfault
      | some fault =>
        rw [hfault] at h
        cases h

/-- A process keeps the catalog that the file carries, and the first one that saves decides
which it is.  No other file is written. -/
theorem Invocation.carried_process {first : Option ResourceKind} {room : Nat}
    (h : Carried (files (Place.vendorStateFile home)) first (room + 1))
    (opens : invocation.opens = true)
    (configured : Config.load (files (invocation.places home).config) = .ok config) :
    Carried ((invocation.process home files).2 (Place.vendorStateFile home))
        (first.or (if invocation.saves then some config.kind else none)) room ∧
      ∀ path ≠ Place.vendorStateFile home, (invocation.process home files).2 path = files path := by
  obtain ⟨vendor, loaded, roomy, hcatalog⟩ := h config.kind
  let p : Provisioner := ⟨config, fault?_of_load configured⟩
  let s : Session := { provisioner := p, run := { vendor := vendor } }
  rw [process_of_opens opens (openSession_eq (p := p) configured loaded)]
  dsimp only
  split
  · refine ⟨fun kind => ?_, fun path elsewhere => Function.update_of_ne elsewhere _ _⟩
    rw [Function.update_self]
    have left : (invocation.within s).2.simulator.HasRoom room := hasRoom_within roomy
    refine ⟨_, left.load_saved kind, left.reloaded kind, ?_⟩
    show (invocation.within s).2.simulator.catalog = _
    rw [(invocation.settings_within s).2]
    exact hcatalog.trans (by cases first <;> rfl)
  · refine ⟨fun kind => ?_, fun _ _ => rfl⟩
    obtain ⟨vendor, loaded, roomy, hcatalog⟩ := h kind
    refine ⟨vendor, loaded, roomy.mono (Nat.le_succ room), ?_⟩
    rw [Option.or_none]
    exact hcatalog

theorem firstSaved_cons (config : Invocation → Config) (invocation : Invocation)
    (rest : List Invocation) :
    firstSaved config (invocation :: rest) =
      (if invocation.saves then some (config invocation).kind else none).or
        (firstSaved config rest) := by
  unfold firstSaved
  rw [List.find?_cons]
  cases invocation.saves <;> rfl

/-- So do processes one after another, and they write no other file. -/
theorem carried_processes {config : Invocation → Config} {earlier : List Invocation}
    {first : Option ResourceKind} {room : Nat}
    (h : Carried (files (Place.vendorStateFile home)) first (room + earlier.length))
    (opens : ∀ i ∈ earlier, i.opens = true)
    (configured : ∀ i ∈ earlier, Config.load (files (i.places home).config) = .ok (config i))
    (apart : ∀ i ∈ earlier, (i.places home).config ≠ Place.vendorStateFile home) :
    Carried ((processes home earlier files).2 (Place.vendorStateFile home))
        (first.or (firstSaved config earlier)) room ∧
      ∀ path ≠ Place.vendorStateFile home, (processes home earlier files).2 path = files path := by
  induction earlier generalizing files first with
  | nil => exact ⟨by rwa [show firstSaved config [] = none from rfl, Option.or_none], fun _ _ => rfl⟩
  | cons invocation rest ih =>
    obtain ⟨opens, opensRest⟩ := List.forall_mem_cons.mp opens
    obtain ⟨configured, configuredRest⟩ := List.forall_mem_cons.mp configured
    obtain ⟨-, apartRest⟩ := List.forall_mem_cons.mp apart
    obtain ⟨carried, elsewhere⟩ := invocation.carried_process h opens configured
    have kept : ∀ i ∈ rest, Config.load ((invocation.process home files).2 (i.places home).config) =
        .ok (config i) := by
      intro i hi
      rw [elsewhere _ (apartRest i hi)]
      exact configuredRest i hi
    obtain ⟨carriedRest, elsewhereRest⟩ := ih carried opensRest kept apartRest
    rw [processes_cons, firstSaved_cons, ← Option.or_assoc]
    exact ⟨carriedRest, fun path h => (elsewhereRest path h).trans (elsewhere path h)⟩

/-- A catalog command lists the standard package of its own kind if that is the one that
the file carries, and fails otherwise. -/
theorem Invocation.exit_process_catalog {first : Option ResourceKind} {room : Nat}
    {command : CatalogCommand} (h : Carried (files (Place.vendorStateFile home)) first room)
    (hcommand : invocation.command = .catalog command)
    (configured : Config.load (files (invocation.places home).config) = .ok config)
    (unnamed : config.packageName? = none) :
    (invocation.process home files).1 = exitOf (·.write invocation.format)
      (if first.getD config.kind = config.kind then
        .ok (command.listing config (Demo.catalog config.kind))
      else .error (standardUnavailable config.kind)) := by
  obtain ⟨vendor, loaded, -, hcatalog⟩ := h config.kind
  let p : Provisioner := ⟨config, fault?_of_load configured⟩
  let s : Session := { provisioner := p, run := { vendor := vendor } }
  have settled : s.Settled := (Session.mirrored_of_load (p := p) loaded).settled
  have hname : config.packageName = Demo.packageName config.kind := by
    rw [Config.packageName, unnamed]
    rfl
  have outcome : s.catalog.1 = vendor.offered (Demo.packageName config.kind) := by
    rw [← hname]
    exact settled.catalog.1
  rw [process_catalog hcommand (openSession_eq (p := p) configured loaded)]
  have hwithin : (invocation.within s).1 = exitOf (·.write invocation.format) (command.execute s).1 := by
    simp only [within, hcommand]
  rw [hwithin, command.execute_fst, outcome, offered_demo hcatalog]
  split <;> rfl

/-- While nothing is saved, catalog commands list the standard package of their own kind,
and after a node command those of its kind do; those of the other kind fail.  This holds
after any processes about nodes and the catalog, each with a configuration of its own. -/
theorem catalog_of_first_saved_kind (home : Option String) (config : Invocation → Config)
    {earlier : List Invocation} {invocation : Invocation} {command : CatalogCommand}
    {files : Files} (few : earlier.length < 0x1000000000000000)
    (unsaved : files (Place.vendorStateFile home) = .missing)
    (opens : ∀ i ∈ earlier, i.opens = true) (hcommand : invocation.command = .catalog command)
    (configured : ∀ i ∈ earlier ++ [invocation],
      Config.load (files (i.places home).config) = .ok (config i))
    (apart : ∀ i ∈ earlier ++ [invocation], (i.places home).config ≠ Place.vendorStateFile home)
    (unnamed : (config invocation).packageName? = none) :
    let own := (config invocation).kind
    (invocation.process home (processes home earlier files).2).1 =
      exitOf (·.write invocation.format)
        (if (firstSaved config earlier).getD own = own then
          .ok (command.listing (config invocation) (Demo.catalog own))
        else .error (standardUnavailable own)) := by
  obtain ⟨configuredEarlier, configured⟩ := List.forall_mem_append.mp configured
  obtain ⟨apartEarlier, apart⟩ := List.forall_mem_append.mp apart
  have start : Carried (files (Place.vendorStateFile home)) none (0 + earlier.length) := by
    rw [unsaved, Nat.zero_add]
    exact carried_missing few
  obtain ⟨carried, elsewhere⟩ := carried_processes start opens configuredEarlier apartEarlier
  refine invocation.exit_process_catalog carried hcommand ?_ unnamed
  rw [elsewhere _ (apart invocation (List.mem_singleton_self _))]
  exact configured invocation (List.mem_singleton_self _)

/-- After a look at the nodes, the images of servers are still listed. -/
theorem images_after_list :
    let files : Files := fun _ => .missing
    let list : Invocation := ⟨none, .json, false, .node .list⟩
    let images : Invocation := ⟨none, .plain, false, .catalog .images⟩
    (images.process none (processes none [list] files).2).1 =
      exitOf (·.write .plain) (.ok (CatalogCommand.images.listing {} (Demo.catalog .bareMetal))) := by
  intro files list images
  have configured : ∀ i ∈ [list] ++ [images], Config.load (files (i.places none).config) = .ok {} :=
    fun _ _ => rfl
  exact catalog_of_first_saved_kind none (fun _ => {}) (by decide) rfl (by decide) rfl configured
    (by decide) rfl

/-- The locations for guests are listed as long as there is no vendor's file, but no longer
once a look at the nodes of the other kind has saved one. -/
theorem guest_refused_after_bare_metal :
    let guest : Config := { kind := .virtualGuest }
    let list : Invocation := ⟨none, .plain, false, .node .list⟩
    let locations : Invocation := ⟨some "guest.toml", .plain, false, .catalog .locations⟩
    ∃ text, guest.save = .ok text ∧
      let files : Files := Function.update (fun _ => .missing) "guest.toml" (.text text)
      Config.load (files "guest.toml") = .ok guest ∧
        (locations.process none files).1.code = 0 ∧
        (locations.process none (list.process none files).2).1 =
          { code := 1, failure := some (standardUnavailable .virtualGuest) } := by
  intro guest list locations
  obtain ⟨text, hsave, hload⟩ := Config.load_refilled (show guest.validate = .ok () by decide)
    (show guest.Fits by decide)
  refine ⟨text, hsave, ?_⟩
  intro files
  have unsaved : files (Place.vendorStateFile none) = .missing :=
    Function.update_of_ne (by decide) _ _
  have start : Carried (files (Place.vendorStateFile none)) none 1 := by
    rw [unsaved]
    exact carried_missing (by decide)
  have configured : Config.load (files "guest.toml") = .ok guest := by
    rw [show files "guest.toml" = .text text from Function.update_self _ _ _]
    exact hload
  have unconfigured : Config.load (files (list.places none).config) = .ok {} := by
    rw [show files (list.places none).config = .missing from Function.update_of_ne (by decide) _ _]
    rfl
  obtain ⟨carried, elsewhere⟩ := list.carried_process start rfl unconfigured
  refine ⟨configured, ?_, ?_⟩
  · rw [locations.exit_process_catalog start rfl configured rfl]
    rfl
  · have configured' : Config.load ((list.process none files).2 (locations.places none).config) =
        .ok guest := by
      rw [elsewhere _ (by decide)]
      exact configured
    rw [locations.exit_process_catalog carried rfl configured' rfl]
    rfl

end Provisioning.Console
