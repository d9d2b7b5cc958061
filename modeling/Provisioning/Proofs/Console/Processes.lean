import Mathlib.Logic.Function.Basic
import Provisioning.Console.Rehearsal
import Provisioning.Proofs.Catalog.Offering
import Provisioning.Proofs.Vendor.Room

/-!
# A process for each command

Each invocation runs in a process of its own: it opens a session on what the files
hold, carries out its command, and after a node command the vendor is saved.
`processes` are invocations that run one after the other in this way, over files
that can all be written; `inSession` carries out the same commands in one session
that stays open.

The two come to the same.  What connects them is that the session of a process is
the session that stays open, but for what a vendor's file leaves out: the time, the
package that is kept, the counts of calls and the submitted orders
(`Session.Mirrored`).  One invocation keeps that up (`Invocation.process_mirrored`), and
so do all of them (`processes_mirrored`).
-/

namespace Provisioning

/-! ## Steady commands -/

namespace Console

/-- A node command does the same at any time. -/
theorem NodeCommand.steady_job (command : NodeCommand) (p : Provisioner)
    (catalog : RefreshOutcome) : ((command.job p).after catalog).Steady := by
  have done : ∀ {α β : Type} {w : Procedure α} {f : Except Error α → β}, w.Steady →
      (w.run.bind fun result => .done (f result)).Steady :=
    fun steady => Workflow.Steady.bind steady fun _ => Workflow.steady_done _
  cases command with
  | create wanted =>
    rw [job, Job.after_map]
    cases catalog with
    | error cause => exact Workflow.steady_done _
    | ok package => exact done (steady_createFrom _ _ _)
  | destroy id =>
    rw [job, Job.after_map]
    exact done (steady_destroyNode _ _)
  | list =>
    rw [job, Job.after_map]
    exact done ((Procedure.steady_request _).bind fun _ => Procedure.steady_pure _)
  | get id =>
    rw [job, Job.after_map]
    exact done (Procedure.steady_request _)
  | power operation id =>
    rw [job, Job.after_map]
    unfold Provisioner.power
    split
    · cases operation <;> exact done (Procedure.steady_request _)
    · exact Workflow.steady_done _

/-- So does a catalog command. -/
theorem CatalogCommand.steady_job (command : CatalogCommand) (p : Provisioner)
    (catalog : RefreshOutcome) : ((command.job p).after catalog).Steady := by
  cases command <;> exact Workflow.steady_done _

/-! ## Invocations -/

/-- What the files hold, by their paths. -/
abbrev Files := String → FileContent

/-- The text that an effect prints. -/
def Effect.printed : Effect → String
  | .print text => text
  | .write .. => ""

/-- The files after an effect. -/
def Effect.apply (files : Files) : Effect → Files
  | .print _ => files
  | .write path content _ => Function.update files path (.text content)

/-- How a process with this outcome ends. -/
def Outcome.exit (outcome : Outcome) : Exit where
  code := if outcome.failure.isSome then 1 else 0
  printed := String.join (outcome.effects.map (·.printed))
  failure := outcome.failure

/-- How a command with this result ends. -/
def exitOf {α : Type} (write : α → String) : Except Failure α → Exit
  | .ok result => { code := 0, printed := write result }
  | .error failure => { code := 1, failure := some failure }

/-- Runs an invocation in a process of its own. -/
def Invocation.process (home : Option String) (invocation : Invocation) (files : Files) :
    Exit × Files :=
  let outcome := invocation.outcome (invocation.places home) files
  (outcome.exit, outcome.effects.foldl Effect.apply files)

/-- Runs invocations one after another. -/
def processes (home : Option String) : List Invocation → Files → List Exit × Files
  | [], files => ([], files)
  | invocation :: rest, files =>
    let (exit, files) := invocation.process home files
    let (exits, files) := processes home rest files
    (exit :: exits, files)

/-- The invocation saves the vendor. -/
def Invocation.saves (invocation : Invocation) : Bool :=
  match invocation.command with
  | .node _ => true
  | .catalog _ | .config _ => false

/-- The invocation opens a session. -/
def Invocation.opens (invocation : Invocation) : Bool :=
  match invocation.command with
  | .node _ | .catalog _ => true
  | .config _ => false

/-- Carries out the command of an invocation in a session that stays open.  A command
about the configuration does nothing there. -/
def Invocation.within (invocation : Invocation) (s : Session) : Exit × Session :=
  match invocation.command with
  | .node command =>
    let (result, s) := command.execute s
    (exitOf (·.write invocation.format) result, s)
  | .catalog command =>
    let (result, s) := command.execute s
    (exitOf (·.write invocation.format) result, s)
  | .config _ => ({ code := 0 }, s)

/-- Carries out the commands of invocations one after another. -/
def inSession : List Invocation → Session → List Exit × Session
  | [], s => ([], s)
  | invocation :: rest, s =>
    let (exit, s) := invocation.within s
    let (exits, s) := inSession rest s
    (exit :: exits, s)

/-! ## Files in memory -/

/-- What effects print is printed in order, if none of them fails. -/
theorem applyEffects_printed {effects : List Effect} {tree : FileTree} {printed : String}
    (written : (applyEffects tree printed effects).2.2 = none) :
    (applyEffects tree printed effects).2.1 =
      printed ++ String.join (effects.map (·.printed)) := by
  induction effects generalizing tree printed with
  | nil => simp [applyEffects, String.join]
  | cons effect rest ih =>
    cases effect with
    | print text =>
      rw [applyEffects] at written ⊢
      rw [ih written, List.map_cons, String.join_cons, ← String.append_assoc]
      rfl
    | write path content onFailure =>
      have silent : String.join ((Effect.write path content onFailure :: rest).map (·.printed)) =
          String.join (rest.map (·.printed)) := by
        rw [List.map_cons, String.join_cons]
        exact String.empty_append
      rw [silent]
      simp only [applyEffects] at written ⊢
      generalize tree.save path content = saved at written ⊢
      obtain ⟨tree', fault⟩ := saved
      cases fault with
      | none => exact ih written
      | some fault => cases written

/-- A command line over files in memory ends like a process, if no file fails to be
written. -/
theorem runLine_fst {environment : Environment} {words : List String} {invocation : Invocation}
    (parsed : Invocation.parse environment.configFile words = .ok invocation) {tree : FileTree}
    (written : (applyEffects tree "" (invocation.outcome (invocation.places environment.home)
      tree.content).effects).2.2 = none) :
    (runLine environment words tree).1 =
      (invocation.process environment.home tree.content).1 := by
  have printed := applyEffects_printed written
  rw [String.empty_append] at printed
  unfold runLine
  rw [parsed]
  dsimp only
  rw [written, printed]
  unfold Invocation.process Outcome.exit
  dsimp only
  cases (invocation.outcome (invocation.places environment.home) tree.content).failure <;> rfl

/-! ## One invocation -/

variable {home : Option String} {invocation : Invocation} {files : Files} {s : Session}

/-- What follows the output of a command prints nothing. -/
theorem exit_sessionOutcome {α : Type} (write : α → String) (result : Except Failure α)
    (s : Session) {after : List Effect} (silent : String.join (after.map (·.printed)) = "") :
    (sessionOutcome write result s after).exit = exitOf write result := by
  cases result with
  | ok a =>
    simp only [sessionOutcome, Outcome.exit, exitOf, List.map_append, List.map_cons, List.map_nil,
      String.join_append, silent]
    simp [Effect.printed, String.join]
  | error failure =>
    simp only [sessionOutcome, Outcome.exit, exitOf, List.nil_append, silent]
    rfl

/-- A process of a node command saves what its session leaves. -/
theorem Invocation.process_node {command : NodeCommand} (hcommand : invocation.command = .node command)
    (hopen : openSession (invocation.places home) files = .ok s) :
    invocation.process home files = ((invocation.within s).1,
      Function.update files (Place.vendorStateFile home) (.text (invocation.within s).2.close)) := by
  simp only [process, outcome, within, hcommand, NodeCommand.outcome, hopen]
  refine Prod.ext (exit_sessionOutcome _ _ _ rfl) ?_
  cases (command.execute s).1 <;> rfl

/-- A process of a catalog command saves nothing. -/
theorem Invocation.process_catalog {command : CatalogCommand}
    (hcommand : invocation.command = .catalog command)
    (hopen : openSession (invocation.places home) files = .ok s) :
    invocation.process home files = ((invocation.within s).1, files) := by
  simp only [process, outcome, within, hcommand, CatalogCommand.outcome, hopen]
  refine Prod.ext (exit_sessionOutcome _ _ _ rfl) ?_
  cases (command.execute s).1 <;> rfl

theorem Invocation.process_of_opens (opens : invocation.opens = true)
    (hopen : openSession (invocation.places home) files = .ok s) :
    invocation.process home files = ((invocation.within s).1,
      if invocation.saves then
        Function.update files (Place.vendorStateFile home) (.text (invocation.within s).2.close)
      else files) := by
  cases hcommand : invocation.command with
  | node command => rw [process_node hcommand hopen, if_pos (by rw [saves, hcommand])]
  | catalog command => rw [process_catalog hcommand hopen, if_neg (by simp [saves, hcommand])]
  | config command => simp [Invocation.opens, hcommand] at opens

/-! ## Sessions that are alike -/

variable {t : Session}

theorem CatalogCommand.execute_snd (command : CatalogCommand) (s : Session) :
    (command.execute s).2 = s.catalog.2 := by
  cases command <;> rfl

/-- The job of an invocation: that of its command, up to the way in which it ends. -/
def Invocation.job (p : Provisioner) (invocation : Invocation) : Job Exit :=
  match invocation.command with
  | .node command => (command.job p).map (exitOf (·.write invocation.format))
  | .catalog command => (command.job p).map (exitOf (·.write invocation.format))
  | .config _ => .plain (.done { code := 0 })

theorem Invocation.within_eq (invocation : Invocation) (s : Session) :
    invocation.within s = s.perform (invocation.job s.provisioner) := by
  cases hcommand : invocation.command with
  | node command =>
    simp only [within, job, hcommand, command.execute_eq, Session.perform_map]
  | catalog command =>
    simp only [within, job, hcommand, command.execute_eq, Session.perform_map]
  | config command =>
    simp only [within, job, hcommand]
    rfl

theorem Invocation.steady_job (invocation : Invocation) (p : Provisioner)
    (catalog : RefreshOutcome) : ((invocation.job p).after catalog).Steady := by
  cases hcommand : invocation.command with
  | node command =>
    simp only [job, hcommand, Job.after_map]
    exact (command.steady_job p catalog).bind fun _ => Workflow.steady_done _
  | catalog command =>
    simp only [job, hcommand, Job.after_map]
    exact (command.steady_job p catalog).bind fun _ => Workflow.steady_done _
  | config command =>
    simp only [job, hcommand]
    exact Workflow.steady_done _

theorem Invocation.provisioner_within (invocation : Invocation) (s : Session) :
    (invocation.within s).2.provisioner = s.provisioner := by
  rw [within_eq]
  exact s.perform_provisioner _

theorem Invocation.settings_within (invocation : Invocation) (s : Session) :
    (invocation.within s).2.simulator.kind = s.simulator.kind ∧
      (invocation.within s).2.simulator.catalog = s.simulator.catalog := by
  rw [within_eq]
  exact s.perform_settings _

theorem Invocation.settled_within (invocation : Invocation) (h : s.Settled) :
    (invocation.within s).2.Settled := by
  rw [within_eq]
  exact h.perform _

/-- Alike sessions end a command in the same way. -/
theorem Invocation.within_alike (invocation : Invocation) (hs : s.Settled) (ht : t.Settled)
    (same : s.provisioner = t.provisioner) (alike : s.simulator.Alike t.simulator)
    (earlier : s.run.now ≤ t.run.now) :
    (invocation.within s).1 = (invocation.within t).1 ∧
      (invocation.within s).2.simulator.Alike (invocation.within t).2.simulator := by
  rw [within_eq, within_eq, ← same]
  exact Session.perform_alike hs ht same alike (Nat.add_sub_cancel' earlier).symm
    (invocation.steady_job s.provisioner)

/-- An invocation uses up one unit of room at most. -/
theorem Invocation.hasRoom_within {room : Nat} (h : s.simulator.HasRoom (room + 1)) :
    (invocation.within s).2.simulator.HasRoom room := by
  cases hcommand : invocation.command with
  | node command =>
    simp only [within, hcommand]
    exact command.hasRoom_execute h
  | catalog command =>
    simp only [within, hcommand]
    exact command.hasRoom_execute (h.mono (Nat.le_succ room))
  | config command =>
    simp only [within, hcommand]
    exact h.mono (Nat.le_succ room)

/-- An invocation that saves nothing leaves nothing to save. -/
theorem Invocation.alike_within (settled : s.Settled) (saves : invocation.saves = false) :
    s.simulator.Alike (invocation.within s).2.simulator := by
  cases hcommand : invocation.command with
  | node command => simp [Invocation.saves, hcommand] at saves
  | catalog command =>
    simp only [within, hcommand, command.execute_snd]
    exact settled.catalog.2.2.1
  | config command =>
    simp only [within, hcommand]
    exact .refl _

end Console

/-! ## The session of a process -/

theorem Provisioner.new_config (p : Provisioner) : Provisioner.new p.config = .ok p := by
  unfold new
  split
  · rfl
  · rename_i fault invalid
    exact absurd (p.valid.symm.trans invalid) (by simp)

namespace Session

variable {s : Session}

/-- A session begins with its configuration and its vendor, and with nothing else. -/
theorem of_new {config : Config} {vendor : Simulator} (h : new config vendor = .ok s) :
    ∃ p : Provisioner, p.config = config ∧ s = { provisioner := p, run := { vendor := vendor } } := by
  unfold new Provisioner.new at h
  split at h
  · cases h
    exact ⟨_, rfl, rfl⟩
  · cases h

/-- The session of a new process after a session has been closed. -/
def reopened (s : Session) : Session where
  provisioner := s.provisioner
  run := { vendor := s.simulator.reloaded s.provisioner.config.kind }

/-- The vendor's file holds what the session would find in it, had it been closed. -/
structure Mirrored (file : FileContent) (s : Session) : Prop where
  settled : s.Settled
  ofKind : s.simulator.kind = s.provisioner.config.kind
  loads : Simulator.load file s.provisioner.config.kind = .ok s.reopened.simulator

theorem settled_reopened (s : Session) : s.reopened.Settled :=
  ⟨⟨rfl, rfl⟩, rfl, fun _ _ h => by cases h⟩

theorem mirrored_of_load {file : FileContent} {p : Provisioner} {start : Simulator}
    (loaded : Simulator.load file p.config.kind = .ok start) :
    Mirrored file { provisioner := p, run := { vendor := start } } := by
  have unsaved : start.reloaded p.config.kind = start := (Simulator.of_load loaded).2.2
  refine ⟨⟨?_, rfl, fun _ _ h => by cases h⟩, (congrArg Simulator.kind unsaved).symm, ?_⟩
  · show start.Prompt
    rw [← unsaved]
    exact ⟨rfl, rfl⟩
  · exact loaded.trans (congrArg Except.ok unsaved.symm)

/-- Nothing is lost that commands could tell. -/
theorem Mirrored.alike {file : FileContent} (h : Mirrored file s) :
    s.reopened.simulator.Alike s.simulator := by
  refine ⟨{}, [], ?_⟩
  show s.simulator.reloaded s.provisioner.config.kind = _
  unfold Simulator.reloaded
  rw [← h.ofKind, ← h.settled.prompt.faultless, ← h.settled.prompt.instant]

end Session

namespace Console

variable {home : Option String} {invocation : Invocation} {invocations : List Invocation}
  {files : Files} {s : Session}

/-- The session that a process opens. -/
theorem openSession_eq {places : Places} {p : Provisioner} {vendor : Simulator}
    (configured : Config.load (files places.config) = .ok p.config)
    (loaded : Simulator.load (files places.state) p.config.kind = .ok vendor) :
    openSession places files = .ok { provisioner := p, run := { vendor := vendor } } := by
  simp only [openSession, configured, Except.mapError, bind, Except.bind, loaded, Session.new,
    p.new_config, pure, Except.pure, orFailed]

/-- An invocation does the same in a process of its own as in a session that stays open,
and the vendor's file goes on mirroring that session. -/
theorem Invocation.process_mirrored
    (h : s.Mirrored (files (Place.vendorStateFile home))) {room : Nat}
    (roomy : s.simulator.HasRoom (room + 1)) (opens : invocation.opens = true)
    (configured : Config.load (files (invocation.places home).config) = .ok s.provisioner.config) :
    invocation.process home files = ((invocation.within s).1,
        if invocation.saves then
          Function.update files (Place.vendorStateFile home) (.text (invocation.within s).2.close)
        else files) ∧
      (invocation.within s).2.Mirrored
        ((invocation.process home files).2 (Place.vendorStateFile home)) := by
  obtain ⟨shown, alike⟩ := invocation.within_alike s.settled_reopened h.settled
    rfl h.alike (Nat.zero_le _)
  have opened : openSession (invocation.places home) files = .ok s.reopened :=
    openSession_eq configured h.loads
  have processed := process_of_opens opens opened
  rw [shown, show (invocation.within s.reopened).2.close = (invocation.within s).2.close from
    alike.save_eq] at processed
  refine ⟨processed, invocation.settled_within h.settled, ?_, ?_⟩
  · rw [invocation.provisioner_within, (invocation.settings_within s).1, h.ofKind]
  · rw [processed]
    dsimp only
    unfold Session.reopened
    rw [invocation.provisioner_within]
    split
    · rw [Function.update_self]
      exact (hasRoom_within roomy).load_saved _
    · rename_i saves
      rw [h.loads]
      exact congrArg Except.ok ((alike_within h.settled (by simpa using saves)).reloaded_eq _)

theorem processes_cons (home : Option String) (invocation : Invocation)
    (rest : List Invocation) (files : Files) :
    processes home (invocation :: rest) files =
      ((invocation.process home files).1 ::
        (processes home rest (invocation.process home files).2).1,
        (processes home rest (invocation.process home files).2).2) :=
  rfl

theorem inSession_cons (invocation : Invocation) (rest : List Invocation) (s : Session) :
    inSession (invocation :: rest) s =
      ((invocation.within s).1 :: (inSession rest (invocation.within s).2).1,
        (inSession rest (invocation.within s).2).2) :=
  rfl

theorem provisioner_inSession (invocations : List Invocation) (s : Session) :
    (inSession invocations s).2.provisioner = s.provisioner := by
  induction invocations generalizing s with
  | nil => rfl
  | cons invocation rest ih => exact (ih _).trans (invocation.provisioner_within s)

/-- All invocations do the same in processes of their own as in one session, and the file
holds in the end what closing the session would save. -/
theorem processes_mirrored (h : s.Mirrored (files (Place.vendorStateFile home)))
    (roomy : s.simulator.HasRoom invocations.length)
    (opens : ∀ i ∈ invocations, i.opens = true)
    (configured : ∀ i ∈ invocations,
      Config.load (files (i.places home).config) = .ok s.provisioner.config)
    (apart : ∀ i ∈ invocations, (i.places home).config ≠ Place.vendorStateFile home) :
    processes home invocations files = ((inSession invocations s).1,
        if invocations.any (·.saves) then
          Function.update files (Place.vendorStateFile home)
            (.text (inSession invocations s).2.close)
        else files) ∧
      (inSession invocations s).2.Mirrored
        ((processes home invocations files).2 (Place.vendorStateFile home)) ∧
      (invocations.any (·.saves) = false → s.simulator.Alike (inSession invocations s).2.simulator) := by
  induction invocations generalizing files s with
  | nil => exact ⟨rfl, h, fun _ => .refl _⟩
  | cons invocation rest ih =>
    obtain ⟨opens, opensRest⟩ := List.forall_mem_cons.mp opens
    obtain ⟨configured, configuredRest⟩ := List.forall_mem_cons.mp configured
    obtain ⟨-, apartRest⟩ := List.forall_mem_cons.mp apart
    obtain ⟨processed, mirrored⟩ := invocation.process_mirrored h roomy opens configured
    have kept : ∀ i ∈ rest, Config.load ((invocation.process home files).2 (i.places home).config) =
        .ok (invocation.within s).2.provisioner.config := by
      intro i hi
      rw [invocation.provisioner_within, ← configuredRest i hi, processed]
      dsimp only
      split
      · rw [Function.update_of_ne (apartRest i hi)]
      · rfl
    obtain ⟨done, ended, unsaved⟩ :=
      ih mirrored (invocation.hasRoom_within roomy) opensRest kept apartRest
    rw [processes_cons, inSession_cons]
    refine ⟨Prod.ext ?_ ?_, ended, fun saves => ?_⟩
    · rw [done, processed]
    · dsimp only
      rw [done, processed]
      dsimp only
      rw [List.any_cons]
      cases hrest : rest.any (·.saves) with
      | true =>
        rw [Bool.or_true, if_pos rfl, if_pos rfl]
        split
        · rw [Function.update_idem]
        · rfl
      | false =>
        rw [Bool.or_false, if_neg Bool.false_ne_true,
          show (inSession rest (invocation.within s).2).2.close = (invocation.within s).2.close from
            (unsaved hrest).symm.save_eq]
    · obtain ⟨hfirst, hrest⟩ := Bool.or_eq_false_iff.mp (List.any_cons.symm.trans saves)
      exact (invocation.alike_within h.settled hfirst).trans (unsaved hrest)

/-- Invocations about nodes and the catalog with one configuration, each in a process of
its own, print the same and fail in the same way as in one session, whatever the commands
are and however they end.  They may begin without a vendor's file or with any vendor that
loads, if its counters last for that many orders.  The file of the vendor is written if
there is a node command, with what the one session would save; no other file is, and the
vendor of the file in the end is that of the one session. -/
theorem processes_eq_session (home : Option String) {config : Config}
    {invocations : List Invocation} {files : Files} {start : Simulator} {session : Session}
    (opens : ∀ i ∈ invocations, i.opens = true)
    (configured : ∀ i ∈ invocations, Config.load (files (i.places home).config) = .ok config)
    (apart : ∀ i ∈ invocations, (i.places home).config ≠ Place.vendorStateFile home)
    (loaded : Simulator.load (files (Place.vendorStateFile home)) config.kind = .ok start)
    (spares : start.Spares invocations.length)
    (opened : Session.new config start = .ok session) :
    let (exits, left) := processes home invocations files
    let (shown, ended) := inSession invocations session
    exits = shown ∧
      left = (if invocations.any (·.saves) then
        Function.update files (Place.vendorStateFile home) (.text ended.close) else files) ∧
      Simulator.load (left (Place.vendorStateFile home)) config.kind =
        .ok (ended.simulator.reloaded config.kind) := by
  obtain ⟨p, rfl, rfl⟩ := Session.of_new opened
  obtain ⟨done, ended, -⟩ := processes_mirrored (Session.mirrored_of_load loaded)
    (Simulator.hasRoom_of_load loaded spares) opens configured apart
  have loads := ended.loads
  unfold Session.reopened at loads
  rw [provisioner_inSession] at loads
  exact ⟨congrArg Prod.fst done, congrArg Prod.snd done, loads⟩

/-- A creation, a look at the profiles and at the nodes, and two destructions, with
neither a configuration file nor a vendor's file at first. -/
theorem processes_eq_session_default :
    let files : Files := fun _ => .missing
    let invocations : List Invocation :=
      [⟨none, .plain, false, .node (.create ⟨"web1", none, "dal05", "32", "1,2,3"⟩)⟩,
        ⟨none, .table, false, .catalog .profiles⟩, ⟨none, .json, false, .node .list⟩,
        ⟨none, .plain, false, .node (.destroy ⟨1⟩)⟩, ⟨none, .plain, false, .node (.destroy ⟨2⟩)⟩]
    let session : Session :=
      { provisioner := ⟨{}, by decide⟩, run := { vendor := .withDemoCatalog .bareMetal } }
    let (exits, left) := processes none invocations files
    let (shown, ended) := inSession invocations session
    exits = shown ∧
      left = Function.update files (Place.vendorStateFile none) (.text ended.close) ∧
      Simulator.load (left (Place.vendorStateFile none)) .bareMetal =
        .ok (ended.simulator.reloaded .bareMetal) := by
  intro files invocations session
  have opens : ∀ i ∈ invocations, i.opens = true := by decide
  have configured : ∀ i ∈ invocations, Config.load (files (i.places none).config) = .ok {} :=
    fun _ _ => rfl
  have apart : ∀ i ∈ invocations, (i.places none).config ≠ Place.vendorStateFile none := by decide
  have loaded : Simulator.load (files (Place.vendorStateFile none)) ({} : Config).kind =
      .ok (.withDemoCatalog .bareMetal) := rfl
  have spares : (Simulator.withDemoCatalog .bareMetal).Spares invocations.length :=
    (Simulator.HasRoom.withDemoCatalog .bareMetal (by decide)).spares
  have opened : Session.new {} (.withDemoCatalog .bareMetal) = .ok session := by
    rw [Session.new, show Provisioner.new {} = .ok session.provisioner from
      Provisioner.new_config session.provisioner]
    rfl
  have saves : invocations.any (·.saves) = true := by decide
  -- The runs themselves are not to be evaluated.
  clear_value files invocations session
  obtain ⟨shown, left, loads⟩ :=
    processes_eq_session none opens configured apart loaded spares opened
  exact ⟨shown, left.trans (if_pos saves), loads⟩

end Console

end Provisioning
