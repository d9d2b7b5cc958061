import Provisioning.Proofs.Console.Jobs
import Provisioning.Proofs.Vendor.Cycles

/-!
# The statuses that are reported

A server is ordered, provisioned and cancelled under inventory statuses.  A guest
is ordered and provisioned under power states, and power operations give it power
states, but its cancellation gives it an inventory status.  That is the one status
that does not belong to its kind, so while a guest is being taken away it is
`unrecognized` (`status_of_resource`, `guest_unrecognized_while_destroyed`).

`Traffic` is what may go on at a vendor: any number of commands of one kind of
provisioner, begun at any time and each at any point of its work.  Its states are
the states along the way of sequences of commands, and of commands that run side by
side.
-/

namespace Provisioning

open Console

/-! ## Statuses -/

/-- The statuses that are reported of a resource of this kind unless it is
cancelled. -/
def ResourceKind.statuses : ResourceKind → List String
  | .bareMetal => ["DEPLOY", "ACTIVE"]
  | .virtualGuest => ["HALTED", "RUNNING", "PAUSED"]

theorem ofKey_of_mem_statuses {kind : ResourceKind} {status : String}
    (h : status ∈ kind.statuses) :
    status ≠ "RECLAIM" ∧ CanonicalStatus.ofKey kind (some status) ≠ .unrecognized := by
  cases kind <;> revert status <;> decide

theorem ofKey_reclaim (kind : ResourceKind) :
    CanonicalStatus.ofKey kind (some "RECLAIM") = .unrecognized ↔ kind = .virtualGuest := by
  cases kind <;> decide

/-- A resource has one of the statuses of its kind, or it is cancelled and its script
ends in its removal. -/
def Holding.Worded (h : Holding) : Prop :=
  ∀ r, h.resource = some r →
    (∃ status ∈ h.kind.statuses, r.status = some status) ∨
      r.status = some "RECLAIM" ∧ ∃ script, h.script = some script ∧ script.outcome = .removed

namespace Holding.Worded

variable {h : Holding}

theorem look (worded : h.Worded) : h.look.1.Worded := by
  unfold Holding.look
  cases hscript : h.script with
  | none => exact worded
  | some script =>
    dsimp only
    split
    · intro r hr
      cases houtcome : script.outcome with
      | provisioned =>
        rw [houtcome] at hr
        obtain ⟨before, -, rfl⟩ := Option.map_eq_some_iff.mp hr
        refine .inl ⟨Simulator.runningStatus h.kind, ?_, rfl⟩
        show _ ∈ h.kind.statuses
        cases h.kind <;> decide
      | removed =>
        rw [houtcome] at hr
        cases hr
    · intro r hr
      obtain known | ⟨hstatus, script', hscript', houtcome⟩ := worded r hr
      · exact .inl known
      · rw [hscript] at hscript'
        cases hscript'
        exact .inr ⟨hstatus, _, rfl, houtcome⟩

theorem cancelled (h : Holding) (number : Nat) : (h.cancelled number).Worded := by
  intro r hr
  obtain ⟨before, -, rfl⟩ := Option.map_eq_some_iff.mp hr
  refine .inr ⟨rfl, _, rfl, ?_⟩
  cases h.script <;> rfl

theorem inStatus {status : String} (known : status ∈ h.kind.statuses) :
    Holding.Worded { h with resource := h.resource.map (.inStatus status) } := by
  intro r hr
  obtain ⟨before, -, rfl⟩ := Option.map_eq_some_iff.mp hr
  exact .inl ⟨status, known, rfl⟩

end Holding.Worded

/-! ## Calls -/

/-- The calls that are made for resources of a kind: the power of servers is left
alone. -/
def Call.Suits (kind : ResourceKind) (call : Call) : Prop :=
  call.operation.Powers → kind = .virtualGuest

theorem Call.power?_mem_statuses {kind : ResourceKind} {call : Call} (suits : call.Suits kind)
    {power : String} (h : call.power? = some power) : power ∈ kind.statuses := by
  cases call with
  | reboot | pause | resume =>
    cases h
    rw [suits trivial]
    decide
  | _ => cases h

/-- A vendor of this kind that is in order and speaks of its resources in the words of
their kind. -/
structure Simulator.WellSpoken (kind : ResourceKind) (s : Simulator) : Prop where
  ofKind : s.kind = kind
  orderly : s.Orderly
  worded : ∀ id, (s.holding id).Worded

namespace Simulator.WellSpoken

variable {kind : ResourceKind} {s : Simulator}

theorem withDemoCatalog (kind : ResourceKind) :
    (Simulator.withDemoCatalog kind).WellSpoken kind where
  ofKind := rfl
  orderly := orderly_withDemoCatalog kind
  worded _ := nofun

theorem call (h : s.WellSpoken kind) {c : Call} (suits : c.Suits kind) :
    (s.call c).1.WellSpoken kind where
  ofKind := (s.settings_call c).1.trans h.ofKind
  orderly := h.orderly.call c
  worded id := by
    -- The kind of a holding is the vendor's, which no call changes.
    refine (h.orderly.holding_call (P := fun held => held.kind = kind ∧ held.Worded)
      (fun id => ⟨h.ofKind, h.worded id⟩) c ?ordered ?looked ?cancelled ?powered id).2
    case ordered =>
      refine fun order id script => ⟨h.ofKind, fun r hr => ?_⟩
      cases hr
      refine .inl ⟨orderedStatus s.kind, ?_, rfl⟩
      show _ ∈ s.kind.statuses
      cases s.kind <;> decide
    case looked =>
      rintro held ⟨hkind, worded⟩
      refine ⟨?_, worded.look⟩
      rw [← hkind]
      unfold Holding.look
      split
      · rfl
      · dsimp only
        split <;> rfl
    case cancelled => exact fun held number _ said => ⟨said.1, .cancelled held number⟩
    case powered =>
      rintro held power hpower ⟨hkind, -⟩
      refine ⟨hkind, .inStatus ?_⟩
      rw [hkind]
      exact c.power?_mem_statuses suits hpower

end Simulator.WellSpoken

/-! ## Traffic -/

/-- A command under way: the time before which nothing is done, and what is left to
do. -/
structure Ongoing where
  wakesAt : Nat
  left : Workflow (Except Failure NodeResult)

/-- The next thing is done, unless it is not yet time. -/
def Ongoing.step (u : Ongoing) (now : Nat) (vendor : Simulator) : Simulator × Ongoing :=
  if now < u.wakesAt then (vendor, u)
  else
    match u.left with
    | .done _ => (vendor, u)
    | .ask call next => ((vendor.call call).1, { u with left := next (vendor.call call).2 })
    | .pause ms next => (vendor, ⟨now + ms, next⟩)
    | .clock next => (vendor, { u with left := next now })
    | .report _ next => (vendor, { u with left := next })

/-- A vendor, the time, and the commands that have begun. -/
structure Traffic where
  vendor : Simulator
  now : Nat := 0
  commands : List Ongoing := []

/-- What may happen: a command of a provisioner of this kind begins, with the catalog
that it was handed if it needs one; a command does the next thing; a package is
looked up for some catalog; some time goes by. -/
inductive Traffic.Move (kind : ResourceKind) where
  | begin (p : Provisioner) (ofKind : p.config.kind = kind) (command : NodeCommand)
    (catalog : RefreshOutcome)
  | step (i : Nat)
  | browse (call : Call) (browses : call.operation.Browses)
  | wait (ms : Nat)

namespace Traffic

variable {kind : ResourceKind}

/-- A new vendor with the demonstration catalog, and no command yet. -/
def start (kind : ResourceKind) : Traffic :=
  { vendor := .withDemoCatalog kind }

/-- What a move makes of it. -/
def move (t : Traffic) : Move kind → Traffic
  | .begin p _ command catalog =>
    { t with commands := t.commands ++ [⟨t.now, (command.job p).after catalog⟩] }
  | .step i =>
    match t.commands[i]? with
    | none => t
    | some u =>
      let (vendor, u) := u.step t.now t.vendor
      { t with vendor := vendor, commands := t.commands.set i u }
  | .browse call _ => { t with vendor := (t.vendor.call call).1 }
  | .wait ms => { t with now := t.now + ms }

/-- What one move after the other makes of it. -/
def after (t : Traffic) (moves : List (Move kind)) : Traffic :=
  moves.foldl move t

end Traffic

/-- The surroundings in which calls that suit a kind are made, and nothing is known. -/
def Surroundings.suiting (kind : ResourceKind) : Surroundings Unit where
  Allows _ call := call.Suits kind
  Answers _ _ _ _ := True
  Passes _ _ _ := True
  Shows _ _ := True

/-- Only such calls are left to make. -/
def Ongoing.Suits (kind : ResourceKind) (u : Ongoing) : Prop :=
  u.left.Assures (.suiting kind) (fun _ _ => True) ()

theorem Surroundings.keeps_suiting {kind : ResourceKind} {asked : Operation → Prop}
    (suits : ∀ operation, asked operation → operation.Powers → kind = .virtualGuest) :
    (suiting kind).Keeps asked fun _ => True where
  allows h _ := suits _ h
  answers _ _ _ := trivial
  passes _ _ := trivial

/-- Commands of a provisioner make calls that suit its kind. -/
theorem Ongoing.suits_begin {p : Provisioner} (command : NodeCommand) (catalog : RefreshOutcome)
    (now : Nat) : Ongoing.Suits p.config.kind ⟨now, (command.job p).after catalog⟩ := by
  have looks : (Surroundings.suiting p.config.kind).Keeps Operation.Looks fun _ => True :=
    Surroundings.keeps_suiting fun _ looks powers => absurd powers looks.not_powers
  refine NodeCommand.assures_job looks looks (fun _ _ => trivial) (fun _ call books _ => ?_)
    (fun guest => Surroundings.keeps_suiting fun _ _ _ => guest) command catalog trivial
  exact ⟨fun powers => absurd books powers.not_books, fun _ _ _ => trivial⟩

theorem Ongoing.suits_step {kind : ResourceKind} {u : Ongoing} (h : u.Suits kind) {s : Simulator}
    (spoken : s.WellSpoken kind) (now : Nat) :
    (u.step now s).1.WellSpoken kind ∧ (u.step now s).2.Suits kind := by
  unfold Ongoing.Suits at h
  unfold Ongoing.step
  split
  · exact ⟨spoken, h⟩
  · split
    · exact ⟨spoken, h⟩
    · rename_i call next hleft
      rw [hleft] at h
      exact ⟨spoken.call h.1, h.2 _ () trivial⟩
    · rename_i ms next hleft
      rw [hleft] at h
      exact ⟨spoken, h () trivial⟩
    · rename_i next hleft
      rw [hleft] at h
      exact ⟨spoken, h now trivial⟩
    · rename_i notice next hleft
      rw [hleft] at h
      exact ⟨spoken, h⟩

/-- The vendor speaks well, and nothing else is left to be asked of it. -/
structure Traffic.Sound (kind : ResourceKind) (t : Traffic) : Prop where
  vendor : t.vendor.WellSpoken kind
  commands : ∀ u ∈ t.commands, u.Suits kind

namespace Traffic.Sound

variable {kind : ResourceKind} {t : Traffic}

theorem move (h : t.Sound kind) (m : Move kind) : (t.move m).Sound kind := by
  cases m with
  | begin p ofKind command catalog =>
    refine ⟨h.vendor, fun u hu => ?_⟩
    rcases List.mem_append.mp hu with hu | hu
    · exact h.commands u hu
    · rw [List.mem_singleton.mp hu]
      rw [← ofKind]
      exact Ongoing.suits_begin command catalog t.now
  | step i =>
    simp only [Traffic.move]
    cases hfind : t.commands[i]? with
    | none => exact h
    | some u =>
      have stepped := Ongoing.suits_step (h.commands u (List.mem_of_getElem? hfind)) h.vendor t.now
      refine ⟨stepped.1, fun u' hu' => ?_⟩
      rcases List.mem_or_eq_of_mem_set hu' with hu' | rfl
      · exact h.commands u' hu'
      · exact stepped.2
  | browse call browses =>
    exact ⟨h.vendor.call fun powers => absurd powers browses.not_powers, h.commands⟩
  | wait ms => exact ⟨h.vendor, h.commands⟩

theorem after (h : t.Sound kind) (moves : List (Move kind)) : (t.after moves).Sound kind := by
  induction moves generalizing t with
  | nil => exact h
  | cons m rest ih => exact ih (h.move m)

end Traffic.Sound

/-! ## What is reported -/

/-- At every moment every resource has a status of its kind, or it is cancelled and
its script ends in its removal.  A cancelled guest is the only resource whose status
is not recognized, until its power is changed. -/
theorem status_of_resource (kind : ResourceKind) (moves : List (Traffic.Move kind)) :
    let s := ((Traffic.start kind).after moves).vendor
    ∀ held ∈ s.resources,
      ((∃ status ∈ kind.statuses, held.resource.status = some status) ∨
        held.resource.status = some "RECLAIM" ∧ ∃ script,
          s.scripts.find? held.resource.id = some script ∧ script.outcome = .removed) ∧
      ((NodeMetadata.ofResource kind held.resource).status = .unrecognized ↔
        kind = .virtualGuest ∧ held.resource.status = some "RECLAIM") := by
  intro s held hheld
  have fresh : (Traffic.start kind).Sound kind := ⟨.withDemoCatalog kind, nofun⟩
  have spoken : s.WellSpoken kind := (fresh.after moves).vendor
  have found : (s.holding held.resource.id).resource = some held.resource :=
    spoken.orderly.tidy.find?_of_mem hheld
  have worded := spoken.worded held.resource.id held.resource found
  have hkind : (s.holding held.resource.id).kind = kind := spoken.ofKind
  rw [hkind] at worded
  refine ⟨worded, ?_⟩
  show CanonicalStatus.ofKey kind held.resource.status = _ ↔ _
  obtain ⟨status, hstatus, heq⟩ | ⟨heq, -⟩ := worded
  · rw [heq]
    obtain ⟨hne, recognized⟩ := ofKey_of_mem_statuses hstatus
    exact ⟨fun h => absurd h recognized, fun h => absurd (Option.some.inj h.2) hne⟩
  · rw [heq, ofKey_reclaim]
    exact ⟨fun h => ⟨h, rfl⟩, fun h => h.1⟩

/-- A guest is created, and in the middle of its destruction, when its billing item has
been cancelled, its status is not recognized. -/
theorem guest_unrecognized_while_destroyed :
    let p : Provisioner := ⟨{ kind := .virtualGuest }, by decide⟩
    let catalog : RefreshOutcome := .ok (Demo.catalog .virtualGuest)
    let wanted : CreateRequest := ⟨"web1", none, "dal05", "17438", "1640,1644,2202"⟩
    let round : List (Traffic.Move .virtualGuest) := List.replicate 16 (.step 0) ++ [.wait 10000]
    let created := (Traffic.start .virtualGuest).after
      (.begin p rfl (.create wanted) catalog :: (round ++ round ++ round ++ round))
    let cancelled := created.after [.begin p rfl (.destroy ⟨1⟩) catalog, .step 1, .step 1]
    let reported (t : Traffic) := t.vendor.resources.map fun held =>
      (NodeMetadata.ofResource .virtualGuest held.resource).status
    reported created = [.running] ∧ reported cancelled = [.unrecognized] := by
  decide +kernel

end Provisioning
