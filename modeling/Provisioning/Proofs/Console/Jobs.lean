import Provisioning.Console.Execution
import Provisioning.Proofs.Creation.Stages
import Provisioning.Proofs.Workflow.Looking

/-!
# Commands are jobs

To carry out a command is to do a job of the provisioner and to say what has come
of it.  `NodeCommand.job` and `CatalogCommand.job` are these jobs, so what holds of
jobs holds of commands.

A node command looks, and it makes one other call at most: a creation submits its
order, a destruction cancels a billing item and a power operation changes the power
of a guest.  `NodeCommand.assures_job` is the rule that comes of it.
-/

namespace Provisioning

variable {α β γ : Type}

/-! ## Jobs -/

theorem Job.after_map (job : Job α) (f : α → β) (catalog : RefreshOutcome) :
    (job.map f).after catalog = (job.after catalog).bind fun result => .done (f result) := by
  cases job <;> rfl

theorem Session.perform_map (s : Session) (job : Job α) (f : α → β) :
    s.perform (job.map f) = (f (s.perform job).1, (s.perform job).2) := by
  cases job with
  | plain workflow =>
    simp only [Job.map, perform, runWorkflow, Workflow.run_bind]
    rfl
  | withCatalog workflow =>
    simp only [Job.map, perform, runWorkflow, Workflow.run_bind]
    rfl

/-! ## Commands -/

namespace Console

/-- The job of a node command. -/
def NodeCommand.job (p : Provisioner) : NodeCommand → Job (Except Failure NodeResult)
  | .create wanted => (p.create wanted).map fun result => orFailed (result.map .created)
  | .destroy id => (p.destroy id).map fun result => orFailed (result.map fun _ => .destroyed id)
  | .list => p.listNodes.map fun result =>
    orFailed (result.map fun listed => .listed (listed.map p.metadata))
  | .get id => (p.getNode id).map fun
    | .ok (some resource) => .ok (.found (p.metadata resource))
    | .ok none => .error (.noSuchNode id)
    | .error cause => .error (.failed cause)
  | .power operation id => (p.power operation id).map fun result =>
    orFailed (result.map fun _ => .powered operation id)

/-- The job of a catalog command. -/
def CatalogCommand.job (p : Provisioner) : CatalogCommand → Job (Except Failure CatalogResult)
  | .profiles => p.profiles.map fun result => orFailed (result.map .profiles)
  | .images => p.images.map fun result => orFailed (result.map .images)
  | .locations => p.locations.map fun result => orFailed (result.map .locations)

theorem NodeCommand.execute_eq (command : NodeCommand) (s : Session) :
    command.execute s = s.perform (command.job s.provisioner) := by
  cases command <;> (rw [job, Session.perform_map]; rfl)

theorem CatalogCommand.execute_eq (command : CatalogCommand) (s : Session) :
    command.execute s = s.perform (command.job s.provisioner) := by
  cases command <;> (rw [job, Session.perform_map]; rfl)

end Console

/-! ## What a node command does -/

/-- The operations that open or close an account of the vendor's. -/
def Operation.Books : Operation → Prop
  | .submitOrder | .cancelBillingItem => True
  | _ => False

/-- The operations that change the power of a resource. -/
def Operation.Powers : Operation → Prop
  | .reboot | .pause | .resume => True
  | _ => False

theorem Operation.Looks.not_books {operation : Operation} (h : operation.Looks) :
    ¬operation.Books := by
  cases operation <;> first | exact id | exact h.elim

theorem Operation.Browses.not_books {operation : Operation} (h : operation.Browses) :
    ¬operation.Books := by
  cases operation <;> first | exact id | exact h.elim

theorem Operation.Powers.not_books {operation : Operation} (h : operation.Powers) :
    ¬operation.Books := by
  cases operation <;> first | exact id | exact h.elim

theorem Operation.Looks.not_powers {operation : Operation} (h : operation.Looks) :
    ¬operation.Powers := by
  cases operation <;> first | exact id | exact h.elim

theorem Operation.Browses.not_powers {operation : Operation} (h : operation.Browses) :
    ¬operation.Powers := by
  cases operation <;> first | exact id | exact h.elim

namespace Console

variable {around : Surroundings γ} {P Q : γ → Prop}

/-- What looks and power operations keep holds before the one call of a command that
books, and what looks keep from then on holds in the end. -/
theorem NodeCommand.assures_job (before : around.Keeps Operation.Looks P)
    (after : around.Keeps Operation.Looks Q) (rests : ∀ g, P g → Q g)
    (books : ∀ g call, call.operation.Books → P g → around.Allows g call ∧
      ∀ answer g', around.Answers g call answer g' → Q g')
    {p : Provisioner}
    (powers : p.config.kind = .virtualGuest → around.Keeps Operation.Powers P)
    (command : NodeCommand) (catalog : RefreshOutcome) {g : γ} (known : P g) :
    ((command.job p).after catalog).Assures around (fun _ g' => Q g') g := by
  have done : ∀ {α : Type} {w : Procedure α},
      w.Assures around (fun _ g' => Q g') (fun _ g' => Q g') g →
        w.run.Assures around (fun _ g' => Q g') g := by
    intro α w h
    refine Workflow.Assures.mono h fun result g' h => ?_
    cases result <;> exact h
  have looked : ∀ call : Call, call.operation.Looks →
      (request call).Assures around (fun _ g' => Q g') (fun _ g' => Q g') g := by
    intro call looks
    exact (before.request call looks known).mono (fun _ g' => rests g') fun _ g' => rests g'
  cases command with
  | create wanted =>
    rw [job, Job.after_map, Workflow.assures_bind]
    cases catalog with
    | error cause => exact rests g known
    | ok package =>
      refine done (after.createFrom (fun order _ => ?_) fun _ _ => rests g known)
      exact books g (.submitOrder order) trivial known
  | destroy id =>
    rw [job, Job.after_map, Workflow.assures_bind]
    exact done (before.destroyNode after
      (fun g item known => books g (.cancelBillingItem item) trivial known) rests known)
  | list =>
    rw [job, Job.after_map, Workflow.assures_bind]
    have listed : Provisioner.billableResources.Assures around (fun _ g' => Q g')
        (fun _ g' => Q g') g := by
      simp only [Provisioner.billableResources, Procedure.assures_bind, Procedure.assures_pure]
      exact looked .listResources trivial
    exact done listed
  | get id =>
    rw [job, Job.after_map, Workflow.assures_bind]
    exact done (looked (.getResource id) trivial)
  | power operation id =>
    rw [job, Job.after_map, Workflow.assures_bind]
    unfold Provisioner.power
    split
    · rename_i guest
      refine done ?_
      have powered : ∀ call : Call, call.operation.Powers →
          (request call).Assures around (fun _ g' => Q g') (fun _ g' => Q g') g := by
        intro call h
        exact ((powers guest).request call h known).mono (fun _ g' => rests g')
          fun _ g' => rests g'
      cases operation with
      | reboot => exact powered (.reboot id) trivial
      | suspend => exact powered (.pause id) trivial
      | resume => exact powered (.resume id) trivial
    · exact rests g known

end Console

end Provisioning
