import Provisioning.Proofs.Workflow.Looking
import Provisioning.Session

/-!
# Looking the catalog up

A refresh of the catalog asks the vendor for its package and for nothing else,
and such calls leave no trace in a simulated vendor but their number and the
faults that they met.  So the vendor of a session after the lookup of the
catalog is the vendor before it in everything that concerns resources and
orders.
-/

namespace Provisioning

variable {α : Type}

/-- The vendors are equal but for the count of calls and the faults to come. -/
def Simulator.Browsed (s s' : Simulator) : Prop :=
  ∃ calls catalogFaults, s' = { s with calls := calls, catalogFaults := catalogFaults }

theorem Simulator.Browsed.trans {s s' s'' : Simulator} (h : s.Browsed s') (h' : s'.Browsed s'') :
    s.Browsed s'' := by
  obtain ⟨calls, catalogFaults, rfl⟩ := h
  obtain ⟨calls', catalogFaults', rfl⟩ := h'
  exact ⟨calls', catalogFaults', rfl⟩

/-- A call for a package leaves resources and orders alone. -/
theorem Simulator.browsed_call (s : Simulator) {call : Call}
    (h : call.operation = .activePackageByName ∨ call.operation = .packageDetail) :
    s.Browsed (s.call call).1 := by
  cases call with
  | activePackageByName name =>
    refine ⟨s.calls.record .activePackageByName, s.catalogFaults.tail, ?_⟩
    simp only [call, arrive, serve]
    split <;> rfl
  | packageDetail packageId => exact ⟨_, _, rfl⟩
  | _ => rcases h with h | h <;> cases h

/-- The surroundings of a workflow that only looks the catalog up. -/
def Surroundings.browsing : Surroundings Simulator where
  Allows _ call := call.operation = .activePackageByName ∨ call.operation = .packageDetail
  Answers s _ _ s' := s.Browsed s'
  Passes s _ s' := s' = s
  Shows _ _ := True

theorem Surroundings.realized_browsing :
    browsing.Realized Simulator.asVendor fun run s => run.vendor = s where
  answers := by
    intro run s call known allowed
    subst known
    exact ⟨_, run.vendor.browsed_call allowed, rfl⟩
  passes := by
    intro run s ms known
    exact ⟨s, rfl, known⟩
  shows _ _ _ := trivial
  reports _ _ _ known := known

theorem Surroundings.keeps_browsing (s₀ : Simulator) :
    browsing.Keeps Operation.Browses fun s => s₀.Browsed s where
  allows {_ call} asked _ := by
    cases call with
    | activePackageByName name => exact .inl rfl
    | packageDetail packageId => exact .inr rfl
    | _ => exact asked.elim
  answers _ h answered := h.trans answered
  passes h passed := by
    rw [passed]
    exact h

/-- The lookup of the catalog leaves the provisioner and the vendor of a session
as they are. -/
theorem Session.catalog_snd (session : Session) :
    session.catalog.2.provisioner = session.provisioner ∧
      session.simulator.Browsed session.catalog.2.simulator := by
  unfold Session.catalog
  dsimp only
  split
  · exact ⟨rfl, _, _, rfl⟩
  · refine ⟨rfl, ?_⟩
    have start : session.simulator.Browsed session.simulator := ⟨_, _, rfl⟩
    have assured : (refreshCatalog session.provisioner.config.packageName
        session.provisioner.config.polling.catalogRetry).Assures .browsing
        (fun _ s => session.simulator.Browsed s) session.simulator :=
      (Surroundings.keeps_browsing session.simulator).refreshCatalog start
    have same : session.run.vendor = session.simulator := rfl
    obtain ⟨s, browsed, heq⟩ := assured.run Surroundings.realized_browsing same
    rw [← heq] at browsed
    exact browsed

end Provisioning
