import Provisioning.Proofs.Vendor.Holding
import Provisioning.Proofs.Workflow.Gate
import Provisioning.Workflow.Run

/-!
# A workflow alone with the simulated vendor

A workflow that has the simulated vendor to itself is answered in one way only.
`Surroundings.alone` are these surroundings, and `Workflow.Assures.run_alone`
carries what is assured in them over to `Workflow.run`.  Only the lookup of a
package takes time, so a request for anything else is answered at once
(`assures_request_alone`).

The probes of the stages are stated here in terms of the holding of their
resource.
-/

namespace Provisioning

variable {α : Type}

/-- What is known of a workflow that has the vendor to itself: the time and the
vendor. -/
structure Solitude where
  now : Nat
  vendor : Simulator

/-- The surroundings of a workflow that has the simulated vendor to itself. -/
def Surroundings.alone : Surroundings Solitude where
  Allows _ _ := True
  Answers g call answer g' :=
    let reply := Simulator.asVendor.respond g.vendor g.now call
    answer = reply.2.2 ∧ g' = ⟨g.now + reply.2.1, reply.1⟩
  Passes g ms g' := g' = { g with now := g.now + ms }
  Shows g time := time = g.now

theorem Surroundings.timed_alone : alone.Timed Solitude.now where
  shows h := h
  passes := by
    intro g ms g' h
    rw [h]
  answers := by
    intro g call answer g' h
    rw [h.2]
    exact Nat.le_add_right _ _

theorem Surroundings.realized_alone :
    alone.Realized Simulator.asVendor fun run g => run.vendor = g.vendor ∧ run.now = g.now where
  answers := by
    intro run g call known _
    obtain ⟨now, vendor⟩ := g
    obtain ⟨rfl, rfl⟩ := known
    exact ⟨_, ⟨rfl, rfl⟩, rfl, rfl⟩
  passes := by
    intro run g ms known
    exact ⟨_, rfl, known.1, by rw [known.2]⟩
  shows run g known := known.2
  reports run g notice known := known

/-- What is assured of a workflow that has the vendor to itself holds of its
run. -/
theorem Workflow.Assures.run_alone {w : Workflow α} {post : α → Solitude → Prop}
    (run : Run Simulator) (h : w.Assures .alone post ⟨run.now, run.vendor⟩) :
    post (w.run Simulator.asVendor run).1
      ⟨(w.run Simulator.asVendor run).2.now, (w.run Simulator.asVendor run).2.vendor⟩ := by
  obtain ⟨g, hpost, hvendor, hnow⟩ := h.run Surroundings.realized_alone ⟨rfl, rfl⟩
  rw [hvendor, hnow]
  exact hpost

/-- Only the lookup of a package takes time. -/
theorem Simulator.latency_arrive (s : Simulator) {call : Call}
    (instant : call.operation ≠ .activePackageByName) : (s.arrive call).2.latencyMs = 0 := by
  cases call with
  | activePackageByName name => exact absurd rfl instant
  | _ => rfl

/-- A request that takes no time. -/
theorem assures_request_alone {call : Call} {ok : call.Reply → Solitude → Prop}
    {fail : Error → Solitude → Prop} {g : Solitude}
    (instant : call.operation ≠ .activePackageByName)
    (succeeds : ∀ reply, (g.vendor.call call).2 = .ok reply →
      ok reply ⟨g.now, (g.vendor.call call).1⟩)
    (fails : ∀ cause, (g.vendor.call call).2 = .error cause →
      fail cause ⟨g.now, (g.vendor.call call).1⟩) :
    (request call).Assures .alone ok fail g := by
  have answered : ∀ answer g', Surroundings.alone.Answers g call answer g' →
      answer = (g.vendor.call call).2 ∧ g' = ⟨g.now, (g.vendor.call call).1⟩ := by
    intro answer g' h
    obtain ⟨hanswer, hg'⟩ := h
    refine ⟨hanswer, ?_⟩
    have latency : (Simulator.asVendor.respond g.vendor g.now call).2.1 = 0 :=
      g.vendor.latency_arrive instant
    rw [hg', latency]
    rfl
  refine (Procedure.assures_request _ _ _).mpr ⟨trivial, ?_, ?_⟩
  · intro reply g' h
    obtain ⟨hanswer, hg'⟩ := answered _ _ h
    rw [hg']
    exact succeeds reply hanswer.symm
  · intro cause g' h
    obtain ⟨hanswer, hg'⟩ := answered _ _ h
    rw [hg']
    exact fails cause hanswer.symm

/-! ## Requests about a resource -/

namespace Simulator

variable (s : Simulator) (id : ResourceId)

theorem call_activeTransaction : (s.call (.activeTransaction id)).2 =
    .ok (s.holding id).look.2 := by
  have arrived := s.holding_arrive id (.activeTransaction id)
  rw [← arrived, ← nextTransaction_snd]
  rfl

theorem holding_call_activeTransaction :
    (s.call (.activeTransaction id)).1.holding id = (s.holding id).look.1 := by
  have arrived := s.holding_arrive id (.activeTransaction id)
  exact holding_nextTransaction_self.trans (congrArg (·.look.1) arrived)

theorem call_getResource : (s.call (.getResource id)).2 = .ok (s.holding id).resource :=
  rfl

theorem holding_call_getResource (other : ResourceId) :
    (s.call (.getResource id)).1.holding other = s.holding other :=
  rfl

end Simulator

/-- A look for the start of a cycle. -/
theorem assures_transactionsStarted_alone (id : ResourceId) (tracker : Tracker) (g : Solitude) :
    (transactionsStarted id tracker).Assures .alone
      (fun result g' => result.2 = (g.vendor.holding id).look.2.isSome ∧
        (result.2 = true → result.1.HasSeen id) ∧ g'.now = g.now ∧
        g'.vendor = (g.vendor.call (.activeTransaction id)).1)
      (fun _ _ => False) g := by
  simp only [transactionsStarted, Procedure.assures_bind, Procedure.assures_liftM,
    Workflow.assures_notifyAll, Procedure.assures_pure]
  refine assures_request_alone (fun h => (by cases h)) (fun reply hreply => ?_)
    fun cause hcause => ?_
  · rw [Simulator.call_activeTransaction] at hreply
    cases hreply
    refine ⟨tracker.started_holds id _, fun hsome => ?_, rfl, rfl⟩
    rw [tracker.started_holds] at hsome
    obtain ⟨active, hactive⟩ := Option.isSome_iff_exists.mp hsome
    rw [hactive]
    exact tracker.hasSeen_started id active
  · rw [Simulator.call_activeTransaction] at hcause
    cases hcause

/-- A look for the end of a cycle that has been seen to start. -/
theorem assures_transactionsEnded_alone (id : ResourceId) {tracker : Tracker}
    (seen : tracker.HasSeen id) (g : Solitude) :
    (transactionsEnded id tracker).Assures .alone
      (fun result g' => result.2 = (g.vendor.holding id).look.2.isNone ∧
        (result.2 = false → result.1.HasSeen id) ∧ g'.now = g.now ∧
        g'.vendor = (g.vendor.call (.activeTransaction id)).1)
      (fun _ _ => False) g := by
  simp only [transactionsEnded, Procedure.assures_bind, Procedure.assures_liftM,
    Workflow.assures_notifyAll, Procedure.assures_pure]
  refine assures_request_alone (fun h => (by cases h)) (fun reply hreply => ?_)
    fun cause hcause => ?_
  · rw [Simulator.call_activeTransaction] at hreply
    cases hreply
    refine ⟨Tracker.ended_holds seen _, fun hnone => ?_, rfl, rfl⟩
    rw [Tracker.ended_holds seen] at hnone
    cases hactive : (g.vendor.holding id).look.2 with
    | none =>
      rw [hactive] at hnone
      cases hnone
    | some active => exact tracker.hasSeen_ended id active
  · rw [Simulator.call_activeTransaction] at hcause
    cases hcause

/-- A look for the login details, as a stage takes it. -/
theorem assures_loginDetailsPresent_alone (id : ResourceId) (tracker : Tracker) (g : Solitude) :
    Procedure.Assures .alone (do return (tracker, ← loginDetailsPresent id))
      (fun result g' => result.2 = (g.vendor.holding id).resource.any (·.hasLoginDetails) ∧
        g'.now = g.now ∧ g'.vendor.holding id = g.vendor.holding id)
      (fun _ _ => False) g := by
  simp only [loginDetailsPresent, Procedure.assures_bind, Procedure.assures_pure]
  refine assures_request_alone (fun h => (by cases h)) (fun reply hreply => ?_)
    fun cause hcause => ?_
  · rw [Simulator.call_getResource] at hreply
    cases hreply
    exact ⟨rfl, rfl, rfl⟩
  · rw [Simulator.call_getResource] at hcause
    cases hcause

end Provisioning
