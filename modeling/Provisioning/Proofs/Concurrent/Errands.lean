import Provisioning.Proofs.Concurrent.Ownership

/-!
# Errands

A task of a pool is there for an errand: the creation of a node, its
destruction, or a listing.  `Errand.assures` says what each errand assures among
others; a creation may be handed any catalog.
-/

namespace Provisioning

variable {α β γ : Type}

/-! ## Jobs -/

/-- The same for a job, whatever catalog it is handed. -/
def Job.Assures (around : Surroundings γ) (job : Job α) (post : α → γ → Prop) (g : γ) : Prop :=
  match job with
  | .plain workflow => workflow.Assures around post g
  | .withCatalog workflow => ∀ catalog, (workflow catalog).Assures around post g

theorem Job.assures_map {around : Surroundings γ} (f : α → β) (job : Job α) (post : β → γ → Prop)
    (g : γ) :
    (job.map f).Assures around post g ↔ job.Assures around (fun a g' => post (f a) g') g := by
  cases job with
  | plain workflow => exact Workflow.assures_bind _ _ _ _
  | withCatalog workflow => exact forall_congr' fun catalog => Workflow.assures_bind _ _ _ _

/-! ## Creation -/

/-- The node is the resource of this id and hostname, with its login. -/
structure CreatedNode.IsOf (node : CreatedNode) (id : ResourceId) (hostname : String) : Prop where
  ofId : node.resource.id = id
  ofHostname : node.resource.hostname = hostname
  nodeId : node.nodeId = toString id
  credentials : node.credentials = ⟨"root", "pw-" ++ hostname ++ "-" ++ toString id⟩

variable {name? : Option String} {id : ResourceId} {base : Holding} {g : Option Ownership}

/-- Only the own resource is discovered. -/
theorem assures_awaitDiscovery_amid {policy : StagePolicy} {receipt : OrderReceipt}
    (named : name? = some receipt.order.resource.hostname)
    (echoed : ∀ r, receipt.resources.head? = some r → r.id = id) (owns : Owns id base g) :
    (awaitDiscovery policy receipt).Assures (.amid name?)
      (fun resource g' => resource.id = id ∧ Owns id base g') (fun _ _ => True) g := by
  simp only [awaitDiscovery, Procedure.assures_bind]
  refine (assures_pollUntil_invariant
    (fun result g' => (∀ r, result.2 = some r → r.id = id) ∧ Owns id base g')
    (fun _ g => Owns id base g) ?_ ?_ (fun _ _ owns => ⟨fun _ h => (by cases h), owns⟩) ()
    g owns).mono ?_ fun _ _ h => h
  · intro _ g owns
    simp only [Procedure.assures_bind, attemptDiscovery]
    refine (Procedure.assures_request _ _ _).mpr ⟨trivial, ?_, fun _ _ _ => trivial⟩
    intro order g' answered
    rw [show g' = g from answered]
    split
    · simp only [Procedure.assures_bind, Procedure.assures_pure]
      refine (Procedure.assures_request _ _ _).mpr ⟨trivial, ?_, fun _ _ _ => trivial⟩
      intro listed g'' answered
      obtain ⟨hg'', listed', hlisted, own⟩ := answered
      cases hlisted
      rw [hg'']
      cases hfound : receipt.findIn listed with
      | none => exact owns
      | some resource =>
        refine ⟨fun r hr => ?_, owns⟩
        cases hr
        unfold OrderReceipt.findIn at hfound
        cases hhead : receipt.resources.head? with
        | some r =>
          simp only [hhead] at hfound
          have hid := List.find?_some hfound
          rw [beq_iff_eq.mp hid]
          exact echoed r hhead
        | none =>
          simp only [hhead] at hfound
          have hname := List.find?_some hfound
          rw [beq_iff_eq] at hname
          obtain ⟨looks, howns⟩ := owns
          exact own _ howns resource (List.mem_of_find?_eq_some hfound) (by rw [named, hname])
    · exact owns
  · intro _ g ms g' owns passed
    rw [show g' = g from passed]
    exact owns
  · intro result g' hresult
    obtain ⟨_, found⟩ := result
    cases found with
    | none => exact trivial
    | some resource => exact ⟨hresult.1 resource rfl, hresult.2⟩

/-- A creation finishes with its own resource and its login. -/
theorem assures_finishCreation_amid {polling : PollingConfig} {discovered : Resource}
    {hostname : String} (feeds : base.script.isSome = true)
    (bears : base.Bears discovered.id hostname)
    (owns : Owns discovered.id base g) :
    (finishCreation polling discovered).Assures (.amid name?)
      (fun node g' => Owns discovered.id base g' ∧ node.IsOf discovered.id hostname)
      (fun _ _ => True) g := by
  simp only [finishCreation, Procedure.assures_bind, Procedure.assures_liftM, Workflow.notify,
    Workflow.Assures]
  refine (assures_awaitCycle_amid feeds owns).mono ?_ fun _ _ h => h
  intro _ g₁ owns₁
  refine (assures_loginDetails_amid owns₁).mono ?_ fun _ _ h => h
  intro _ g₂ owns₂
  refine assures_getResource_amid owns₂ ?_
  intro looks hg₂
  have bears' := bears.after looks
  cases hresource : (base.after looks).resource with
  | none => exact trivial
  | some resource =>
    obtain ⟨hid, hname, hlogin⟩ := bears' resource hresource
    cases hcredentials : resource.credentials with
    | none =>
      simp only [hcredentials]
      exact trivial
    | some login =>
      simp only [hcredentials]
      exact ⟨owns₂, hid, hname, rfl, hlogin login hcredentials⟩

/-- A creation that begins without a resource orders one and finishes with it. -/
theorem assures_createFrom_amid (config : Config) (package : ProductPackage)
    (wanted : CreateRequest) :
    (createFrom config package wanted).Assures (.amid (some wanted.hostname))
      (fun node g' => ∃ o, g' = some o ∧ node.IsOf o.id wanted.hostname) (fun _ _ => True)
      none := by
  simp only [createFrom, Procedure.assures_bind, Procedure.assures_ofExcept]
  refine ⟨fun order ordered => ?_, fun _ _ => trivial⟩
  have hname := hostname_of_orderFor ordered
  refine (Procedure.assures_request _ _ _).mpr ⟨⟨rfl, by rw [hname]⟩, ?_, fun _ _ _ => trivial⟩
  intro receipt g₁ answered
  obtain ⟨o, receipt', hreceipt, hg₁, hlooks, feeds, bears, horder, echoed⟩ := answered
  cases hreceipt
  have owns : Owns o.id o.base g₁ := ⟨o.looks, hg₁⟩
  simp only [Procedure.assures_liftM, Workflow.notify, Workflow.Assures]
  have named : some wanted.hostname = some receipt.order.resource.hostname := by
    rw [horder, hname]
  refine (assures_awaitDiscovery_amid named echoed owns).mono ?_ fun _ _ h => h
  intro discovered g₂ hdiscovered
  obtain ⟨hid, owns₂⟩ := hdiscovered
  rw [hname, ← hid] at bears
  rw [← hid] at owns₂
  refine (assures_finishCreation_amid feeds bears owns₂).mono ?_ fun _ _ h => h
  intro node g₃ hnode
  obtain ⟨⟨looks, hg₃⟩, hof⟩ := hnode
  exact ⟨_, hg₃, hof⟩

/-! ## Destruction and listing -/

/-- A destruction cancels the billing item of its own resource. -/
theorem assures_destroyNode_amid (polling : PollingConfig) (id : ResourceId) (base : Holding) :
    (destroyNode polling id).Assures (.amid none) (fun _ _ => True) (fun _ _ => True)
      (some ⟨id, base, 0⟩) := by
  simp only [destroyNode, Procedure.assures_bind]
  refine (Procedure.assures_request _ _ _).mpr ⟨⟨_, rfl, rfl⟩, ?_, fun _ _ _ => trivial⟩
  intro reply g₁ answered
  obtain ⟨hg₁, o, ho, hreply⟩ := answered
  cases ho
  cases hreply
  rw [hg₁]
  split
  · exact trivial
  · rename_i resource hresource
    split
    · exact trivial
    · rename_i item hitem
      simp only [Procedure.assures_bind]
      refine (Procedure.assures_request _ _ _).mpr
        ⟨⟨rfl, _, resource, rfl, rfl, hresource, hitem⟩, ?_, fun _ _ _ => trivial⟩
      intro done g₂ answered
      obtain ⟨hdone, o, number, ho, hg₂⟩ := answered
      cases ho
      cases hdone
      have owns : Owns id (base.cancelled number) g₂ := ⟨0, hg₂⟩
      simp only [Procedure.assures_bind, Procedure.assures_liftM, Workflow.notify,
        Workflow.Assures, if_true]
      exact (assures_awaitCycle_amid rfl owns).mono (fun _ _ _ => trivial) fun _ _ h => h

/-- A listing lists. -/
theorem assures_billableResources_amid :
    Provisioner.billableResources.Assures (.amid name?) (fun _ _ => True) (fun _ _ => True)
      g := by
  simp only [Provisioner.billableResources, Procedure.assures_bind, Procedure.assures_pure]
  exact (Procedure.assures_request _ _ _).mpr ⟨trivial, fun _ _ _ => trivial, fun _ _ _ => trivial⟩

/-! ## Errands -/

/-- What a task is there for. -/
inductive Errand where
  | create (provisioner : Provisioner) (wanted : CreateRequest)
  | destroy (provisioner : Provisioner) (id : ResourceId)
  | list (provisioner : Provisioner)

/-- What an errand ends with. -/
inductive ErrandResult where
  | created (result : Except Error CreatedNode)
  | destroyed (result : Except Error Unit)
  | listed (result : Except Error (List Resource))

namespace Errand

/-- The job of an errand. -/
def job : Errand → Job ErrandResult
  | create provisioner wanted => (provisioner.create wanted).map .created
  | destroy provisioner id => (provisioner.destroy id).map .destroyed
  | list provisioner => provisioner.listNodes.map .listed

/-- The name of the resource that is to be ordered. -/
def hostname? : Errand → Option String
  | create _ wanted => some wanted.hostname
  | _ => none

/-- What is owned before anything is done. -/
def stake (s : Simulator) : Errand → Option Ownership
  | destroy _ id => some ⟨id, s.holding id, 0⟩
  | _ => none

/-- A creation that succeeded has brought back the resource that it owns. -/
def Fulfilled (errand : Errand) (result : ErrandResult) (g : Option Ownership) : Prop :=
  ∀ provisioner wanted node, errand = .create provisioner wanted → result = .created (.ok node) →
    ∃ o, g = some o ∧ node.IsOf o.id wanted.hostname

/-- Every errand keeps to its own resource. -/
theorem assures (errand : Errand) (s : Simulator) :
    errand.job.Assures (.amid errand.hostname?) errand.Fulfilled (errand.stake s) := by
  cases errand with
  | create provisioner wanted =>
    refine (Job.assures_map ErrandResult.created (provisioner.create wanted) _ _).mpr ?_
    intro catalog
    have created : Procedure.Assures (.amid (some wanted.hostname))
        (do let package ← (catalog : Except Error ProductPackage)
            createFrom provisioner.config package wanted)
        (fun node g' => ∃ o, g' = some o ∧ node.IsOf o.id wanted.hostname) (fun _ _ => True)
        none := by
      simp only [Procedure.assures_bind, Procedure.assures_ofExcept]
      exact ⟨fun package _ => assures_createFrom_amid _ _ _, fun _ _ => trivial⟩
    refine Workflow.Assures.mono created fun result g' h => ?_
    intro _ wanted' node herrand hresult
    cases herrand
    cases hresult
    exact h
  | destroy provisioner id =>
    refine (Job.assures_map ErrandResult.destroyed (provisioner.destroy id) _ _).mpr ?_
    refine Workflow.Assures.mono
      (assures_destroyNode_amid provisioner.config.polling id (s.holding id)) ?_
    intro result g' _ _ wanted node herrand
    cases herrand
  | list provisioner =>
    refine (Job.assures_map ErrandResult.listed provisioner.listNodes _ _).mpr ?_
    refine Workflow.Assures.mono assures_billableResources_amid ?_
    intro result g' _ _ wanted node herrand
    cases herrand

end Errand

end Provisioning
