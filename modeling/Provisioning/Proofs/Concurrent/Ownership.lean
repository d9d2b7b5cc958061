import Provisioning.Proofs.Creation.Placement
import Provisioning.Proofs.Vendor.Badges
import Provisioning.Proofs.Workflow.Looking

/-!
# Workflows that own a resource

Among others, a workflow can count on its own resource only.  `Ownership` is
what it can count on: the id, the holding at the beginning of the cycle and the
number of looks at the feed since then.  Nobody else touches that holding, so it
is what these looks have made of it.

`Surroundings.amid` are the surroundings of a workflow among others.  A creation
enters them without a resource and owns one from its order on, a destruction
owns its resource from the beginning, and a listing owns none.  What each of
them assures there does not mention the others.

* It asks about the feed and the snapshot of its own resource only.
* A creation that succeeds brings back its own resource with its login.
-/

namespace Provisioning

variable {α γ σ : Type}

/-! ## Holdings and looks -/

namespace Holding

/-- The holding after so many looks at the feed. -/
def after (h : Holding) : Nat → Holding
  | 0 => h
  | looks + 1 => (h.after looks).look.1

/-- What so many looks at the feed show. -/
def shown (h : Holding) (looks : Nat) : List (Option Transaction) :=
  (List.range looks).map fun n => (h.after n).look.2

theorem shown_succ (h : Holding) (looks : Nat) :
    h.shown (looks + 1) = h.shown looks ++ [(h.after looks).look.2] := by
  unfold shown
  rw [List.range_succ, List.map_append]
  rfl

theorem after_eq_played {h : Holding} {script : Script} (hscript : h.script = some script)
    (looks : Nat) : h.after looks = h.played script looks := by
  induction looks with
  | zero => exact (played_zero hscript).symm
  | succ looks ih => rw [after, ih, look_played]

/-- Looks show the entries of the script in order, and then nothing. -/
theorem shown_eq {h : Holding} {script : Script} (hscript : h.script = some script)
    (looks : Nat) : h.shown looks = (List.range looks).map fun n => script.entries[n]?.join := by
  unfold shown
  refine List.map_congr_left fun n _ => ?_
  rw [after_eq_played hscript, look_played]

/-- If there is a resource, it has this id and hostname, and a login that it can
be given is the one made from them. -/
def Bears (h : Holding) (id : ResourceId) (hostname : String) : Prop :=
  ∀ r, h.resource = some r → r.id = id ∧ r.hostname = hostname ∧
    ∀ login, r.credentials = some login →
      login = ⟨"root", "pw-" ++ hostname ++ "-" ++ toString id⟩

theorem Bears.finish {h : Holding} {id : ResourceId} {hostname : String}
    (bears : h.Bears id hostname) (outcome : CycleOutcome) :
    Holding.Bears { h with resource := h.finish outcome, script := none } id hostname := by
  intro r hr
  cases outcome with
  | removed => cases hr
  | provisioned =>
    obtain ⟨before, hbefore, hafter⟩ := Option.map_eq_some_iff.mp hr
    obtain ⟨hid, hname, hlogin⟩ := bears before hbefore
    rw [← hafter]
    refine ⟨hid, hname, fun login h' => ?_⟩
    cases hwithheld : h.withholdPasswords with
    | true =>
      rw [hwithheld] at h'
      exact hlogin login h'
    | false =>
      rw [hwithheld] at h'
      rw [← hid, ← hname]
      exact (Option.some.inj h').symm

theorem Bears.look {h : Holding} {id : ResourceId} {hostname : String}
    (bears : h.Bears id hostname) : h.look.1.Bears id hostname := by
  unfold Holding.look
  split
  · exact bears
  · rename_i script _
    dsimp only
    split
    · exact bears.finish script.outcome
    · exact bears

theorem Bears.after {h : Holding} {id : ResourceId} {hostname : String}
    (bears : h.Bears id hostname) (looks : Nat) : (h.after looks).Bears id hostname := by
  induction looks with
  | zero => exact bears
  | succ looks ih => exact ih.look

end Holding

/-! ## The surroundings -/

/-- A resource that a workflow owns: its id, the holding at the beginning of its
cycle, and the looks at its feed since then. -/
structure Ownership where
  id : ResourceId
  base : Holding
  looks : Nat

/-- What the vendor holds for the owned resource. -/
def Ownership.holding (o : Ownership) : Holding :=
  o.base.after o.looks

/-- The surroundings of a workflow among others, where `hostname?` is the name of
the resource that it may order.  The approval of orders and the directory
depend on what others do; the directory shows no other resource of that name.
Only a feed that is in place is looked at, and only a resource that was not
ordered is cancelled. -/
def Surroundings.amid (hostname? : Option String) : Surroundings (Option Ownership) where
  Allows g call := match call with
    | .submitOrder order => g = none ∧ hostname? = some order.resource.hostname
    | .billingOrder _ => True
    | .listResources => True
    | .activeTransaction id => ∃ o, g = some o ∧ o.id = id ∧ o.base.script.isSome = true
    | .getResource id => ∃ o, g = some o ∧ o.id = id
    | .cancelBillingItem item => hostname? = none ∧
      ∃ o r, g = some o ∧ o.looks = 0 ∧ o.base.resource = some r ∧ r.billingItemId = some item
    | _ => False
  Answers g call := match call with
    | .submitOrder order => fun answer g' =>
      ∃ o receipt, answer = .ok receipt ∧ g' = some o ∧ o.looks = 0 ∧
        o.base.script.isSome = true ∧ o.base.Bears o.id order.resource.hostname ∧
        receipt.order = order ∧ ∀ r, receipt.resources.head? = some r → r.id = o.id
    | .listResources => fun answer g' =>
      g' = g ∧ ∃ listed, answer = .ok listed ∧
        ∀ o, g = some o → ∀ r ∈ listed, hostname? = some r.hostname → r.id = o.id
    | .activeTransaction _ => fun answer g' =>
      ∃ o, g = some o ∧ answer = .ok o.holding.look.2 ∧ g' = some { o with looks := o.looks + 1 }
    | .getResource _ => fun answer g' =>
      g' = g ∧ ∃ o, g = some o ∧ answer = .ok o.holding.resource
    | .cancelBillingItem _ => fun answer g' =>
      answer = .ok true ∧
        ∃ o number, g = some o ∧ g' = some { o with base := o.base.cancelled number }
    | _ => fun _ g' => g' = g
  Passes g _ g' := g' = g
  Shows _ _ := True

/-- The resource of this id is owned, and its cycle began with this holding. -/
def Owns (id : ResourceId) (base : Holding) (g : Option Ownership) : Prop :=
  ∃ looks, g = some ⟨id, base, looks⟩

/-! ## Gates -/

section Gates

variable {polling : PollingConfig} {label : String} {hostname? : Option String} {id : ResourceId} {base : Holding} {g : Option Ownership}

theorem assures_activeTransaction_amid {ok : Option Transaction → Option Ownership → Prop}
    {fail : Error → Option Ownership → Prop} (feeds : base.script.isSome = true)
    (owns : Owns id base g)
    (looked : ∀ active g', Owns id base g' → ok active g') :
    Procedure.Assures (.amid hostname?) (request (.activeTransaction id)) ok fail g := by
  obtain ⟨looks, rfl⟩ := owns
  refine (Procedure.assures_request _ _ _).mpr ⟨⟨_, rfl, rfl, feeds⟩, ?_, ?_⟩
  · intro active g' answered
    obtain ⟨o, ho, -, hg'⟩ := answered
    cases ho
    exact looked active g' ⟨looks + 1, hg'⟩
  · intro cause g' answered
    obtain ⟨o, -, hanswer, -⟩ := answered
    cases hanswer

theorem assures_getResource_amid {ok : Option Resource → Option Ownership → Prop}
    {fail : Error → Option Ownership → Prop} (owns : Owns id base g)
    (looked : ∀ looks, g = some ⟨id, base, looks⟩ → ok (base.after looks).resource g) :
    Procedure.Assures (.amid hostname?) (request (.getResource id)) ok fail g := by
  obtain ⟨looks, rfl⟩ := owns
  refine (Procedure.assures_request _ _ _).mpr ⟨⟨_, rfl, rfl⟩, ?_, ?_⟩
  · intro reply g' answered
    obtain ⟨hg', o, ho, hanswer⟩ := answered
    cases ho
    cases hanswer
    rw [hg']
    exact looked looks rfl
  · intro cause g' answered
    obtain ⟨-, o, -, hanswer⟩ := answered
    cases hanswer

/-- The cycle of the own resource. -/
theorem assures_awaitCycle_amid (feeds : base.script.isSome = true) (owns : Owns id base g) :
    (awaitCycle polling label id).Assures (.amid hostname?) (fun _ g' => Owns id base g')
      (fun _ _ => True) g := by
  have idle : ∀ g ms g', Owns id base g → (Surroundings.amid hostname?).Passes g ms g' →
      Owns id base g' := by
    intro g ms g' owns passed
    rw [show g' = g from passed]
    exact owns
  simp only [awaitCycle, Procedure.assures_bind, Procedure.assures_pure]
  refine (assures_awaitStage_invariant (Owns id base) (fun _ _ => True) ?_ idle
    (fun _ _ => trivial) _ owns).mono ?_ fun _ _ h => h
  · intro tracker g owns
    simp only [transactionsStarted, Procedure.assures_bind, Procedure.assures_liftM,
      Workflow.assures_notifyAll, Procedure.assures_pure]
    exact assures_activeTransaction_amid feeds owns fun _ _ owns' => owns'
  · intro tracker g owns
    refine assures_awaitStage_invariant (Owns id base) (fun _ _ => True) ?_ idle
      (fun _ _ => trivial) _ owns
    intro tracker g owns
    simp only [transactionsEnded, Procedure.assures_bind, Procedure.assures_liftM,
      Workflow.assures_notifyAll, Procedure.assures_pure]
    exact assures_activeTransaction_amid feeds owns fun _ _ owns' => owns'

/-- The wait for the login of the own resource. -/
theorem assures_loginDetails_amid (owns : Owns id base g) :
    (awaitStage polling .loginDetails label {} fun tracker => do
      return (tracker, ← loginDetailsPresent id)).Assures (.amid hostname?)
        (fun _ g' => Owns id base g') (fun _ _ => True) g := by
  refine assures_awaitStage_invariant (Owns id base) (fun _ _ => True) ?_ ?_ (fun _ _ => trivial)
    _ owns
  · intro tracker g owns
    simp only [loginDetailsPresent, Procedure.assures_bind, Procedure.assures_pure]
    exact assures_getResource_amid owns fun _ _ => owns
  · intro g ms g' owns passed
    rw [show g' = g from passed]
    exact owns

end Gates

end Provisioning
