import Provisioning.Proofs.Catalog.Browsing
import Provisioning.Proofs.Creation.Placement
import Provisioning.Proofs.Vendor.Gates

/-!
# The outcome of a creation

A creation that has the simulated vendor to itself has an outcome that can be
read off the vendor, the order and the bounds of the stages: the approval and
the discovery take a number of attempts, the feed of the new resource says at
which look its cycle starts and ends, and the resource can be logged into if
its script is over by then and no password is withheld.
`Simulator.creationOutcome` is that reading and `create_eq_creationOutcome` says
that it is right.
-/

namespace Provisioning

/-! ## The outcome -/

/-- What becomes of a discovered resource with a script, where `node` is the
resource when it can be logged into. -/
def cycleOutcome (polling : PollingConfig) (label : String) (entries : List (Option Transaction))
    (withheld : Bool) (node : CreatedNode) : Except Error CreatedNode :=
  let timeout (stage : Stage) : Except Error CreatedNode :=
    .error (.stageTimeout stage label (polling.policy stage).maxWaitMs)
  match entries.findIdx? (·.isSome) with
  | none => timeout .transactionsStarted
  | some i =>
    if polling.transactionsStarted.attempts < i + 1 then timeout .transactionsStarted
    else if polling.transactionsEnded.attempts < cycleEnd entries i - i then
      timeout .transactionsEnded
    else if cycleEnd entries i + 1 < entries.length ∨ withheld = true then timeout .loginDetails
    else .ok node

/-- A resource at the end of its provisioning, with its login. -/
def provisionedNode (kind : ResourceKind) (resource : Resource) : CreatedNode where
  resource := Simulator.provision kind true resource
  nodeId := toString resource.id
  credentials := ⟨"root", "pw-" ++ resource.hostname ++ "-" ++ toString resource.id⟩

/-- The outcome of a creation with this order that has the vendor to itself. -/
def Simulator.creationOutcome (s : Simulator) (polling : PollingConfig) (order : Order) :
    Except Error CreatedNode :=
  let id := s.givenId order.resource.hostname
  let resource := s.orderedResource order id
  if polling.orderApproved.attempts < s.approvalDelay + s.discoveryDelay + 1 then
    .error (.stageTimeout .orderApproved order.resource.hostname polling.orderApproved.maxWaitMs)
  else
    cycleOutcome polling resource.label (s.firstScript id).entries s.withholdPasswords
      (provisionedNode s.kind resource)

/-! ## The gates after the discovery -/

section Finish

variable {polling : PollingConfig} {label : String} {id : ResourceId} {base : Holding}
  {script : Script} {g : Solitude}

/-- The gate for the login details opens at once or never. -/
theorem assures_loginDetails_alone {h : Holding} {tracker : Tracker}
    (holding : g.vendor.holding id = h) :
    (awaitStage polling .loginDetails label tracker fun tracker => do
        return (tracker, ← loginDetailsPresent id)).Assures .alone
      (fun _ g' => h.resource.any (·.hasLoginDetails) = true ∧ g'.vendor.holding id = h)
      (fun cause _ => h.resource.any (·.hasLoginDetails) = false ∧
        cause = .stageTimeout .loginDetails label polling.loginDetails.maxWaitMs) g := by
  refine (assures_awaitStage_counted (fun _ => h.resource.any (·.hasLoginDetails))
    (fun _ _ g' => g'.vendor.holding id = h) (fun _ _ g' => g'.vendor.holding id = h)
    Surroundings.timed_alone ?_ ?_ tracker g holding).mono ?_ ?_
  · intro count tracker g' ms g'' hholding passed
    rw [passed]
    exact hholding
  · intro count tracker g' hholding
    refine (assures_loginDetailsPresent_alone id tracker g').mono ?_ fun _ _ h => h
    intro result g'' hresult
    obtain ⟨hholds, hnow, hholding'⟩ := hresult
    rw [hholding] at hholds hholding'
    refine ⟨hholds, hnow, ?_⟩
    split
    · exact hholding'
    · exact hholding'
  · intro _ g' hopened
    obtain ⟨count, -, -, hholds, hholding⟩ := hopened
    exact ⟨hholds, hholding⟩
  · intro cause g' hranOut
    obtain ⟨hnever, hcause, -⟩ := hranOut
    exact ⟨hnever 0 (Nat.lt_of_lt_of_le Nat.zero_lt_one (Nat.le_add_right 1 _)), hcause⟩

/-- The resource after the looks of its cycle: provisioned if its script is over
by then. -/
theorem resource_played {kind : ResourceKind} {withheld : Bool} {resource : Resource}
    (given : base = ⟨kind, withheld, some resource, some script⟩)
    (provisions : script.outcome = .provisioned) (count : Nat) :
    (base.played script (count + 1)).resource =
      if count + 1 < script.entries.length then some resource
      else some (Simulator.provision kind (!withheld) resource) := by
  unfold Holding.played
  rw [given]
  by_cases hunder : count + 1 < script.entries.length
  · rw [if_pos (.inr hunder), if_pos hunder]
  · rw [if_neg (by omega), if_neg hunder, provisions]
    rfl

/-- The resource can be logged into exactly if its script is over and no password
was withheld. -/
theorem any_hasLoginDetails_played {kind : ResourceKind} {withheld : Bool} {resource : Resource}
    (given : base = ⟨kind, withheld, some resource, some script⟩)
    (provisions : script.outcome = .provisioned) (bare : resource.operatingSystem = none)
    (count : Nat) :
    (base.played script (count + 1)).resource.any (·.hasLoginDetails) = true ↔
      ¬(count + 1 < script.entries.length ∨ withheld = true) := by
  have locked : ∀ r : Resource, r.operatingSystem = none → r.hasLoginDetails = false := by
    intro r hr
    simp [Resource.hasLoginDetails, Resource.firstPassword, hr]
  rw [resource_played given provisions]
  by_cases hunder : count + 1 < script.entries.length
  · rw [if_pos hunder, Option.any_some, locked resource bare]
    simp [hunder]
  · rw [if_neg hunder, Option.any_some]
    cases withheld with
    | true => simp [locked (Simulator.provision kind false resource) bare]
    | false => exact ⟨fun _ => by simp [hunder], fun _ => rfl⟩

/-- What follows the discovery of a resource that has the vendor to itself. -/
theorem assures_finishCreation_alone {kind : ResourceKind} {withheld : Bool} {resource : Resource}
    (holding : g.vendor.holding resource.id = ⟨kind, withheld, some resource, some script⟩)
    (provisions : script.outcome = .provisioned) (bare : resource.operatingSystem = none) :
    (finishCreation polling resource).Assures .alone
      (fun node _ => cycleOutcome polling resource.label script.entries withheld
        (provisionedNode kind resource) = .ok node)
      (fun cause _ => cycleOutcome polling resource.label script.entries withheld
        (provisionedNode kind resource) = .error cause) g := by
  obtain ⟨base, hbase⟩ : ∃ base : Holding, base = ⟨kind, withheld, some resource, some script⟩ :=
    ⟨_, rfl⟩
  have hscript : base.script = some script := by rw [hbase]
  rw [← hbase, ← Holding.played_zero hscript] at holding
  simp only [finishCreation, awaitCycle, Procedure.assures_bind, Procedure.assures_liftM,
    Workflow.notify, Workflow.Assures]
  unfold cycleOutcome
  refine (assures_cycleStarted_alone holding).mono ?_ ?_
  case refine_2 =>
    intro cause _ hstopped
    obtain ⟨hlate, hcause, -⟩ := hstopped
    cases hfirst : script.entries.findIdx? (·.isSome) with
    | none => rw [hcause]; rfl
    | some i =>
      dsimp only
      rw [if_pos (hlate i hfirst), hcause]
      rfl
  intro tracker g₁ hstarted
  obtain ⟨i, hfirst, hi, seen, hlooked₁⟩ := hstarted
  have holding₁ : g₁.vendor.holding resource.id = base.played script (i + 1) := by
    rw [hlooked₁, Simulator.holding_looked holding, Nat.zero_add]
  rw [hfirst]
  dsimp only
  rw [if_neg (by omega)]
  refine (assures_cycleEnded_alone seen holding₁).mono ?_ ?_
  case refine_2 =>
    intro cause _ hstopped
    obtain ⟨hlate, hcause, -⟩ := hstopped
    rw [if_pos hlate, hcause]
    rfl
  intro _ g₂ hended
  obtain ⟨hj, hlooked₂⟩ := hended
  have hend : i + 1 ≤ cycleEnd script.entries i := Nat.le_add_right _ _
  have holding₂ : g₂.vendor.holding resource.id =
      base.played script (cycleEnd script.entries i + 1) := by
    rw [hlooked₂, Simulator.holding_looked holding₁]
    congr 1
    omega
  rw [if_neg (by omega)]
  have hlogin := any_hasLoginDetails_played hbase provisions bare (cycleEnd script.entries i)
  refine (assures_loginDetails_alone holding₂).mono ?_ ?_
  case refine_2 =>
    intro cause _ hstopped
    obtain ⟨hlocked, hcause⟩ := hstopped
    rw [if_pos, hcause]
    · rfl
    · by_contra hopen
      rw [hlogin.mpr hopen] at hlocked
      cases hlocked
  intro _ g₃ hopened
  obtain ⟨hopen, holding₃⟩ := hopened
  have hready := hlogin.mp hopen
  have hover := (not_or.mp hready).1
  have hpassword : withheld = false := by simpa using (not_or.mp hready).2
  rw [if_neg hready]
  refine assures_request_alone (fun h => (by cases h)) (fun reply hreply => ?_)
    fun cause hcause => ?_
  · rw [Simulator.call_getResource, holding₃, resource_played hbase provisions, if_neg hover,
      hpassword] at hreply
    cases hreply
    rfl
  · rw [Simulator.call_getResource] at hcause
    cases hcause

end Finish

/-! ## The whole creation -/

/-- What a vendor is like for which the next order is a new one: its resource,
its number and, unless receipts echo the resource, its hostname are told from
all others, and a script in place for its resource is one of a provisioning.  The
numbers that it takes have 64 bits: that of its billing item, the next one for an
order and, without a script in place, the next ones for transactions.  An operated
vendor has a new order number at all times (`Simulator.Lifecycle.orders`). -/
structure Simulator.Expects (s : Simulator) (hostname : String) : Prop where
  newResource : ∀ held ∈ s.resources, held.resource.id ≠ s.givenId hostname
  newOrder : ∀ held ∈ s.orders, held.id ≠ s.nextOrderId
  newName : s.echoReceipts = true ∨ ∀ held ∈ s.resources, held.resource.hostname ≠ hostname
  provisions : ∀ script, s.scripts.find? (s.givenId hostname) = some script →
    script.outcome = .provisioned
  billingItem : (s.givenId hostname).value * 10 + 1 < Text.wordBound
  orderIds : s.nextOrderId + 1 < Text.wordBound
  transactionIds : s.scripts.find? (s.givenId hostname) = none →
    s.nextTransactionId + 2 < Text.wordBound

/-- Only what an order meets matters. -/
theorem Simulator.Expects.congr {s s' : Simulator} {hostname : String} (h : s.Expects hostname)
    {calls : CallCounts} {catalogFaults : List CatalogFault}
    (same : s' = { s with calls := calls, catalogFaults := catalogFaults }) :
    s'.Expects hostname := by
  subst same
  exact ⟨h.newResource, h.newOrder, h.newName, h.provisions, h.billingItem, h.orderIds,
    h.transactionIds⟩

/-- The vendor after a new order waits for its checks and listings. -/
theorem Simulator.Expects.awaiting {s : Simulator} {order : Order}
    (h : s.Expects order.resource.hostname) :
    Awaiting (s.placeOrder order).2
      (s.orderedResource order (s.givenId order.resource.hostname))
      ⟨s.kind, s.withholdPasswords,
        some (s.orderedResource order (s.givenId order.resource.hostname)),
        some (s.firstScript (s.givenId order.resource.hostname))⟩
      s.approvalDelay s.discoveryDelay (s.placeOrder order).1 := by
  obtain ⟨reservedIds, nextResourceId, nextTransactionId, scripts, hs, -⟩ := s.placeOrder_fst order
  have isFor : ∀ r, (s.placeOrder order).2.isFor r = true ↔
      if s.echoReceipts then r.id = s.givenId order.resource.hostname
      else r.hostname = order.resource.hostname := by
    intro r
    rw [s.placeOrder_snd order]
    unfold OrderReceipt.isFor
    cases s.echoReceipts with
    | true => exact beq_iff_eq
    | false => exact beq_iff_eq
  refine ⟨?order, ?held, ?own, ?only, ?holding⟩
  case order =>
    rw [hs, s.placeOrder_snd order]
    dsimp only
    have hnone : s.orders.find? (·.id == s.nextOrderId) = none := by
      rw [List.find?_eq_none]
      intro held hheld heq
      exact h.newOrder held hheld (beq_iff_eq.mp heq)
    rw [List.find?_append, hnone]
    simp
  case held =>
    rw [hs]
    exact List.mem_append_right _ List.mem_cons_self
  case own =>
    rw [isFor]
    split <;> rfl
  case only =>
    intro held hheld hfor
    rw [hs] at hheld
    rcases List.mem_append.mp hheld with hheld | hheld
    · rw [isFor] at hfor
      split at hfor
      · exact absurd hfor (h.newResource held hheld)
      · rename_i hecho
        rcases h.newName with hname | hname
        · exact absurd hname hecho
        · exact absurd hfor (hname held hheld)
    · exact List.mem_singleton.mp hheld
  case holding =>
    apply holding_placeOrder_self
    unfold find?
    rw [Option.map_eq_none_iff, List.find?_eq_none]
    intro held hheld heq
    exact h.newResource held hheld (beq_iff_eq.mp heq)

/-- A creation with a package that has the vendor to itself. -/
theorem assures_createFrom_alone {config : Config} {package : ProductPackage}
    {wanted : CreateRequest} {order : Order} {g : Solitude}
    (ordered : orderFor config package wanted = .ok order)
    (expects : g.vendor.Expects order.resource.hostname) :
    (createFrom config package wanted).Assures .alone
      (fun node _ => g.vendor.creationOutcome config.polling order = .ok node)
      (fun cause _ => g.vendor.creationOutcome config.polling order = .error cause) g := by
  simp only [createFrom, Procedure.assures_bind, Procedure.assures_ofExcept, ordered]
  refine ⟨?_, fun _ h => (by cases h)⟩
  intro order' horder
  cases horder
  -- the call itself is only counted
  have expects' : (g.vendor.arrive (.submitOrder order)).1.Expects order.resource.hostname :=
    expects.congr rfl
  have awaiting := expects'.awaiting
  refine assures_request_alone (fun h => (by cases h)) (fun receipt hreceipt => ?_)
    fun cause hcause => ?_
  case refine_2 => cases hcause
  have hplaced : ((g.vendor.arrive (.submitOrder order)).1.placeOrder order).2 = receipt :=
    Except.ok.inj hreceipt
  rw [hplaced] at awaiting
  simp only [Procedure.assures_liftM, Workflow.notify, Workflow.Assures]
  refine (assures_awaitDiscovery_alone awaiting).mono ?_ ?_
  · intro found g' hfound
    obtain ⟨hattempts, hresource, holding⟩ := hfound
    have outcome : g.vendor.creationOutcome config.polling order = _ :=
      if_neg (Nat.not_lt_of_le hattempts)
    rw [outcome, hresource]
    refine (assures_finishCreation_alone holding ?_ rfl).mono (fun _ _ h => h) fun _ _ h => h
    unfold Simulator.firstScript
    split
    · rename_i script hscript
      exact expects.provisions script hscript
    · rfl
  · intro cause g' hstopped
    obtain ⟨hlate, hcause⟩ := hstopped
    have outcome : g.vendor.creationOutcome config.polling order = _ := if_pos hlate
    rw [outcome, hcause, ← hplaced, Simulator.placeOrder_snd]

/-- A creation that has the simulated vendor to itself ends as the vendor, the
order and the bounds of the stages say, when the catalog brings a package that
the request can be ordered from.  The attempts that a stage allows are
`StagePolicy.attempts`, over pauses of 64 bits if `StagePolicy.PausesFit` is true of its
policy. -/
theorem create_eq_creationOutcome {session : Session} {wanted : CreateRequest}
    {package : ProductPackage} {order : Order} (catalog : session.catalog.1 = .ok package)
    (ordered : orderFor session.provisioner.config package wanted = .ok order)
    (expects : session.simulator.Expects wanted.hostname) :
    (session.perform (session.provisioner.create wanted)).1 =
      session.simulator.creationOutcome session.provisioner.config.polling order := by
  obtain ⟨-, calls, catalogFaults, browsed⟩ := session.catalog_snd
  rw [← hostname_of_orderFor ordered] at expects
  have expects' : session.catalog.2.run.vendor.Expects order.resource.hostname :=
    expects.congr browsed
  have outcome : session.catalog.2.run.vendor.creationOutcome
      session.provisioner.config.polling order =
        session.simulator.creationOutcome session.provisioner.config.polling order := by
    rw [show session.catalog.2.run.vendor = _ from browsed]
    rfl
  have performed : (session.perform (session.provisioner.create wanted)).1 =
      ((createFrom session.provisioner.config package wanted).run.run Simulator.asVendor
        session.catalog.2.run).1 := by
    unfold Session.perform
    simp only [Provisioner.create, Session.runWorkflow, catalog]
    rfl
  have ended := Workflow.Assures.run_alone session.catalog.2.run
    (assures_createFrom_alone (g := ⟨session.catalog.2.run.now, session.catalog.2.run.vendor⟩)
      ordered expects')
  rw [performed, ← outcome]
  generalize ((createFrom session.provisioner.config package wanted).run.run Simulator.asVendor
    session.catalog.2.run) = reached at ended ⊢
  obtain ⟨result, run⟩ := reached
  cases result with
  | ok node => exact ended.symm
  | error cause => exact ended.symm

/-- A server whose order is approved at its third check and listed at the next
listing, the last attempt that the policy allows. -/
theorem create_eq_creationOutcome_at_last_attempt :
    let policy : StagePolicy := ⟨3, 1, 2⟩
    let polling : PollingConfig :=
      { orderApproved := policy, transactionsStarted := policy, transactionsEnded := policy }
    let vendor : Simulator :=
      { Simulator.withDemoCatalog .bareMetal with approvalDelay := 2, discoveryDelay := 1 }
    let session : Session :=
      { provisioner := ⟨{ polling := polling }, by decide⟩, run := { vendor := vendor } }
    let wanted : CreateRequest := ⟨"db01", none, "dal05", "17438", "1921,1267"⟩
    let order : Order :=
      { packageId := 50
        location := "dal05"
        prices := [17438, 1921, 1267, 21, 55, 57, 58, 1800, 905, 418, 420]
        quantity := 1
        useHourlyPricing := true
        resource := ⟨"db01", "example.com"⟩ }
    (session.perform (session.provisioner.create wanted)).1 =
      .ok (provisionedNode .bareMetal (vendor.orderedResource order ⟨1⟩)) := by
  intro policy polling vendor session wanted order
  have ordered : orderFor session.provisioner.config (Demo.catalog .bareMetal) wanted =
      .ok order := by
    decide +kernel
  have outcome : _ = session.simulator.creationOutcome session.provisioner.config.polling order :=
    create_eq_creationOutcome rfl ordered
    ⟨fun _ h => absurd h List.not_mem_nil, fun _ h => absurd h List.not_mem_nil,
      .inr fun _ h => absurd h List.not_mem_nil, fun _ h => (by cases h), by decide, by decide,
      fun _ => by decide⟩
  have four : policy.attempts = 4 := by decide +kernel
  rw [outcome]
  unfold Simulator.creationOutcome
  rw [show session.provisioner.config.polling.orderApproved.attempts = 4 from four,
    if_neg (by decide)]
  unfold cycleOutcome
  have first : (session.simulator.firstScript
      (session.simulator.givenId order.resource.hostname)).entries.findIdx? (·.isSome) =
        some 0 := rfl
  rw [first]
  dsimp only
  rw [show session.provisioner.config.polling.transactionsStarted.attempts = 4 from four]
  rfl

end Provisioning
