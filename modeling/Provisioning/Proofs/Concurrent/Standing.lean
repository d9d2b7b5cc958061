import Provisioning.Proofs.Concurrent.Pool

/-!
# Where a task stands

`Stands` relates a task of a pool to what it owns.  The vendor holds for the
owned resource what the looks of the task have made of it, the task has been
shown what these looks show, and what is left of its workflow assures the rest.

A call of the task itself leads from one such state to the next
(`Stands.submit` for an order, `Stands.ask` for all other calls), and a call
that leaves the holding of the owned resource alone changes nothing
(`Stands.of_holding`).
-/

namespace Provisioning

/-! ## Feeds of errands -/

namespace Errand

/-- The entries of the feed that the vendor puts in place for an errand. -/
def newEntries (number : Nat) : Errand → List (Option Transaction)
  | create _ _ => (Script.provisioning number).entries
  | destroy _ _ => (Script.decommission number).entries
  | list _ => []

/-- The entries of the feed that an errand is shown: the feed that the vendor
has in place for the resource, or else a new one. -/
def entries (errand : Errand) (s : Simulator) (id : ResourceId) (number : Nat) :
    List (Option Transaction) :=
  match s.scripts.find? id with
  | some script => script.entries
  | none => errand.newEntries number

/-- With this holding the cycle of an errand's resource begins.  A destruction
has not changed it before the cancellation. -/
def Begins (errand : Errand) (s : Simulator) (id : ResourceId) (base : Holding) : Prop :=
  match errand with
  | create _ wanted => ∃ resource number,
      resource.badge = ⟨id, wanted.hostname, some (id.value * 10 + 1)⟩ ∧
      resource.operatingSystem = none ∧
      base = ⟨s.kind, s.withholdPasswords, some resource,
        some ((s.scripts.find? id).getD (.provisioning number))⟩
  | destroy _ _ => base = s.holding id ∨ ∃ number, base = (s.holding id).cancelled number
  | list _ => False

theorem Begins.entries {errand : Errand} {s : Simulator} {id : ResourceId} {base : Holding}
    {script : Script} (begins : errand.Begins s id base) (hscript : base.script = some script) :
    ∃ number, script.entries = errand.entries s id number := by
  unfold Errand.entries
  cases errand with
  | create provisioner wanted =>
    obtain ⟨resource, number, -, -, rfl⟩ := begins
    cases hscript
    refine ⟨number, ?_⟩
    cases s.scripts.find? id <;> rfl
  | destroy provisioner id' =>
    rcases begins with rfl | ⟨number, rfl⟩
    · refine ⟨0, ?_⟩
      rw [show s.scripts.find? id = some script from hscript]
    · refine ⟨number, ?_⟩
      cases hscript
      unfold Simulator.holding
      cases s.scripts.find? id <;> rfl
  | list provisioner => exact begins.elim

/-- Unless it was ordered, the resource was there at the beginning. -/
theorem Begins.badge {errand : Errand} {s : Simulator} {id : ResourceId} {base : Holding}
    {r : Resource} {item : Nat} (begins : errand.Begins s id base)
    (nameless : errand.hostname? = none) (held : base.resource = some r)
    (billed : r.billingItemId = some item) :
    ∃ badge ∈ s.badges, badge.billingItemId = some item ∧ badge.id = id := by
  cases errand with
  | create provisioner wanted => cases nameless
  | list provisioner => exact begins.elim
  | destroy provisioner id' =>
    have found : ∃ before, s.find? id = some before ∧ before.badge = r.badge := by
      rcases begins with rfl | ⟨number, rfl⟩
      · exact ⟨r, held, rfl⟩
      · obtain ⟨before, hbefore, hr⟩ := Option.map_eq_some_iff.mp held
        exact ⟨before, hbefore, by rw [← hr]; rfl⟩
    obtain ⟨before, hbefore, hbadge⟩ := found
    obtain ⟨hmem, hid⟩ := Simulator.badge_mem_of_find? hbefore
    refine ⟨before.badge, hmem, ?_, hid⟩
    rw [hbadge]
    exact billed

end Errand

/-! ## Standing -/

/-- What an owner has been shown. -/
def shownTo : Option Ownership → List (Option Transaction)
  | none => []
  | some o => o.base.shown o.looks

/-- Who owns a resource does not lose it. -/
theorem Call.KeepsTo.mono {start : Simulator} {own own' : Option ResourceId} {call : Call}
    (h : call.KeepsTo start own) (keeps : ∀ id, own = some id → own' = some id) :
    call.KeepsTo start own' := by
  cases call with
  | activeTransaction id => exact keeps id h
  | getResource id => exact keeps id h
  | cancelBillingItem item =>
    obtain ⟨badge, hbadge, hitem, own⟩ := h
    exact ⟨badge, hbadge, hitem, keeps badge.id own⟩
  | _ => exact h

/-- A task of a pool over a vendor that was `start` at the beginning stands where
its ownership says. -/
structure Stands (start vendor : Simulator) (task : Task) (g : Option Ownership) : Prop where
  own : task.own = g.map (·.id)
  holding : ∀ o, g = some o → vendor.holding o.id = o.holding
  begins : ∀ o, g = some o → task.errand.Begins start o.id o.base
  looked : ∀ o, g = some o → o.looks ≠ 0 → o.base.script.isSome = true
  feed : task.feed = shownTo g
  asks : ∀ exchange ∈ task.exchanges, exchange.call.KeepsTo start (g.map (·.id))
  left : task.left.Assures (.amid task.errand.hostname?) task.errand.Fulfilled g

section

variable {start vendor : Simulator} {task : Task} {g g' : Option Ownership} {call : Call}
  {next : call.Answer → Workflow ErrandResult} {now : Nat}

theorem stands_begin (start : Simulator) (errand : Errand) :
    Stands start start (.begin errand) (errand.stake start) := by
  have stake : ∀ o, errand.stake start = some o → o.looks = 0 ∧ o.base = start.holding o.id ∧
      errand.Begins start o.id o.base := by
    intro o ho
    cases errand with
    | destroy provisioner id =>
      cases ho
      exact ⟨rfl, rfl, .inl rfl⟩
    | create provisioner wanted => cases ho
    | list provisioner => cases ho
  refine ⟨?own, ?holding, fun o ho => (stake o ho).2.2, ?looked, ?feed,
    fun _ h => absurd h List.not_mem_nil, errand.assures start⟩
  case own => cases errand <;> rfl
  case holding =>
    intro o ho
    obtain ⟨hlooks, hbase, -⟩ := stake o ho
    unfold Ownership.holding
    rw [hlooks, hbase]
    rfl
  case looked => exact fun o ho hlooks => absurd (stake o ho).1 hlooks
  case feed => cases errand <;> rfl

/-- Nothing else counts than the holding of the own resource. -/
theorem Stands.of_holding {vendor' : Simulator} (stands : Stands start vendor task g)
    (same : ∀ id, task.own = some id → vendor'.holding id = vendor.holding id) :
    Stands start vendor' task g := by
  refine { stands with holding := fun o ho => ?_ }
  rw [same o.id (by rw [stands.own, ho]; rfl)]
  exact stands.holding o ho

/-- What is left to do may change while nothing is asked. -/
theorem Stands.of_left {left : Job ErrandResult} (stands : Stands start vendor task g)
    (wakesAt : Nat)
    (assures : left.Assures (.amid task.errand.hostname?) task.errand.Fulfilled g) :
    Stands start vendor { task with left := left, wakesAt := wakesAt } g :=
  { stands with left := assures }

theorem Task.own_asked (task : Task) (gives : vendor.gives call = none) :
    (task.asked now vendor call next).own = task.own := by
  have same : (task.asked now vendor call next).given = task.given := by
    show task.given.or _ = _
    rw [gives, Option.or_none]
  unfold own
  rw [same]
  rfl

theorem Task.feed_asked (task : Task) :
    (task.asked now vendor call next).feed =
      task.feed ++ (Exchange.shown? ⟨now, call, (vendor.call call).2⟩).toList := by
  unfold feed asked
  rw [List.filterMap_append]
  cases hshown : Exchange.shown? ⟨now, call, (vendor.call call).2⟩ <;>
    simp [hshown]

/-- After a call a task stands where the answer has led it. -/
theorem Stands.asked (stands : Stands start vendor task g)
    (hleft : task.left = .plain (.ask call next))
    (answered : (Surroundings.amid task.errand.hostname?).Answers g call (vendor.call call).2 g')
    (own : (task.asked now vendor call next).own = g'.map (·.id))
    (holding : ∀ o, g' = some o → (vendor.call call).1.holding o.id = o.holding)
    (begins : ∀ o, g' = some o → task.errand.Begins start o.id o.base)
    (looked : ∀ o, g' = some o → o.looks ≠ 0 → o.base.script.isSome = true)
    (shown : shownTo g' =
      shownTo g ++ (Exchange.shown? ⟨now, call, (vendor.call call).2⟩).toList)
    (keeps : ∀ id, g.map (·.id) = some id → g'.map (·.id) = some id)
    (asks : call.KeepsTo start (g'.map (·.id))) :
    Stands start (vendor.call call).1 (task.asked now vendor call next) g' := by
  refine ⟨own, holding, begins, looked, ?feed, ?asks, ?left⟩
  case feed => rw [task.feed_asked, shown, stands.feed]
  case asks =>
    intro exchange hexchange
    rcases List.mem_append.mp hexchange with hexchange | hexchange
    · exact (stands.asks exchange hexchange).mono keeps
    · rw [List.mem_singleton.mp hexchange]
      exact asks
  case left =>
    have assures := stands.left
    rw [hleft] at assures
    exact assures.2 _ g' answered

/-- What a task that is about to call the vendor may call. -/
theorem Stands.allowed (stands : Stands start vendor task g)
    (hleft : task.left = .plain (.ask call next)) :
    (Surroundings.amid task.errand.hostname?).Allows g call := by
  have assures := stands.left
  rw [hleft] at assures
  exact assures.1

/-! ## Calls of a task -/

/-- Only a creation that has not ordered yet orders. -/
theorem Stands.creates {order : Order} (stands : Stands start vendor task g)
    {next : (Call.submitOrder order).Answer → Workflow ErrandResult}
    (hleft : task.left = .plain (.ask (.submitOrder order) next)) :
    g = none ∧ task.given = none ∧ ∃ provisioner wanted,
      task.errand = .create provisioner wanted ∧ wanted.hostname = order.resource.hostname := by
  obtain ⟨hnone, hname⟩ := stands.allowed hleft
  have own := stands.own
  rw [hnone] at own
  unfold Task.own at own
  cases herrand : task.errand with
  | create provisioner wanted =>
    rw [herrand] at own hname
    exact ⟨hnone, own, provisioner, wanted, rfl, Option.some.inj hname⟩
  | destroy provisioner id =>
    rw [herrand] at hname
    cases hname
  | list provisioner =>
    rw [herrand] at hname
    cases hname

/-- An order under a new id, of which nobody has changed what the vendor held
for it. -/
theorem Stands.submit {order : Order} (stands : Stands start vendor task g)
    {next : (Call.submitOrder order).Answer → Workflow ErrandResult}
    (hleft : task.left = .plain (.ask (.submitOrder order) next))
    (fresh : vendor.find? (vendor.givenId order.resource.hostname) = none)
    (untouched : vendor.holding (vendor.givenId order.resource.hostname) =
      start.holding (vendor.givenId order.resource.hostname)) :
    ∃ g', Stands start (vendor.call (.submitOrder order)).1
      (task.asked now vendor (.submitOrder order) next) g' := by
  obtain ⟨hnone, hgiven, provisioner, wanted, herrand, hname⟩ := stands.creates hleft
  obtain ⟨id, hid⟩ : ∃ id, id = vendor.givenId order.resource.hostname := ⟨_, rfl⟩
  rw [← hid] at fresh untouched
  obtain ⟨resource, hresource⟩ : ∃ resource, resource = vendor.orderedResource order id := ⟨_, rfl⟩
  have hfirst : vendor.firstScript id =
      (start.scripts.find? id).getD (.provisioning vendor.nextTransactionId) := by
    have hscript : vendor.scripts.find? id = start.scripts.find? id :=
      congrArg Holding.script untouched
    unfold Simulator.firstScript
    rw [hscript]
    cases start.scripts.find? id <;> rfl
  have held := Simulator.holding_call_submitOrder_self (hid ▸ fresh)
  have replied := vendor.call_submitOrder order
  rw [← hid, ← hresource] at held replied
  let base : Holding :=
    ⟨vendor.kind, vendor.withholdPasswords, some resource, some (vendor.firstScript id)⟩
  refine ⟨some ⟨id, base, 0⟩,
    stands.asked hleft ?answered ?own ?holding ?begins ?looked ?shown ?keeps trivial⟩
  case answered =>
    refine ⟨_, _, replied, rfl, rfl, rfl, ?_, rfl, ?_⟩
    · intro r hr
      cases hr
      refine ⟨by rw [hresource]; rfl, by rw [hresource]; rfl, fun login hlogin => ?_⟩
      rw [hresource] at hlogin
      cases hlogin
    · intro r hr
      cases hecho : vendor.echoReceipts with
      | false =>
        rw [hecho] at hr
        cases hr
      | true =>
        rw [hecho] at hr
        cases hr
        rw [hresource]
        rfl
  case own =>
    unfold Task.own
    rw [show (task.asked now vendor (.submitOrder order) next).errand = _ from herrand]
    show task.given.or (some (vendor.givenId order.resource.hostname)) = some id
    rw [hgiven, hid]
    rfl
  case holding =>
    intro o ho
    cases ho
    exact held
  case begins =>
    intro o ho
    cases ho
    rw [herrand]
    refine ⟨resource, vendor.nextTransactionId, by rw [hresource, hname]; rfl,
      by rw [hresource]; rfl, ?_⟩
    have hkind : vendor.kind = start.kind := congrArg Holding.kind untouched
    have hwithhold : vendor.withholdPasswords = start.withholdPasswords :=
      congrArg Holding.withholdPasswords untouched
    show base = _
    rw [← hkind, ← hwithhold, ← hfirst]
  case looked =>
    intro o ho hlooks
    cases ho
    exact absurd rfl hlooks
  case shown =>
    rw [hnone, replied]
    rfl
  case keeps =>
    intro id' hid'
    rw [hnone] at hid'
    cases hid'

/-- A call that leaves all holdings alone. -/
theorem Stands.quiet (stands : Stands start vendor task g)
    (hleft : task.left = .plain (.ask call next)) (gives : vendor.gives call = none)
    (same : ∀ id, (vendor.call call).1.holding id = vendor.holding id)
    (answered : (Surroundings.amid task.errand.hostname?).Answers g call (vendor.call call).2 g)
    (unseen : Exchange.shown? ⟨now, call, (vendor.call call).2⟩ = none)
    (asks : call.KeepsTo start task.own) :
    Stands start (vendor.call call).1 (task.asked now vendor call next) g := by
  refine stands.asked hleft answered ?own ?holding stands.begins stands.looked ?shown
    (fun _ h => h) ?asks
  case own => rw [task.own_asked gives, stands.own]
  case holding =>
    intro o ho
    rw [same]
    exact stands.holding o ho
  case shown => rw [unseen, Option.toList_none, List.append_nil]
  case asks =>
    rw [← stands.own]
    exact asks

/-- A look at the own feed. -/
theorem Stands.look {o : Ownership} (stands : Stands start vendor task (some o))
    {next : (Call.activeTransaction o.id).Answer → Workflow ErrandResult}
    (hleft : task.left = .plain (.ask (.activeTransaction o.id) next))
    (feeds : o.base.script.isSome = true) :
    Stands start (vendor.call (.activeTransaction o.id)).1
      (task.asked now vendor (.activeTransaction o.id) next)
      (some { o with looks := o.looks + 1 }) := by
  have held := stands.holding o rfl
  have replied := vendor.call_activeTransaction o.id
  rw [held] at replied
  refine stands.asked hleft ⟨o, rfl, replied, rfl⟩ ?own ?holding ?begins ?looked ?shown
    (fun _ h => h) rfl
  case own =>
    rw [task.own_asked rfl, stands.own]
    rfl
  case holding =>
    intro o' ho'
    cases ho'
    show _ = (o.base.after o.looks).look.1
    rw [vendor.holding_call_activeTransaction, held]
    rfl
  case begins =>
    intro o' ho'
    cases ho'
    exact stands.begins o rfl
  case looked =>
    intro o' ho' _
    cases ho'
    exact feeds
  case shown =>
    rw [replied]
    exact o.base.shown_succ o.looks

/-- The cancellation of the own billing item, before the first look. -/
theorem Stands.cancel {o : Ownership} {r : Resource} {item : Nat} (tidy : vendor.Tidy)
    (stands : Stands start vendor task (some o))
    {next : (Call.cancelBillingItem item).Answer → Workflow ErrandResult}
    (hleft : task.left = .plain (.ask (.cancelBillingItem item) next))
    (nameless : task.errand.hostname? = none) (hlooks : o.looks = 0)
    (found : vendor.find? o.id = some r) (billed : r.billingItemId = some item) :
    ∃ number, Stands start (vendor.call (.cancelBillingItem item)).1
      (task.asked now vendor (.cancelBillingItem item) next)
      (some { o with base := o.base.cancelled number }) := by
  have held := vendor.holding_call_cancel_self tidy found billed
  have replied := vendor.call_cancel tidy found billed
  have base : vendor.holding o.id = o.base := by
    rw [stands.holding o rfl]
    unfold Ownership.holding
    rw [hlooks]
    rfl
  refine ⟨_, stands.asked hleft ⟨replied, o, vendor.nextTransactionId, rfl, rfl⟩ ?own ?holding
    ?begins ?looked ?shown (fun _ h => h) ?asks⟩
  case own =>
    rw [task.own_asked rfl, stands.own]
    rfl
  case holding =>
    intro o' ho'
    cases ho'
    unfold Ownership.holding
    rw [held, base, hlooks]
    rfl
  case begins =>
    intro o' ho'
    cases ho'
    have begins := stands.begins o rfl
    cases herrand : task.errand with
    | create provisioner wanted =>
      rw [herrand] at nameless
      cases nameless
    | list provisioner =>
      rw [herrand] at begins
      exact begins.elim
    | destroy provisioner id =>
      rw [herrand] at begins
      rcases begins with hbase | ⟨number, hbase⟩
      · exact .inr ⟨_, congrArg (·.cancelled vendor.nextTransactionId) hbase⟩
      · refine .inr ⟨number, ?_⟩
        show o.base.cancelled vendor.nextTransactionId = _
        rw [hbase, Holding.cancelled_cancelled]
  case looked =>
    intro o' ho' hlooks'
    cases ho'
    exact absurd hlooks hlooks'
  case shown =>
    unfold shownTo
    dsimp only
    rw [hlooks, replied]
    rfl
  case asks =>
    have held : o.base.resource = some r := by
      rw [← base]
      exact found
    obtain ⟨badge, hbadge, hitem, hid⟩ := (stands.begins o rfl).badge nameless held billed
    exact ⟨badge, hbadge, hitem, congrArg some hid.symm⟩

/-- A call that is no order concerns the own resource and no other. -/
theorem Stands.ask (stands : Stands start vendor task g) (tidy : vendor.Tidy)
    (hleft : task.left = .plain (.ask call next)) (submits : call.operation ≠ .submitOrder)
    (named : ∀ id, task.own = some id → ∀ badge ∈ vendor.badges,
      task.errand.hostname? = some badge.hostname → badge.id = id) :
    (∃ g', Stands start (vendor.call call).1 (task.asked now vendor call next) g') ∧
      ∀ other, task.own ≠ some other →
        (vendor.call call).1.holding other = vendor.holding other := by
  have allowed := stands.allowed hleft
  cases call with
  | submitOrder order => exact absurd rfl submits
  | billingOrder orderId =>
    have same := fun id => vendor.holding_call_billingOrder id orderId
    exact ⟨⟨g, stands.quiet hleft rfl same rfl rfl trivial⟩, fun other _ => same other⟩
  | listResources =>
    have same := fun id => vendor.holding_call_listResources id
    refine ⟨⟨g, stands.quiet hleft rfl same ⟨rfl, _, rfl, ?_⟩ rfl trivial⟩,
      fun other _ => same other⟩
    intro o ho r hr hname
    exact named o.id (by rw [stands.own, ho]; rfl) r.badge (Simulator.badge_mem_of_listed hr) hname
  | getResource id =>
    obtain ⟨o, ho, hid⟩ := allowed
    have same := vendor.holding_call_getResource id
    have own : task.own = some id := by
      rw [stands.own, ho, ← hid]
      rfl
    refine ⟨⟨g, stands.quiet hleft rfl same ⟨rfl, o, ho, ?_⟩ rfl own⟩, fun other _ => same other⟩
    rw [vendor.call_getResource, ← hid, stands.holding o ho]
  | activeTransaction id =>
    obtain ⟨o, ho, hid, feeds⟩ := allowed
    subst hid
    rw [ho] at stands
    refine ⟨⟨_, stands.look hleft feeds⟩, fun other hother => ?_⟩
    refine vendor.holding_call_activeTransaction_of_ne fun heq => hother ?_
    rw [stands.own, heq]
    rfl
  | cancelBillingItem item =>
    obtain ⟨nameless, o, r, ho, hlooks, hresource, billed⟩ := allowed
    rw [ho] at stands
    have found : vendor.find? o.id = some r := by
      have held := stands.holding o rfl
      unfold Ownership.holding at held
      rw [hlooks] at held
      rw [← hresource]
      exact congrArg Holding.resource held
    obtain ⟨number, stands'⟩ := stands.cancel tidy hleft nameless hlooks found billed
    refine ⟨⟨_, stands'⟩, fun other hother => ?_⟩
    refine vendor.holding_call_cancel_of_ne tidy found billed fun heq => hother ?_
    rw [stands.own, heq]
    rfl
  | activePackageByName name => exact allowed.elim
  | packageDetail packageId => exact allowed.elim
  | reboot id => exact allowed.elim
  | pause id => exact allowed.elim
  | resume id => exact allowed.elim

end

end Provisioning
