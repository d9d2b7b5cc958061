import Provisioning.Proofs.Creation.Stages
import Provisioning.Proofs.Text.Numeral
import Provisioning.Proofs.Vendor.Badges

/-!
# Ids as text

The id of a resource is printed when a node is created, and typed when it is asked for
again.  What is printed is read back, whatever blanks are typed around it
(`ResourceId.parse_toString`), and more can be read than is printed: a sign, leading zeros
(`ResourceId.parse_eq_ok_iff`).  What cannot be read is reported as it was typed
(`ResourceId.parse_eq_error_iff`).

The id that a created node goes by is the printed id of the resource that was listed for its
order (`exists_log_of_created`).  The resource of the node was fetched by that id, so it has
that id too if the vendor fetches by id (`id_of_created`).
-/

namespace Provisioning

/-! ## Reading -/

namespace ResourceId

theorem parse?_eq_some_iff {text : String} {id : ResourceId} :
    parse? text = some id ↔
      Text.Numeral (Text.trimmed text.toList) id.value ∧ id.value < Text.wordBound := by
  rw [parse?, Option.map_eq_some_iff]
  constructor
  · intro h
    obtain ⟨n, hn, rfl⟩ := h
    exact Text.numeral?_eq_some_iff.mp hn
  · intro h
    exact ⟨id.value, Text.numeral?_eq_some_iff.mpr h, rfl⟩

/-- A text is read as an id if it is a numeral of the id, with blanks around it. -/
theorem parse_eq_ok_iff {text : String} {id : ResourceId} :
    parse text = .ok id ↔
      Text.Numeral (Text.trimmed text.toList) id.value ∧ id.value < Text.wordBound := by
  rw [← parse?_eq_some_iff, parse]
  cases parse? text <;> simp

theorem parse?_eq_none_iff {text : String} :
    parse? text = none ↔ ∀ n < Text.wordBound, ¬Text.Numeral (Text.trimmed text.toList) n := by
  rw [Option.eq_none_iff_forall_ne_some]
  constructor
  · intro h n hn numeral
    exact h ⟨n⟩ (parse?_eq_some_iff.mpr ⟨numeral, hn⟩)
  · intro h id hid
    obtain ⟨numeral, fits⟩ := parse?_eq_some_iff.mp hid
    exact h id.value fits numeral

/-- And otherwise it is itself the cause of the failure. -/
theorem parse_eq_error_iff {text : String} {cause : Error} :
    parse text = .error cause ↔ cause = .invalidId text ∧
      ∀ n < Text.wordBound, ¬Text.Numeral (Text.trimmed text.toList) n := by
  rw [← parse?_eq_none_iff, parse]
  cases parse? text with
  | none => simp [eq_comm]
  | some id => simp

example : parse " +0042\n" = .ok ⟨42⟩ := rfl

/-- An id that is printed is read back. -/
theorem parse_toString {id : ResourceId} {before after : String} (fits : id.value < Text.wordBound)
    (hbefore : Text.isBlankText before = true) (hafter : Text.isBlankText after = true) :
    parse (before ++ toString id ++ after) = .ok id := by
  have numeral : Text.Numeral (toString id).toList id.value := Text.numeral_toString id.value
  rw [parse_eq_ok_iff, String.toList_append, String.toList_append,
    Text.trimmed_append (List.all_eq_true.mp hbefore) numeral.visible (List.all_eq_true.mp hafter)]
  exact ⟨numeral, fits⟩

end ResourceId

/-! ## The id of a created node -/

section Creation

variable {α σ : Type} {v : Vendor σ}

/-- A creation that succeeds submitted the order of its request, and then its calls are those
of a log that supports its node. -/
theorem exists_log_of_created {p : Provisioner} {wanted : CreateRequest}
    {catalog : RefreshOutcome} {start ended : Run σ} {node : CreatedNode}
    (created : ((p.create wanted).after catalog).run v start = (.ok node, ended)) :
    ∃ (order : Order) (log : CreationLog),
      (catalog.bind fun package => orderFor p.config package wanted) = .ok order ∧
      ended.exchanges =
        start.exchanges ++ ⟨start.now, .submitOrder order, .ok log.receipt⟩ :: log.exchanges ∧
      log.Supports node := by
  cases catalog with
  | error cause => cases created
  | ok package =>
    have seen := Workflow.Assures.run_anyVendor v start
      (assures_createFrom p.config package wanted start.journal)
    have hrun : (createFrom p.config package wanted).run.run v start = (.ok node, ended) := created
    rw [hrun] at seen
    show ∃ (order : Order) (log : CreationLog), orderFor p.config package wanted = .ok order ∧ _
    cases hordered : orderFor p.config package wanted with
    | error cause =>
      rw [hordered] at seen
      cases seen.1
    | ok order =>
      rw [hordered] at seen
      rcases seen with ⟨cause, hfailed, -⟩ | ⟨log, follows, heq⟩
      · cases hfailed
      · exact ⟨order, log, rfl, heq, follows.success node rfl⟩

/-- The vendor brings the resource of the id that it is asked for. -/
def Vendor.FetchesById (v : Vendor σ) : Prop :=
  ∀ state time id r, (v.respond state time (.getResource id)).2.2 = .ok (some r) → r.id = id

/-- A resource that was fetched has the id that it was fetched by. -/
def Exchange.FetchedById (x : Exchange) : Prop :=
  ∀ time id r, x = ⟨time, .getResource id, .ok (some r)⟩ → r.id = id

theorem Vendor.FetchesById.fetchedById (byId : v.FetchesById) (state : σ) (time : Nat)
    (call : Call) : Exchange.FetchedById ⟨time, call, (v.respond state time call).2.2⟩ := by
  intro time' id r heq
  simp only [Exchange.mk.injEq] at heq
  obtain ⟨-, rfl, hanswer⟩ := heq
  exact byId state time id r (eq_of_heq hanswer)

theorem Simulator.fetchesById_asVendor : Simulator.asVendor.FetchesById := by
  intro s time id r hanswer
  have hfind : (s.arrive (.getResource id)).1.find? id = some r := Except.ok.inj hanswer
  exact (badge_mem_of_find? hfind).2

/-- The resource of a created node was fetched by the id that was found. -/
theorem CreationLog.Supports.mem_exchanges {log : CreationLog} {node : CreatedNode}
    (h : log.Supports node) :
    ∃ time, ⟨time, .getResource log.found.id, .ok (some node.resource)⟩ ∈ log.exchanges := by
  obtain ⟨time, hfetched⟩ := h.returned
  refine ⟨time, ?_⟩
  rw [exchanges, refetches, hfetched]
  simp

/-- A vendor that fetches by id brings the created resource under the id that was found. -/
theorem id_of_created {w : Workflow α} {start : Run σ} {log : CreationLog} {node : CreatedNode}
    {submitted : Exchange}
    (calls : (w.run v start).2.exchanges = start.exchanges ++ submitted :: log.exchanges)
    (supports : log.Supports node) (byId : v.FetchesById) : node.resource.id = log.found.id := by
  obtain ⟨made, hmade, hall⟩ := Workflow.exists_exchanges_run v byId.fetchedById w start
  obtain ⟨time, hfetched⟩ := supports.mem_exchanges
  -- the creation made the calls of its log and no others, so the fetch is one of them
  have heq : made = submitted :: log.exchanges := List.append_cancel_left (hmade.symm.trans calls)
  have hmem : ⟨time, .getResource log.found.id, .ok (some node.resource)⟩ ∈ made := by
    rw [heq]
    exact List.mem_cons_of_mem _ hfetched
  exact hall _ hmem time log.found.id node.resource rfl

end Creation

/-- Ids survive printing and reading.  A printed id is read back, with any blanks around it.
The texts that are read as an id are just the numerals of the id that fit in 64 bits, and
every other text is refused and is itself the cause.  The id that a created node goes by is
read as the id of the resource that was listed for its order, and by this id the resource of
the node was fetched. -/
theorem printed_ids_are_read_back :
    (∀ (id : ResourceId) (before after : String), id.value < Text.wordBound →
      Text.isBlankText before = true → Text.isBlankText after = true →
      ResourceId.parse (before ++ toString id ++ after) = .ok id) ∧
    (∀ {σ : Type} (v : Vendor σ) (start : Run σ) (p : Provisioner) (wanted : CreateRequest)
      (catalog : RefreshOutcome) (node : CreatedNode),
      let (result, ended) := ((p.create wanted).after catalog).run v start
      result = .ok node → ∃ (order : Order) (log : CreationLog),
        (catalog.bind fun package => orderFor p.config package wanted) = .ok order ∧
        ended.exchanges =
          start.exchanges ++ ⟨start.now, .submitOrder order, .ok log.receipt⟩ :: log.exchanges ∧
        log.Supports node ∧
        (log.found.id.value < Text.wordBound → ResourceId.parse node.nodeId = .ok log.found.id) ∧
        (v.FetchesById → node.resource.id = log.found.id)) ∧
    (∀ (text : String) (id : ResourceId), ResourceId.parse text = .ok id ↔
      Text.Numeral (Text.trimmed text.toList) id.value ∧ id.value < Text.wordBound) ∧
    (∀ (text : String) (cause : Error), ResourceId.parse text = .error cause ↔
      cause = .invalidId text ∧
        ∀ n < Text.wordBound, ¬Text.Numeral (Text.trimmed text.toList) n) := by
  refine ⟨fun id before after => ResourceId.parse_toString, ?_,
    fun text id => ResourceId.parse_eq_ok_iff, fun text cause => ResourceId.parse_eq_error_iff⟩
  intro σ v start p wanted catalog node
  dsimp only
  intro hresult
  obtain ⟨order, log, ordered, calls, supports⟩ :=
    exists_log_of_created (v := v) (Prod.ext hresult rfl)
  refine ⟨order, log, ordered, calls, supports, ?_, id_of_created calls supports⟩
  intro fits
  have hnone : Text.isBlankText "" = true := rfl
  have hread := ResourceId.parse_toString fits hnone hnone
  rwa [String.empty_append, String.append_empty, ← supports.nodeId] at hread

/-- The greatest id that there is, and a server that is given its id by the vendor. -/
theorem printed_ids_are_read_back_for_server :
    let greatest : ResourceId := ⟨Text.wordBound - 1⟩
    let vendor : Simulator := { Simulator.withDemoCatalog .bareMetal with nextResourceId := 4711 }
    let p : Provisioner := ⟨{}, by decide⟩
    let wanted : CreateRequest := ⟨"db01", none, "dal05", "17438", "1921,1267"⟩
    let result := (((p.create wanted).after (.ok (Demo.catalog .bareMetal))).run
      Simulator.asVendor { vendor := vendor }).1
    ResourceId.parse ("\t" ++ toString greatest ++ " \n") = .ok greatest ∧
      ∃ node, result = .ok node ∧ node.resource.id = ⟨4711⟩ ∧
        ResourceId.parse node.nodeId = .ok ⟨4711⟩ := by
  intro greatest vendor p wanted result
  obtain ⟨printed, created, -⟩ := printed_ids_are_read_back
  refine ⟨printed greatest "\t" " \n" (by decide) (by decide) (by decide), ?_⟩
  have hid : result.toOption.map (·.resource.id) = some ⟨4711⟩ := by
    decide +kernel
  cases hresult : result with
  | error cause =>
    rw [hresult] at hid
    cases hid
  | ok node =>
    rw [hresult] at hid
    have hgiven : node.resource.id = ⟨4711⟩ := Option.some.inj hid
    obtain ⟨order, log, -, -, -, read, same⟩ :=
      created Simulator.asVendor { vendor := vendor } p wanted (.ok (Demo.catalog .bareMetal)) node
        hresult
    have hfound : log.found.id = ⟨4711⟩ := by
      rw [← same Simulator.fetchesById_asVendor, hgiven]
    rw [hfound] at read
    exact ⟨node, rfl, hgiven, read (by decide)⟩

end Provisioning
