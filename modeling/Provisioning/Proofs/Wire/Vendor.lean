import Mathlib.Tactic.MkIffOfInductiveProp
import Provisioning.Proofs.Json.Codec
import Provisioning.Proofs.Text.Numeral
import Provisioning.Wire.Simulator

/-!
# Saved vendors are kept

What a vendor holds is written and read back as it was: resources with their
places in the directory, orders with their approvals, scripts with every entry,
reservations, the catalog, the counters and the flags.  Two things are asked of
the numbers.  They `Fit`: the saved fields are numbers of 64 and of 32 bits.  And
the binary fractions, `Simulator.floats`, are finite and carried by their texts.
-/

namespace Provisioning

open Json (keeps_word keeps_half keeps_text keeps_truth keeps_float keeps_list keeps_nullable
  keeps_choice keeps_wrapped keeps_table keeps_required keeps_defaulted keeps_optional)

open Record (keeps_start)

/-! ## Resources -/

/-- The number fits into 64 bits. -/
def Datacenter.Fits (d : Datacenter) : Prop :=
  d.id < Text.wordBound
deriving Decidable

/-- The numbers fit into 64 bits. -/
@[mk_iff]
structure Resource.Fits (r : Resource) : Prop where
  id : r.id.value < Text.wordBound
  billingItem : ∀ item ∈ r.billingItemId, item < Text.wordBound
  datacenter : ∀ d ∈ r.datacenter, d.Fits

instance (r : Resource) : Decidable r.Fits :=
  decidable_of_iff _ (Resource.fits_iff r).symm

namespace Wire

theorem keeps_resourceId {id : ResourceId} (h : id.value < Text.wordBound) : resourceId.Keeps id :=
  keeps_wrapped rfl (keeps_word h)

theorem keeps_resourceKind (kind : ResourceKind) : resourceKind.Keeps kind := by
  cases kind <;> exact keeps_choice (by decide)

theorem keeps_password (p : Password) : password.Keeps p :=
  (keeps_start Password.mk p
    |>.field (by decide) (keeps_required (keeps_text _))
    |>.field (by decide) (keeps_required (keeps_text _))).codec

theorem keeps_operatingSystem (system : OperatingSystem) : operatingSystem.Keeps system :=
  (keeps_start OperatingSystem.mk system
    |>.field (by decide) (keeps_defaulted (keeps_list fun p _ => keeps_password p))).codec

theorem keeps_datacenter {d : Datacenter} (h : d.Fits) : datacenter.Keeps d :=
  (keeps_start Datacenter.mk d
    |>.field (by decide) (keeps_required (keeps_word h))
    |>.field (by decide) (keeps_required (keeps_text _))
    |>.field (by decide) (keeps_optional rfl fun name _ => keeps_text name)).codec

theorem keeps_resource {r : Resource} (h : r.Fits) : resource.Keeps r :=
  (keeps_start Resource.mk r
    |>.field (by decide) (keeps_required (keeps_resourceId h.id))
    |>.field (by decide) (keeps_required (keeps_text _))
    |>.field (by decide) (keeps_required (keeps_text _))
    |>.field (by decide) (keeps_optional rfl fun ip _ => keeps_text ip)
    |>.field (by decide) (keeps_optional rfl fun ip _ => keeps_text ip)
    |>.field (by decide)
      (keeps_optional rfl fun item hitem => keeps_word (h.billingItem item hitem))
    |>.field (by decide) (keeps_optional rfl fun system _ => keeps_operatingSystem system)
    |>.field (by decide) (keeps_optional rfl fun d hd => keeps_datacenter (h.datacenter d hd))
    |>.field (by decide) (keeps_optional rfl fun status _ => keeps_text status)).codec

end Wire

/-! ## The catalog -/

/-- The numbers fit into 64 bits. -/
@[mk_iff]
structure ProductItem.Fits (item : ProductItem) : Prop where
  id : item.id < Text.wordBound
  prices : ∀ price ∈ item.prices, price < Text.wordBound

instance (item : ProductItem) : Decidable item.Fits :=
  decidable_of_iff _ (ProductItem.fits_iff item).symm

/-- The numbers fit into 64 bits. -/
@[mk_iff]
structure ProductPackage.Fits (package : ProductPackage) : Prop where
  id : package.id < Text.wordBound
  items : ∀ item ∈ package.items, item.Fits
  datacenters : ∀ d ∈ package.datacenters, d.Fits

instance (package : ProductPackage) : Decidable package.Fits :=
  decidable_of_iff _ (ProductPackage.fits_iff package).symm

/-- The capacities of a package. -/
def ProductPackage.floats (package : ProductPackage) : List Float :=
  package.items.filterMap (·.capacity)

namespace Wire

theorem keeps_productItem {item : ProductItem} (h : item.Fits)
    (hcapacity : ∀ x ∈ item.capacity, Json.float.Keeps x) : productItem.Keeps item :=
  (keeps_start ProductItem.mk item
    |>.field (by decide) (keeps_required (keeps_word h.id))
    |>.field (by decide) (keeps_required (keeps_text _))
    |>.field (by decide) (keeps_optional rfl fun units _ => keeps_text units)
    |>.field (by decide) (keeps_optional rfl hcapacity)
    |>.field (by decide) (keeps_defaulted (keeps_list fun category _ => keeps_text category))
    |>.field (by decide)
      (keeps_defaulted (keeps_list fun price hprice => keeps_word (h.prices price hprice)))).codec

theorem keeps_productPackage {package : ProductPackage} (h : package.Fits)
    (hfloats : ∀ x ∈ package.floats, Json.float.Keeps x) : productPackage.Keeps package := by
  have hitems : ∀ item ∈ package.items, productItem.Keeps item := by
    intro item hitem
    refine keeps_productItem (h.items item hitem) ?_
    intro x hx
    exact hfloats x (List.mem_filterMap.mpr ⟨item, hitem, hx⟩)
  exact (keeps_start ProductPackage.mk package
    |>.field (by decide) (keeps_required (keeps_word h.id))
    |>.field (by decide) (keeps_required (keeps_text _))
    |>.field (by decide) (keeps_defaulted (keeps_list hitems))
    |>.field (by decide)
      (keeps_defaulted (keeps_list fun d hd => keeps_datacenter (h.datacenters d hd)))).codec

end Wire

/-! ## Scripts -/

/-- The numbers fit into 64 bits. -/
@[mk_iff]
structure Transaction.Fits (t : Transaction) : Prop where
  id : t.id < Text.wordBound
  elapsed : t.elapsedSeconds < Text.wordBound

instance (t : Transaction) : Decidable t.Fits :=
  decidable_of_iff _ (Transaction.fits_iff t).symm

/-- The average durations of the transactions to come. -/
def Script.floats (script : Script) : List Float :=
  script.entries.filterMap fun entry => entry.map (·.averageDuration)

namespace Wire

theorem keeps_cycleOutcome (outcome : CycleOutcome) : cycleOutcome.Keeps outcome := by
  cases outcome <;> exact keeps_choice (by decide)

theorem keeps_transaction {t : Transaction} (h : t.Fits)
    (hfloat : Json.float.Keeps t.averageDuration) : transaction.Keeps t :=
  (keeps_start Transaction.mk t
    |>.field (by decide) (keeps_required (keeps_word h.id))
    |>.field (by decide) (keeps_required (keeps_text _))
    |>.field (by decide) (keeps_required (keeps_word h.elapsed))
    |>.field (by decide) (keeps_required hfloat)).codec

/-- A script is kept with every entry, those that show nothing too. -/
theorem keeps_script {s : Script} (h : ∀ shown ∈ s.entries, ∀ t ∈ shown, t.Fits)
    (hfloats : ∀ x ∈ s.floats, Json.float.Keeps x) : script.Keeps s := by
  have hentries : ∀ shown ∈ s.entries, (Json.nullable transaction).Keeps shown := by
    intro shown hshown
    refine keeps_nullable rfl ?_
    intro t ht
    refine keeps_transaction (h shown hshown t ht) (hfloats _ ?_)
    exact List.mem_filterMap.mpr ⟨shown, hshown, congrArg _ ht⟩
  exact (keeps_start Script.mk s
    |>.field (by decide) (keeps_required (keeps_list hentries))
    |>.field (by decide) (keeps_required (keeps_cycleOutcome _))).codec

/-- The name of a script is read as the id of its resource. -/
theorem scriptKey?_spelled {id : ResourceId} (h : id.value < Text.wordBound) :
    scriptKey? (Json.Name.spelled ⟨toString id, false⟩) = some id := by
  have htext : toString id = toString id.value := rfl
  have hdigit : ∀ c ∈ (toString id.value).toList, c.isDigit = true :=
    fun _ => Text.isDigit_of_mem_toString
  have hplain : (toString id.value).toList.any Json.isEscaped = false := by
    rw [List.any_eq_false]
    intro c hc
    rw [Json.isEscaped_of_isDigit (hdigit c hc)]
    decide
  unfold scriptKey?
  simp only [Json.Name.spelled, htext, hplain]
  rw [if_neg (by decide)]
  split
  · rename_i heq
    exact absurd (hdigit '+' (heq ▸ List.mem_cons_self)) (by decide)
  · rename_i heq
    rw [Text.toList_toString] at heq
    exact absurd (Json.toDigits_eq_zero_cons heq) (by simp)
  · rw [Text.numeral?_toString h]
    rfl

end Wire

/-! ## The vendor -/

/-- The saved numbers fit into their fields: delays and counts into 32 bits, all
others into 64. -/
@[mk_iff]
structure Simulator.Fits (s : Simulator) : Prop where
  resources : ∀ held ∈ s.resources, held.resource.Fits ∧ held.hiddenFor < Text.halfBound
  orders : ∀ held ∈ s.orders, held.id < Text.wordBound ∧ held.pendingFor < Text.halfBound
  scripts : ∀ entry ∈ s.scripts, entry.1.value < Text.wordBound ∧
    ∀ shown ∈ entry.2.entries, ∀ t ∈ shown, t.Fits
  reservedIds : ∀ entry ∈ s.reservedIds, entry.2.value < Text.wordBound
  catalog : ∀ package ∈ s.catalog, package.Fits
  nextResourceId : s.nextResourceId < Text.wordBound
  nextOrderId : s.nextOrderId < Text.wordBound
  nextTransactionId : s.nextTransactionId < Text.wordBound
  discoveryDelay : s.discoveryDelay < Text.halfBound
  approvalDelay : s.approvalDelay < Text.halfBound

instance (s : Simulator) : Decidable s.Fits :=
  decidable_of_iff _ (Simulator.fits_iff s).symm

/-- A resource has one script, and a hostname one reservation. -/
structure Simulator.Keyed (s : Simulator) : Prop where
  scripts : s.scripts.Apart
  reservedIds : s.reservedIds.Apart

/-- The vendor as it comes back from its text, for a kind of resource: without the
pending faults, the latency of the catalog, the counts of calls and the submitted
orders. -/
def Simulator.reloaded (s : Simulator) (kind : ResourceKind) : Simulator :=
  { s with
    kind := kind
    catalogFaults := []
    catalogLatencyMs := 0
    calls := {}
    submitted := [] }

/-- The binary fractions that a vendor holds: the average durations of its scripts
and the capacities of its catalog. -/
def Simulator.floats (s : Simulator) : List Float :=
  s.scripts.flatMap (·.2.floats) ++ s.catalog.toList.flatMap (·.floats)

namespace Wire

theorem keeps_heldResource {held : HeldResource} (h : held.resource.Fits)
    (hhidden : held.hiddenFor < Text.halfBound) : heldResource.Keeps held :=
  (keeps_start HeldResource.mk held
    |>.field (by decide) (keeps_required (keeps_resource h))
    |>.field (by decide) (keeps_required (keeps_half hhidden))).codec

theorem keeps_heldOrder {held : HeldOrder} (h : held.id < Text.wordBound)
    (hpending : held.pendingFor < Text.halfBound) : heldOrder.Keeps held :=
  (keeps_start HeldOrder.mk held
    |>.field (by decide) (keeps_required (keeps_word h))
    |>.field (by decide) (keeps_required (keeps_half hpending))).codec

/-- What is saved of a vendor is read back. -/
theorem read_simulator {s : Simulator} (fits : s.Fits) (keyed : s.Keyed)
    (hfloats : ∀ x ∈ s.floats, Json.float.Keeps x) :
    (simulator.write s).Legible ∧
      simulator.read? (simulator.write s).spelled = some (s.reloaded s.kind) := by
  have hscripts : ∀ entry ∈ s.scripts, script.Keeps entry.2 := by
    intro entry hentry
    refine keeps_script (fits.scripts entry hentry).2 ?_
    intro x hx
    exact hfloats x (List.mem_append_left _ (List.mem_flatMap.mpr ⟨entry, hentry, hx⟩))
  have hcatalog : ∀ package ∈ s.catalog, productPackage.Keeps package := by
    intro package hpackage
    refine keeps_productPackage (fits.catalog package hpackage) ?_
    intro x hx
    refine hfloats x (List.mem_append_right _ (List.mem_flatMap.mpr ⟨package, ?_, hx⟩))
    exact Option.mem_toList.mpr hpackage
  unfold simulator
  refine Record.Keeps.read_codec (x := s) ?_
  exact keeps_start restored s
    |>.field (by decide) (keeps_required (keeps_resourceKind _))
    |>.field (by decide) (keeps_required (keeps_list fun held hheld =>
      keeps_heldResource (fits.resources held hheld).1 (fits.resources held hheld).2))
    |>.field (by decide) (keeps_required (keeps_list fun held hheld =>
      keeps_heldOrder (fits.orders held hheld).1 (fits.orders held hheld).2))
    |>.field (by decide) (keeps_required (keeps_table keyed.scripts
      (fun entry hentry => scriptKey?_spelled (fits.scripts entry hentry).1) hscripts))
    |>.field (by decide) (keeps_required (keeps_table keyed.reservedIds (fun _ _ => rfl)
      fun entry hentry => keeps_resourceId (fits.reservedIds entry hentry)))
    |>.field (by decide) (keeps_optional rfl hcatalog)
    |>.field (by decide) (keeps_required (keeps_word fits.nextResourceId))
    |>.field (by decide) (keeps_required (keeps_word fits.nextOrderId))
    |>.field (by decide) (keeps_required (keeps_word fits.nextTransactionId))
    |>.field (by decide) (keeps_required (keeps_half fits.discoveryDelay))
    |>.field (by decide) (keeps_required (keeps_half fits.approvalDelay))
    |>.field (by decide) (keeps_required (keeps_truth _))
    |>.field (by decide) (keeps_defaulted (keeps_truth _))

end Wire

end Provisioning
