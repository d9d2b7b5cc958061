import Provisioning.Proofs.Wire.Vendor

/-!
# What can be read

A codec may know something of everything that it reads, whatever the tree: that a number
is below its bound, or that the keys of a table are apart.  `Codec.Ensures` says so, and
there is one rule for each way in which codecs are put together.  Of a record it is known
what its constructor makes of fields of which something is known.

So a vendor that was read `Fits`, it is `Keyed`, and it has nothing in the fields that are
not saved (`ensures_simulator`).
-/

namespace Provisioning

variable {τ ρ α β : Type}

/-- Whatever is read has the property. -/
def Codec.Ensures (codec : Codec τ α) (P : α → Prop) : Prop :=
  ∀ tree a, codec.read? tree = some a → P a

/-- The same for a field. -/
def Field.Ensures (field : Field τ α) (P : α → Prop) : Prop :=
  ∀ slot a, field.read? slot = some a → P a

/-- The same for a part of a record. -/
def Record.Ensures (record : Record τ ρ β) (P : β → Prop) : Prop :=
  ∀ slots b rest, record.read? slots = some (b, rest) → P b

/-! ## Records -/

namespace Record.Ensures

theorem start {make : β} {P : β → Prop} (h : P make) :
    (Record.start make : Record τ ρ β).Ensures P := by
  rintro slots b rest hread
  cases hread
  exact h

/-- What the rest of a record makes of a field of which something is known. -/
theorem field {record : Record τ ρ (α → β)} {name : String} {added : Field τ α} {get : ρ → α}
    {P : β → Prop} {Q : α → Prop} (known : added.Ensures Q)
    (h : record.Ensures fun make => ∀ a, Q a → P (make a)) :
    (record.field name added get).Ensures P := by
  intro slots b rest hread
  simp only [Record.field] at hread
  split at hread
  · rename_i make slot later hmake
    obtain ⟨a, ha, heq⟩ := Option.map_eq_some_iff.mp hread
    cases heq
    exact h _ _ _ hmake a (known slot a ha)
  · cases hread

end Record.Ensures

theorem Codec.Ensures.record {record : Record τ ρ ρ} {format : Format τ} {P : ρ → Prop}
    (h : record.Ensures P) : (record.codec format).Ensures P := by
  intro tree x hread
  simp only [Record.codec] at hread
  split at hread
  · obtain ⟨⟨y, rest⟩, hslots, rfl⟩ := Option.map_eq_some_iff.mp hread
    exact h _ _ _ hslots
  · cases hread

/-! ## Fields -/

namespace Field.Ensures

variable {codec : Codec τ α} {P : α → Prop}

/-- Nothing needs to be known. -/
theorem any {field : Field τ α} : field.Ensures fun _ => True :=
  fun _ _ _ => trivial

theorem required (h : codec.Ensures P) : (Field.required codec).Ensures P := by
  intro slot a hread
  cases slot with
  | given tree => exact h tree a hread
  | unnamed => cases hread
  | beyond => cases hread

theorem defaulted {default : α} (h : codec.Ensures P) (hdefault : P default) :
    (Field.defaulted codec default).Ensures P := by
  intro slot a hread
  cases slot with
  | given tree => exact h tree a hread
  | unnamed =>
    cases hread
    exact hdefault
  | beyond =>
    cases hread
    exact hdefault

end Field.Ensures

/-! ## Values -/

namespace Codec.Ensures

theorem natCodec (bound : Nat) : (Json.natCodec bound).Ensures (· < bound) := by
  intro tree n hread
  simp only [Json.natCodec] at hread
  split at hread
  · split at hread
    · rename_i hrange
      cases hread
      exact hrange.2
    · cases hread
  · cases hread

theorem word : Json.word.Ensures (· < Text.wordBound) :=
  natCodec _

theorem half : Json.half.Ensures (· < Text.halfBound) :=
  natCodec _

variable {codec : Codec Json α} {P : α → Prop}

theorem wrapped {wrap : α → β} {unwrap : β → α} {Q : β → Prop}
    (h : codec.Ensures fun a => Q (wrap a)) : (Json.wrapped codec wrap unwrap).Ensures Q := by
  intro tree b hread
  obtain ⟨a, ha, rfl⟩ := Option.map_eq_some_iff.mp hread
  exact h tree a ha

theorem list (h : codec.Ensures P) : (Json.list codec).Ensures fun as => ∀ a ∈ as, P a := by
  have all : ∀ (items : List Json) as, Json.readAll? codec items = some as → ∀ a ∈ as, P a := by
    intro items
    induction items with
    | nil =>
      rintro as ⟨⟩
      exact fun _ ha => absurd ha List.not_mem_nil
    | cons item rest ih =>
      intro as hread
      simp only [Json.readAll?] at hread
      split at hread
      · rename_i a as' ha has
        cases hread
        exact List.forall_mem_cons.mpr ⟨h item a ha, ih as' has⟩
      · cases hread
  intro tree as hread
  cases tree with
  | arr items => exact all items as hread
  | _ => cases hread

theorem nullable (h : codec.Ensures P) : (Json.nullable codec).Ensures fun a? => ∀ a ∈ a?, P a := by
  intro tree a? hread a ha
  cases ha
  simp only [Json.nullable] at hread
  split at hread
  · cases hread
  · obtain ⟨a', ha', heq⟩ := Option.map_eq_some_iff.mp hread
    cases heq
    exact h tree a ha'

/-- The keys of a table are apart. -/
theorem table {κ ν : Type} [DecidableEq κ] {writeKey : κ → String}
    {readKey? : Json.Name → Option κ} {codec : Codec Json ν} {K : κ → Prop} {V : ν → Prop}
    (keys : ∀ name key, readKey? name = some key → K key) (h : codec.Ensures V) :
    (Json.table writeKey readKey? codec).Ensures fun entries =>
      Lookup.Apart entries ∧ ∀ entry ∈ entries, K entry.1 ∧ V entry.2 := by
  have all : ∀ (members : List (Json.Name × Json)) (before : Lookup κ ν),
      before.Apart → (∀ entry ∈ before, K entry.1 ∧ V entry.2) → ∀ entries,
        members.foldlM (Json.addMember readKey? codec) before = some entries →
          entries.Apart ∧ ∀ entry ∈ entries, K entry.1 ∧ V entry.2 := by
    intro members
    induction members with
    | nil =>
      rintro before apart known entries ⟨⟩
      exact ⟨apart, known⟩
    | cons member members ih =>
      intro before apart known entries hread
      obtain ⟨next, hnext, hrest⟩ := Option.bind_eq_some_iff.mp hread
      unfold Json.addMember at hnext
      split at hnext
      · rename_i key value hkey hvalue
        cases hnext
        exact ih _ (apart.put _ _)
          (Lookup.forall_put known ⟨keys _ key hkey, h _ value hvalue⟩) entries hrest
      · cases hnext
  intro tree entries hread
  cases tree with
  | obj members =>
    exact all members [] Lookup.apart_nil (fun _ h => absurd h List.not_mem_nil) entries hread
  | _ => cases hread

end Codec.Ensures

theorem Field.Ensures.optional {codec : Codec Json α} {P : α → Prop} (h : codec.Ensures P) :
    (Json.optional codec).Ensures fun a? => ∀ a ∈ a?, P a := by
  intro slot a? hread
  cases slot with
  | given tree => exact h.nullable tree a? hread
  | unnamed =>
    cases hread
    exact fun _ ha => by cases ha
  | beyond => cases hread

/-! ## Saved vendors -/

namespace Wire

open Codec.Ensures (word half list nullable table)

open Field.Ensures (any required defaulted optional)

open Record.Ensures (start field)

theorem ensures_resourceId : resourceId.Ensures fun id => id.value < Text.wordBound :=
  .wrapped word

-- The fields of a record are given from the last one to the first.

theorem ensures_datacenter : datacenter.Ensures Datacenter.Fits :=
  .record (field any (field any (field (required word) (start fun _ hid _ _ _ _ => hid))))

theorem ensures_resource : resource.Ensures Resource.Fits :=
  .record (field any (field (optional ensures_datacenter) (field any (field (optional word)
    (field any (field any (field any (field any (field (required ensures_resourceId)
      (start fun _ hid _ _ _ _ _ _ _ _ _ hitem _ _ _ hdatacenter _ _ =>
        ⟨hid, hitem, hdatacenter⟩))))))))))

theorem ensures_productItem : productItem.Ensures ProductItem.Fits :=
  .record (field (defaulted (list word) fun _ h => absurd h List.not_mem_nil)
    (field any (field any (field any (field any (field (required word)
      (start fun _ hid _ _ _ _ _ _ _ _ _ hprices => ⟨hid, hprices⟩)))))))

theorem ensures_productPackage : productPackage.Ensures ProductPackage.Fits :=
  .record (field (defaulted (list ensures_datacenter) fun _ h => absurd h List.not_mem_nil)
    (field (defaulted (list ensures_productItem) fun _ h => absurd h List.not_mem_nil)
      (field any (field (required word)
        (start fun _ hid _ _ _ hitems _ hdatacenters => ⟨hid, hitems, hdatacenters⟩)))))

theorem ensures_transaction : transaction.Ensures Transaction.Fits :=
  .record (field any (field (required word) (field any (field (required word)
    (start fun _ hid _ _ _ helapsed _ _ => ⟨hid, helapsed⟩)))))

theorem ensures_script :
    script.Ensures fun script => ∀ shown ∈ script.entries, ∀ t ∈ shown, t.Fits :=
  .record (field any (field (required (list (nullable ensures_transaction)))
    (start fun _ hentries _ _ => hentries)))

theorem ensures_heldResource : heldResource.Ensures fun held =>
    held.resource.Fits ∧ held.hiddenFor < Text.halfBound :=
  .record (field (required half) (field (required ensures_resource)
    (start fun _ hresource _ hhidden => ⟨hresource, hhidden⟩)))

theorem ensures_heldOrder : heldOrder.Ensures fun held =>
    held.id < Text.wordBound ∧ held.pendingFor < Text.halfBound :=
  .record (field (required half) (field (required word)
    (start fun _ hid _ hpending => ⟨hid, hpending⟩)))

theorem scriptKey?_lt {name : Json.Name} {id : ResourceId} (h : scriptKey? name = some id) :
    id.value < Text.wordBound := by
  unfold scriptKey? at h
  split at h
  · cases h
  · split at h
    · cases h
    · cases h
    · obtain ⟨n, hn, rfl⟩ := Option.map_eq_some_iff.mp h
      exact Text.lt_of_numeral? hn

/-- A vendor that was read fits, has one script for each resource and one reservation for
each hostname, and has nothing in the fields that are not saved. -/
theorem ensures_simulator :
    simulator.Ensures fun s => s.Keyed ∧ s.Fits ∧ s.reloaded s.kind = s := by
  refine .record (field any (field any (field (required half) (field (required half)
    (field (required word) (field (required word) (field (required word)
      (field (optional ensures_productPackage)
        (field (required (table (fun _ _ _ => trivial) ensures_resourceId))
          (field (required (table (fun _ _ => scriptKey?_lt) ensures_script))
            (field (required (list ensures_heldOrder)) (field (required (list ensures_heldResource))
              (field any (start ?_))))))))))))))
  intro kind _ resources hresources orders horders scripts hscripts reservedIds hreservedIds
    catalog hcatalog nextResourceId hresourceId nextOrderId horderId nextTransactionId
    htransactionId discoveryDelay hdiscovery approvalDelay happroval echoReceipts _
    withholdPasswords _
  refine ⟨⟨hscripts.1, hreservedIds.1⟩, ?_, rfl⟩
  exact
    { resources := hresources
      orders := horders
      scripts := hscripts.2
      reservedIds := fun entry hentry => (hreservedIds.2 entry hentry).2
      catalog := hcatalog
      nextResourceId := hresourceId
      nextOrderId := horderId
      nextTransactionId := htransactionId
      discoveryDelay := hdiscovery
      approvalDelay := happroval }

end Wire

end Provisioning
