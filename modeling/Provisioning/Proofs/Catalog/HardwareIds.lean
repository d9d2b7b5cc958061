import Provisioning.Catalog.Pricing
import Provisioning.Proofs.Text.Numeral
import Mathlib.Data.List.Forall2

/-!
# Hardware ids are read back

A hardware id is written as the first prices of its items, in decimal and with commas
between them.  It is read piece by piece: every piece between two commas is to name a
price (`NamesPrice`), a numeral of 64 bits with blanks around it.

* `parsePieces_eq_ok_iff` and `parsePieces_eq_error`: all pieces name prices, or the
  first that names none is told.
* `hardwareId_inj`: the id tells the prices that it was made from, however long they
  are.
* `parseHardwareId_intercalate`: it is read as these prices when they are numbers of 64
  bits.

`hardwareId_decodes` puts this together.
-/

namespace Provisioning

/-! ## The pieces of an id -/

/-- Pieces are cut at every comma. -/
theorem splitAtCommas_eq (cs : List Char) : splitAtCommas cs = cs.splitOn ',' := by
  induction cs with
  | nil => rfl
  | cons c rest ih =>
    rw [splitAtCommas, List.splitOn_cons_eq_if_modifyHead, ih]
    simp only [beq_iff_eq]
    split
    · rfl
    · cases hpieces : rest.splitOn ',' with
      | nil => exact absurd hpieces (List.splitOn_ne_nil _ _)
      | cons piece pieces => rfl

/-- A piece names a price: a numeral of 64 bits, with blanks around it. -/
def NamesPrice (piece : List Char) (price : PriceId) : Prop :=
  Text.Denotes Text.wordBound piece price

theorem parsePriceId?_eq_some_iff {piece : List Char} {price : PriceId} :
    parsePriceId? piece = some price ↔ NamesPrice piece price :=
  Text.numeral?_trimmed_eq_some_iff

/-- The pieces before this one name prices, and this one names none. -/
def FirstUnread (pieces : List (List Char)) (bad : List Char) : Prop :=
  ∃ before after, pieces = before ++ bad :: after ∧
    (∀ piece ∈ before, ∃ price, NamesPrice piece price) ∧ ∀ price, ¬NamesPrice bad price

theorem FirstUnread.cons {piece bad : List Char} {price : PriceId} {rest : List (List Char)}
    (named : NamesPrice piece price) (h : FirstUnread rest bad) :
    FirstUnread (piece :: rest) bad := by
  obtain ⟨before, after, rfl, hbefore, hbad⟩ := h
  exact ⟨piece :: before, after, rfl, List.forall_mem_cons.mpr ⟨⟨price, named⟩, hbefore⟩, hbad⟩

/-- The prices are those that the pieces name. -/
theorem parsePieces_eq_ok_iff {hardwareId : String} {pieces : List (List Char)}
    {prices : List PriceId} :
    parsePieces hardwareId pieces = .ok prices ↔ List.Forall₂ NamesPrice pieces prices := by
  induction pieces generalizing prices with
  | nil => rw [List.forall₂_nil_left_iff, parsePieces, Except.ok.injEq, eq_comm]
  | cons piece rest ih =>
    rw [List.forall₂_cons_left_iff, parsePieces]
    constructor
    · intro read
      cases hpiece : parsePriceId? piece with
      | none =>
        rw [hpiece] at read
        cases read
      | some price =>
        simp only [hpiece] at read
        cases hrest : parsePieces hardwareId rest with
        | error fault =>
          rw [hrest] at read
          cases read
        | ok others =>
          rw [hrest] at read
          cases read
          exact ⟨price, others, parsePriceId?_eq_some_iff.mp hpiece, ih.mp hrest, rfl⟩
    · rintro ⟨price, others, named, hothers, rfl⟩
      simp only [parsePriceId?_eq_some_iff.mpr named, ih.mpr hothers]
      rfl

/-- A fault tells the first piece that names no price. -/
theorem parsePieces_eq_error {hardwareId : String} {pieces : List (List Char)}
    {fault : ProfileFault} (h : parsePieces hardwareId pieces = .error fault) :
    ∃ bad, FirstUnread pieces bad ∧ fault = .notAPriceId (String.ofList bad) hardwareId := by
  induction pieces with
  | nil => cases h
  | cons piece rest ih =>
    rw [parsePieces] at h
    cases hpiece : parsePriceId? piece with
    | none =>
      rw [hpiece] at h
      cases h
      refine ⟨piece, ⟨[], rest, rfl, fun _ hmem => absurd hmem List.not_mem_nil, ?_⟩, rfl⟩
      intro price named
      cases hpiece.symm.trans (parsePriceId?_eq_some_iff.mpr named)
    | some price =>
      simp only [hpiece] at h
      cases hrest : parsePieces hardwareId rest with
      | ok others =>
        rw [hrest] at h
        cases h
      | error fault' =>
        rw [hrest] at h
        cases h
        obtain ⟨bad, first, heq⟩ := ih hrest
        exact ⟨bad, first.cons (parsePriceId?_eq_some_iff.mp hpiece), heq⟩

/-! ## What an id is read as -/

/-- A blank id names no price: it is one piece, and that is blank. -/
theorem not_forall₂_of_isBlankText {hardwareId : String}
    (blank : Text.isBlankText hardwareId = true) (prices : List PriceId) :
    ¬List.Forall₂ NamesPrice (hardwareId.toList.splitOn ',') prices := by
  have hblank : ∀ c ∈ hardwareId.toList, Text.isBlank c = true := List.all_eq_true.mp blank
  have single : hardwareId.toList.splitOn ',' = [hardwareId.toList] :=
    List.splitOn_eq_singleton fun hcomma => absurd (hblank ',' hcomma) (by decide)
  rw [single, List.forall₂_cons_left_iff]
  rintro ⟨price, others, named, -, -⟩
  obtain ⟨c, hc, visible⟩ := named.exists_visible
  rw [hblank c hc] at visible
  cases visible

/-- An id is read as the prices that its pieces name. -/
theorem parseHardwareId_eq_ok_iff {hardwareId : String} {prices : List PriceId} :
    parseHardwareId hardwareId = .ok prices ↔
      List.Forall₂ NamesPrice (hardwareId.toList.splitOn ',') prices := by
  unfold parseHardwareId
  split
  · rename_i blank
    exact iff_of_false nofun (not_forall₂_of_isBlankText blank prices)
  · have named : parsePieces hardwareId (hardwareId.toList.splitOn ',') = .ok prices ↔
        List.Forall₂ NamesPrice (hardwareId.toList.splitOn ',') prices := parsePieces_eq_ok_iff
    rw [← named, splitAtCommas_eq]
    cases parsePieces hardwareId (hardwareId.toList.splitOn ',') with
    | ok others => rw [Except.mapError, Except.ok.injEq, Except.ok.injEq]
    | error fault => exact iff_of_false nofun nofun

/-- What is wrong with an id that is not read: there is nothing in it, or this is its
first piece that names no price. -/
theorem parseHardwareId_eq_error {hardwareId : String} {cause : Error}
    (h : parseHardwareId hardwareId = .error cause) :
    if Text.isBlankText hardwareId then cause = .invalidProfile .emptyHardwareId
    else ∃ bad, FirstUnread (hardwareId.toList.splitOn ',') bad ∧
      cause = .invalidProfile (.notAPriceId (String.ofList bad) hardwareId) := by
  unfold parseHardwareId at h
  split at h
  · rename_i blank
    rw [if_pos blank]
    exact (Except.error.inj h).symm
  · rename_i visible
    rw [if_neg visible]
    rw [splitAtCommas_eq] at h
    cases hpieces : parsePieces hardwareId (hardwareId.toList.splitOn ',') with
    | ok prices =>
      rw [hpieces] at h
      cases h
    | error fault =>
      rw [hpieces] at h
      cases h
      obtain ⟨bad, first, rfl⟩ := parsePieces_eq_error hpieces
      exact ⟨bad, first, rfl⟩

/-! ## Ids that are written -/

/-- The pieces of an id are the prices that it was made from. -/
theorem splitOn_intercalate_toString {prices : List PriceId} (some : prices ≠ []) :
    (",".intercalate (prices.map toString)).toList.splitOn ',' =
      prices.map fun price => (toString price).toList := by
  have hid : (",".intercalate (prices.map toString)).toList =
      [','].intercalate (prices.map fun price => (toString price).toList) := by
    rw [String.toList_intercalate, List.map_map]
    rfl
  rw [hid]
  refine List.splitOn_intercalate ',' (fun piece hpiece hcomma => ?_) ?_
  · obtain ⟨price, -, rfl⟩ := List.mem_map.mp hpiece
    exact absurd (Text.isDigit_of_mem_toString hcomma) (by decide)
  · exact fun hnil => some (List.map_eq_nil_iff.mp hnil)

/-- The prices that a hardware id was made from are read back. -/
theorem parseHardwareId_intercalate {prices : List PriceId} (some : prices ≠ [])
    (h : ∀ price ∈ prices, price < Text.wordBound) :
    parseHardwareId (",".intercalate (prices.map toString)) = .ok prices := by
  rw [parseHardwareId_eq_ok_iff, splitOn_intercalate_toString some, List.forall₂_map_left_iff,
    List.forall₂_same]
  exact fun price hprice => Text.denotes_toString (h price hprice)

/-- Ids that are alike were made from the same prices. -/
theorem hardwareId_inj {prices others : List PriceId} (some : prices ≠ []) (some' : others ≠ [])
    (same : ",".intercalate (prices.map toString) = ",".intercalate (others.map toString)) :
    prices = others := by
  have pieces := congrArg (fun id : String => id.toList.splitOn ',') same
  simp only [splitOn_intercalate_toString some, splitOn_intercalate_toString some'] at pieces
  exact List.map_injective_iff.mpr Text.toList_toString_injective pieces

/-- The first prices of items that all have one. -/
theorem mapM_firstPrice?_eq_some_iff {items : List ProductItem} {prices : List PriceId} :
    items.mapM ProductItem.firstPrice? = some prices ↔
      items.map ProductItem.firstPrice? = prices.map some := by
  induction items generalizing prices with
  | nil => cases prices <;> simp
  | cons item rest ih =>
    rw [List.mapM_cons]
    cases prices with
    | nil => simp [Option.bind_eq_some_iff]
    | cons price others =>
      simp only [Option.bind_eq_bind, Option.bind_eq_some_iff, ih, Option.pure_def,
        Option.some.injEq, List.cons.injEq, List.map_cons]
      constructor
      · rintro ⟨_, hitem, _, hrest, rfl, rfl⟩
        exact ⟨hitem, hrest⟩
      · rintro ⟨hitem, hrest⟩
        exact ⟨price, hitem, others, hrest, rfl, rfl⟩

/-- The id of items is made from their first prices, and each of them has one. -/
theorem hardwareId?_eq_some_iff {items : List ProductItem} {id : String} :
    hardwareId? items = some id ↔ ∃ prices : List PriceId,
      items.map ProductItem.firstPrice? = prices.map some ∧
        ",".intercalate (prices.map toString) = id := by
  simp only [hardwareId?, Option.map_eq_some_iff, mapM_firstPrice?_eq_some_iff]

/-! ## The theorem -/

/-- A hardware id tells the first prices of its items and nothing else.  It is read back
as these prices, and items with the same id have the same first prices.  A text is read
if and only if every piece between two commas names a price.  Otherwise it is refused
because it is blank, or with the first piece that names none. -/
theorem hardwareId_decodes :
    (∀ (items : List ProductItem) (prices : List PriceId), items ≠ [] →
      items.map ProductItem.firstPrice? = prices.map some →
      (∀ price ∈ prices, price < Text.wordBound) →
      ∃ id, hardwareId? items = some id ∧ parseHardwareId id = .ok prices) ∧
    (∀ (items others : List ProductItem) (id : String), items ≠ [] → others ≠ [] →
      hardwareId? items = some id → hardwareId? others = some id →
      items.map ProductItem.firstPrice? = others.map ProductItem.firstPrice?) ∧
    ∀ text : String,
      (∀ prices, parseHardwareId text = .ok prices ↔
        List.Forall₂ NamesPrice (text.toList.splitOn ',') prices) ∧
      ∀ cause, parseHardwareId text = .error cause →
        if Text.isBlankText text then cause = .invalidProfile .emptyHardwareId
        else ∃ bad, FirstUnread (text.toList.splitOn ',') bad ∧
          cause = .invalidProfile (.notAPriceId (String.ofList bad) text) := by
  have priced : ∀ {items : List ProductItem} {prices : List PriceId}, items ≠ [] →
      items.map ProductItem.firstPrice? = prices.map some → prices ≠ [] := by
    rintro items prices hitems hprices rfl
    exact hitems (List.map_eq_nil_iff.mp hprices)
  refine ⟨fun items prices hitems hprices fits => ?_, fun items others id hitems hothers hid hid' => ?_,
    fun text => ⟨fun _ => parseHardwareId_eq_ok_iff, fun _ => parseHardwareId_eq_error⟩⟩
  · exact ⟨_, hardwareId?_eq_some_iff.mpr ⟨prices, hprices, rfl⟩,
      parseHardwareId_intercalate (priced hitems hprices) fits⟩
  · obtain ⟨prices, hprices, rfl⟩ := hardwareId?_eq_some_iff.mp hid
    obtain ⟨prices', hprices', same⟩ := hardwareId?_eq_some_iff.mp hid'
    have heq : prices' = prices :=
      hardwareId_inj (priced hothers hprices') (priced hitems hprices) same
    rw [hprices, hprices', heq]

example : parseHardwareId "1921, +1267,0272" = .ok [1921, 1267, 272] := by decide +kernel

example : parseHardwareId "1921,,18446744073709551616" =
    .error (.invalidProfile (.notAPriceId "" "1921,,18446744073709551616")) := by decide +kernel

end Provisioning
