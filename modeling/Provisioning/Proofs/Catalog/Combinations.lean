import Provisioning.Catalog.Demo
import Provisioning.Proofs.Catalog.HardwareIds
import Mathlib.Data.List.Flatten
import Mathlib.Data.List.Nodup
import Mathlib.Data.List.ProdSigma

/-!
# All combinations are offered

A package offers one hardware profile for every choice of three items, one for each role
of the kind of resource.  An item can fill a role if it is in the category, has a price
and, as the uplink of a server, has the wanted port speed (`ProductItem.Fills`).

* `hardwareProfiles_eq`: the profiles are the product of the three lists of items.  An
  item without a price is in none of them, so every choice has an id.
* `roleItems_eq`: the port speed narrows the uplinks of servers and nothing else.
* `ofItems_id_inj`: the id of a profile tells the first prices of its three items.

`every_combination_is_offered` puts this together.
-/

namespace Provisioning

/-! ## Products of lists -/

section Product

variable {α β : Type}

/-- The pair of two positions in a product. -/
theorem getElem?_product {as : List α} {bs : List β} {i j : Nat} {a : α} {b : β}
    (ha : as[i]? = some a) (hb : bs[j]? = some b) :
    (as ×ˢ bs)[i * bs.length + j]? = some (a, b) := by
  have hj : j < bs.length := (List.getElem?_eq_some_iff.mp hb).1
  induction as generalizing i with
  | nil => cases ha
  | cons first rest ih =>
    rw [List.product_cons]
    cases i with
    | zero =>
      cases ha
      rw [Nat.zero_mul, Nat.zero_add, List.getElem?_append_left (by rwa [List.length_map]),
        List.getElem?_map, hb, Option.map_some]
    | succ i =>
      have hpos : (i + 1) * bs.length + j = bs.length + (i * bs.length + j) := by
        rw [Nat.succ_mul]
        omega
      rw [hpos, List.getElem?_append_right (by rw [List.length_map]; omega), List.length_map,
        Nat.add_sub_cancel_left]
      exact ih ha

/-- Fewer elements on either side have fewer pairs. -/
theorem product_sublist {as as' : List α} {bs bs' : List β} (ha : as.Sublist as')
    (hb : bs.Sublist bs') : (as ×ˢ bs).Sublist (as' ×ˢ bs') :=
  (ha.flatMap fun a => bs.map (Prod.mk a)).trans
    (List.Sublist.flatMap_right as' fun a _ => hb.map (Prod.mk a))

end Product

/-! ## Profiles of items with prices -/

/-- The profile of items that all have a price. -/
def HardwareProfile.ofItems (items : List ProductItem) : HardwareProfile where
  id := ",".intercalate ((items.filterMap ProductItem.firstPrice?).map toString)
  items := items

theorem map_firstPrice?_of_priced {items : List ProductItem}
    (priced : ∀ item ∈ items, item.firstPrice?.isSome = true) :
    items.map ProductItem.firstPrice? =
      (items.filterMap ProductItem.firstPrice?).map some := by
  induction items with
  | nil => rfl
  | cons item rest ih =>
    rw [List.forall_mem_cons] at priced
    obtain ⟨price, hprice⟩ := Option.isSome_iff_exists.mp priced.1
    rw [List.filterMap_cons_some hprice, List.map_cons, List.map_cons, hprice, ih priced.2]

theorem ofItems?_of_priced {items : List ProductItem}
    (priced : ∀ item ∈ items, item.firstPrice?.isSome = true) :
    HardwareProfile.ofItems? items = some (.ofItems items) := by
  have hid : hardwareId? items = some (HardwareProfile.ofItems items).id :=
    hardwareId?_eq_some_iff.mpr ⟨_, map_firstPrice?_of_priced priced, rfl⟩
  rw [HardwareProfile.ofItems?, hid]
  rfl

/-- Profiles of the same id have the same first prices. -/
theorem ofItems_id_inj {items others : List ProductItem} (some : items ≠ []) (some' : others ≠ [])
    (priced : ∀ item ∈ items, item.firstPrice?.isSome = true)
    (priced' : ∀ item ∈ others, item.firstPrice?.isSome = true)
    (same : (HardwareProfile.ofItems items).id = (HardwareProfile.ofItems others).id) :
    items.map ProductItem.firstPrice? = others.map ProductItem.firstPrice? := by
  have nonempty : ∀ {items : List ProductItem}, items ≠ [] →
      (∀ item ∈ items, item.firstPrice?.isSome = true) →
      items.filterMap ProductItem.firstPrice? ≠ [] := by
    intro items hitems hpriced hnil
    have hmap := map_firstPrice?_of_priced hpriced
    rw [hnil, List.map_nil, List.map_eq_nil_iff] at hmap
    exact hitems hmap
  have prices := hardwareId_inj (nonempty some priced) (nonempty some' priced') same
  rw [map_firstPrice?_of_priced priced, map_firstPrice?_of_priced priced', prices]

/-! ## The items of a role -/

/-- The item can fill a role: it is in the category and has a price, and as the uplink of
a server it has the port speed, if one is wanted. -/
def ProductItem.Fills (kind : ResourceKind) (portSpeed : Option Nat) (role : String)
    (item : ProductItem) : Prop :=
  role ∈ item.categories ∧ item.prices ≠ [] ∧
    (kind = .bareMetal → role = Category.uplink →
      ∀ speed ∈ portSpeed, (item.capacity == some (Float.ofNat speed)) = true)

instance (kind : ResourceKind) (portSpeed : Option Nat) (role : String) :
    DecidablePred (ProductItem.Fills kind portSpeed role) := fun item =>
  inferInstanceAs (Decidable (role ∈ item.categories ∧ item.prices ≠ [] ∧ (_ → _ → _)))

/-- The items of a package that can fill a role, in package order. -/
def ProductPackage.fillers (package : ProductPackage) (kind : ResourceKind)
    (portSpeed : Option Nat) (role : String) : List ProductItem :=
  package.items.filter fun item => decide (item.Fills kind portSpeed role)

section Fillers

variable {package : ProductPackage} {kind : ResourceKind} {role : String}

/-- An item that can fill a role is in the package and has a price. -/
theorem priced_of_mem_roleItems {item : ProductItem} {portSpeed : Option Nat}
    (h : item ∈ package.roleItems portSpeed role) :
    item ∈ package.itemsIn role ∧ ∃ price, item.firstPrice? = some price := by
  have hpriced := List.mem_filter.mp (List.mem_filter.mp h).1
  exact ⟨hpriced.1, Option.isSome_iff_exists.mp hpriced.2⟩

theorem matchesSpeed_iff {item : ProductItem} {portSpeed : Option Nat} :
    item.matchesSpeed portSpeed = true ↔
      ∀ speed ∈ portSpeed, (item.capacity == some (Float.ofNat speed)) = true := by
  cases portSpeed <;> simp [ProductItem.matchesSpeed]

theorem ProfileRoles.forall_mem_toList {roles : ProfileRoles} {P : String → Prop} :
    (∀ role ∈ roles.toList, P role) ↔ P roles.first ∧ P roles.second ∧ P roles.third := by
  simp [ProfileRoles.toList]

/-- No role of a guest is an uplink. -/
theorem ne_uplink_of_mem_guest (h : role ∈ (ProfileRoles.ofKind .virtualGuest).toList) :
    role ≠ Category.uplink := by
  rintro rfl
  exact absurd h (by decide)

/-- The port speed is looked at for the uplinks of servers. -/
theorem roleItems_eq (hrole : role ∈ (ProfileRoles.ofKind kind).toList) (portSpeed : Option Nat) :
    package.roleItems portSpeed role = package.fillers kind portSpeed role := by
  rw [ProductPackage.roleItems, ProductPackage.itemsIn, List.filter_filter, List.filter_filter]
  refine List.filter_congr fun item _ => ?_
  have speed : (role != Category.uplink || item.matchesSpeed portSpeed) = true ↔
      (kind = .bareMetal → role = Category.uplink →
        ∀ speed ∈ portSpeed, (item.capacity == some (Float.ofNat speed)) = true) := by
    rw [Bool.or_eq_true, bne_iff_ne, matchesSpeed_iff, or_iff_not_imp_left, not_not]
    cases kind with
    | bareMetal => exact ⟨fun h _ => h, fun h => h rfl⟩
    | virtualGuest => exact ⟨nofun, fun _ h => absurd h (ne_uplink_of_mem_guest hrole)⟩
  have priced : item.firstPrice?.isSome = true ↔ item.prices ≠ [] := by
    rw [ProductItem.firstPrice?, List.isSome_head?]
  have listed : item.hasCategory role = true ↔ role ∈ item.categories := List.contains_iff_mem
  rw [Bool.eq_iff_iff, Bool.and_eq_true, Bool.and_eq_true, speed, priced, listed,
    decide_eq_true_iff]
  unfold ProductItem.Fills
  tauto

theorem priced_of_mem_fillers {item : ProductItem} {portSpeed : Option Nat}
    (h : item ∈ package.fillers kind portSpeed role) : item.firstPrice?.isSome = true := by
  obtain ⟨-, hsome, -⟩ := of_decide_eq_true (List.mem_filter.mp h).2
  exact List.isSome_head?.mpr hsome

/-- A wanted port speed leaves some of the items. -/
theorem fillers_sublist (kind : ResourceKind) (portSpeed : Option Nat) (role : String) :
    (package.fillers kind portSpeed role).Sublist (package.fillers kind none role) := by
  refine List.monotone_filter_right _ fun item h => ?_
  rw [decide_eq_true_iff] at h ⊢
  exact ⟨h.1, h.2.1, fun _ _ _ hnone => absurd hnone (Option.not_mem_none _)⟩

/-- The port speed says nothing about the items of a guest. -/
theorem fillers_guest (portSpeed other : Option Nat) (role : String) :
    package.fillers .virtualGuest portSpeed role = package.fillers .virtualGuest other role := by
  refine List.filter_congr fun item _ => ?_
  rw [decide_eq_decide]
  exact ⟨fun h => ⟨h.1, h.2.1, nofun⟩, fun h => ⟨h.1, h.2.1, nofun⟩⟩

end Fillers

/-! ## The product of the roles -/

section Choices

variable {package : ProductPackage} {kind : ResourceKind} {portSpeed : Option Nat}

/-- The choices of an item for each role, in the order of their positions. -/
def ProductPackage.choices (package : ProductPackage) (kind : ResourceKind)
    (portSpeed : Option Nat) : List (ProductItem × ProductItem × ProductItem) :=
  let roles := ProfileRoles.ofKind kind
  package.fillers kind portSpeed roles.first ×ˢ (package.fillers kind portSpeed roles.second ×ˢ
    package.fillers kind portSpeed roles.third)

/-- The profile of a choice. -/
def HardwareProfile.ofChoice (choice : ProductItem × ProductItem × ProductItem) :
    HardwareProfile :=
  .ofItems [choice.1, choice.2.1, choice.2.2]

theorem mem_choices {a b c : ProductItem} :
    (a, b, c) ∈ package.choices kind portSpeed ↔
      a ∈ package.fillers kind portSpeed (ProfileRoles.ofKind kind).first ∧
      b ∈ package.fillers kind portSpeed (ProfileRoles.ofKind kind).second ∧
      c ∈ package.fillers kind portSpeed (ProfileRoles.ofKind kind).third := by
  rw [ProductPackage.choices, List.mem_product, List.mem_product]

theorem priced_of_mem_choices {a b c : ProductItem}
    (h : (a, b, c) ∈ package.choices kind portSpeed) :
    ∀ item ∈ [a, b, c], item.firstPrice?.isSome = true := by
  obtain ⟨ha, hb, hc⟩ := mem_choices.mp h
  simp [priced_of_mem_fillers ha, priced_of_mem_fillers hb, priced_of_mem_fillers hc]

theorem roleItems_eq_of_kind (package : ProductPackage) (kind : ResourceKind)
    (portSpeed : Option Nat) :
    let roles := ProfileRoles.ofKind kind
    package.roleItems portSpeed roles.first = package.fillers kind portSpeed roles.first ∧
      package.roleItems portSpeed roles.second = package.fillers kind portSpeed roles.second ∧
      package.roleItems portSpeed roles.third = package.fillers kind portSpeed roles.third :=
  ProfileRoles.forall_mem_toList.mp fun _ hrole => roleItems_eq hrole portSpeed

/-- The profiles of a package are those of all choices.  The items of a choice have
prices, so none is without an id. -/
theorem hardwareProfiles_eq (package : ProductPackage) (kind : ResourceKind)
    (portSpeed : Option Nat) :
    package.hardwareProfiles kind portSpeed =
      (package.choices kind portSpeed).map HardwareProfile.ofChoice := by
  obtain ⟨first, second, third⟩ := roleItems_eq_of_kind package kind portSpeed
  have product : ∀ {α β : Type} (as : List α) (bs : List β),
      as ×ˢ bs = as.flatMap fun a => bs.map (Prod.mk a) := fun _ _ => rfl
  simp only [ProductPackage.hardwareProfiles, first, second, third, ProductPackage.choices,
    product, List.map_flatMap, List.map_map, Function.comp_def]
  refine List.flatMap_congr fun a ha => List.flatMap_congr fun b hb => ?_
  rw [← List.filterMap_eq_map']
  exact List.filterMap_congr fun c hc =>
    ofItems?_of_priced (priced_of_mem_choices (mem_choices.mpr ⟨ha, hb, hc⟩))

/-- A profile has one item with a price for each role, in the order of the roles, and
its id is made from their prices. -/
theorem items_of_mem_hardwareProfiles {profile : HardwareProfile}
    (h : profile ∈ package.hardwareProfiles kind portSpeed) :
    let roles := ProfileRoles.ofKind kind
    ∃ a ∈ package.roleItems portSpeed roles.first, ∃ b ∈ package.roleItems portSpeed roles.second,
      ∃ c ∈ package.roleItems portSpeed roles.third, profile.items = [a, b, c] ∧
        profile.id = ",".intercalate ((profile.items.filterMap (·.firstPrice?)).map toString) := by
  intro roles
  obtain ⟨first, second, third⟩ := roleItems_eq_of_kind package kind portSpeed
  rw [hardwareProfiles_eq] at h
  obtain ⟨⟨a, b, c⟩, hchoice, rfl⟩ := List.mem_map.mp h
  obtain ⟨ha, hb, hc⟩ := mem_choices.mp hchoice
  rw [first, second, third]
  exact ⟨a, ha, b, hb, c, hc, rfl, rfl⟩

/-- The choices are told apart by the ids of their profiles if the items of each role are
told apart by their first prices. -/
theorem nodup_ids_of_choices
    (apart : ∀ role ∈ (ProfileRoles.ofKind kind).toList,
      ((package.fillers kind portSpeed role).map ProductItem.firstPrice?).Nodup) :
    ((package.hardwareProfiles kind portSpeed).map (·.id)).Nodup := by
  obtain ⟨first, second, third⟩ := ProfileRoles.forall_mem_toList.mp apart
  have choices : (package.choices kind portSpeed).Nodup :=
    (List.Nodup.of_map _ first).product ((List.Nodup.of_map _ second).product
      (List.Nodup.of_map _ third))
  rw [hardwareProfiles_eq, List.map_map]
  refine choices.map_on ?_
  rintro ⟨a, b, c⟩ hchoice ⟨a', b', c'⟩ hchoice' same
  obtain ⟨ha, hb, hc⟩ := mem_choices.mp hchoice
  obtain ⟨ha', hb', hc'⟩ := mem_choices.mp hchoice'
  have prices := ofItems_id_inj (List.cons_ne_nil a [b, c]) (List.cons_ne_nil a' [b', c'])
    (priced_of_mem_choices hchoice) (priced_of_mem_choices hchoice') same
  simp only [List.map_cons, List.map_nil, List.cons.injEq, and_true] at prices
  rw [List.inj_on_of_nodup_map first ha ha' prices.1,
    List.inj_on_of_nodup_map second hb hb' prices.2.1,
    List.inj_on_of_nodup_map third hc hc' prices.2.2]

end Choices

/-! ## The theorem -/

/-- A package offers exactly the product of the items that can fill the three roles: the
profile at the place of three positions, in lexicographic order, has the items at these
positions, and it is named by their first prices.  So there are as many profiles as
choices.  The port speed does not matter to guests, and a wanted one leaves some of the
profiles.  If the items of each role differ in their first prices, the ids of all profiles
differ. -/
theorem every_combination_is_offered (package : ProductPackage) (kind : ResourceKind)
    (portSpeed : Option Nat) :
    let roles := ProfileRoles.ofKind kind
    let first := package.fillers kind portSpeed roles.first
    let second := package.fillers kind portSpeed roles.second
    let third := package.fillers kind portSpeed roles.third
    let profiles := package.hardwareProfiles kind portSpeed
    profiles = (first ×ˢ (second ×ˢ third)).map (fun (a, b, c) => .ofItems [a, b, c]) ∧
      profiles.length = first.length * second.length * third.length ∧
      (∀ i j k a b c, first[i]? = some a → second[j]? = some b → third[k]? = some c →
        profiles[(i * second.length + j) * third.length + k]? = some (.ofItems [a, b, c])) ∧
      (kind = .virtualGuest → ∀ other, package.hardwareProfiles kind other = profiles) ∧
      profiles.Sublist (package.hardwareProfiles kind none) ∧
      ((first.map ProductItem.firstPrice?).Nodup → (second.map ProductItem.firstPrice?).Nodup →
        (third.map ProductItem.firstPrice?).Nodup → (profiles.map (·.id)).Nodup) := by
  intro roles first second third profiles
  have product : profiles = (first ×ˢ (second ×ˢ third)).map HardwareProfile.ofChoice :=
    hardwareProfiles_eq package kind portSpeed
  refine ⟨product, ?_, fun i j k a b c ha hb hc => ?_, ?_, ?_, fun hfirst hsecond hthird => ?_⟩
  · rw [product, List.length_map, List.length_product, List.length_product, Nat.mul_assoc]
  · have place : (i * second.length + j) * third.length + k =
        i * (second ×ˢ third).length + (j * third.length + k) := by
      rw [List.length_product, Nat.add_mul, Nat.mul_assoc, Nat.add_assoc]
    rw [product, place, List.getElem?_map, getElem?_product ha (getElem?_product hb hc)]
    rfl
  · rintro rfl other
    rw [product, hardwareProfiles_eq]
    simp only [ProductPackage.choices, fillers_guest other portSpeed]
    rfl
  · rw [product, hardwareProfiles_eq]
    exact (product_sublist (fillers_sublist kind portSpeed _) (product_sublist
      (fillers_sublist kind portSpeed _) (fillers_sublist kind portSpeed _))).map _
  · exact nodup_ids_of_choices
      (ProfileRoles.forall_mem_toList.mpr ⟨hfirst, hsecond, hthird⟩)

example : ((Demo.catalog .bareMetal).hardwareProfiles .bareMetal (some 10)).map (·.id) =
    ["1921,1267,272", "1921,1268,272", "1922,1267,272", "1922,1268,272"] := by decide +kernel

end Provisioning
