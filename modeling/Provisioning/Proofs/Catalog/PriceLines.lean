import Provisioning.Proofs.Catalog.HardwareIds
import Mathlib.Data.List.Basic

/-!
# Price lines without repetitions

An order lists the price of its image, then those of the hardware, the uplink and the
baseline, and each of them once.  The scan that drops repetitions keeps what it has seen
so far; `mem_firstOccurrences` and `firstOccurrences_pairwise` say what it leaves of any
list, whatever it has seen before: every price that is new, in the order of first places.
From nothing seen it is `List.eraseDups`.

`orderPrices_lists_each_once` says it of orders.
-/

namespace Provisioning

/-! ## First places -/

section FirstOccurrences

variable {seen prices : List PriceId}

theorem firstOccurrences_cons_of_mem {price : PriceId} (known : price ∈ seen) :
    firstOccurrences seen (price :: prices) = firstOccurrences seen prices := by
  rw [firstOccurrences, if_pos known]

theorem firstOccurrences_cons_of_notMem {price : PriceId} (new : price ∉ seen) :
    firstOccurrences seen (price :: prices) =
      price :: firstOccurrences (price :: seen) prices := by
  rw [firstOccurrences, if_neg new]

/-- Repetitions are dropped after their first place. -/
theorem firstOccurrences_eq (seen prices : List PriceId) :
    firstOccurrences seen prices = (prices.filter (· ∉ seen)).eraseDups := by
  induction prices generalizing seen with
  | nil => rfl
  | cons price rest ih =>
    by_cases known : price ∈ seen
    · rw [firstOccurrences_cons_of_mem known, ih, List.filter_cons_of_neg (by simpa using known)]
    · rw [firstOccurrences_cons_of_notMem known, ih,
        List.filter_cons_of_pos (by simpa using known), List.eraseDups_cons, List.filter_filter]
      congr 2
      refine List.filter_congr fun other _ => ?_
      rw [Bool.eq_iff_iff]
      simp [not_or]

/-- From nothing seen the scan drops repetitions only. -/
theorem firstOccurrences_nil_seen (prices : List PriceId) :
    firstOccurrences [] prices = prices.eraseDups := by
  have all : prices.filter (· ∉ []) = prices := by simp
  rw [firstOccurrences_eq, all]

/-- The scan leaves the prices that it has not seen before. -/
theorem mem_firstOccurrences {price : PriceId} :
    price ∈ firstOccurrences seen prices ↔ price ∈ prices ∧ price ∉ seen := by
  rw [firstOccurrences_eq, List.mem_eraseDups, List.mem_filter, decide_eq_true_eq]

/-- The first place of another price is one further in a longer list. -/
theorem idxOf_cons_of_mem_firstOccurrences {first price : PriceId} (known : first ∈ seen)
    (h : price ∈ firstOccurrences seen prices) :
    (first :: prices).idxOf price = prices.idxOf price + 1 :=
  List.idxOf_cons_ne _ fun heq => (mem_firstOccurrences.mp h).2 (heq ▸ known)

/-- The scan leaves prices in the order of their first places. -/
theorem firstOccurrences_pairwise (seen prices : List PriceId) :
    (firstOccurrences seen prices).Pairwise fun p q => prices.idxOf p < prices.idxOf q := by
  induction prices generalizing seen with
  | nil => exact .nil
  | cons first rest ih =>
    -- what is left of the rest is not the first price, which has been seen by then
    have later : ∀ seen, first ∈ seen → (firstOccurrences seen rest).Pairwise
        fun p q => (first :: rest).idxOf p < (first :: rest).idxOf q := by
      intro seen known
      refine (ih seen).imp_of_mem fun hp hq hlt => ?_
      rw [idxOf_cons_of_mem_firstOccurrences known hp, idxOf_cons_of_mem_firstOccurrences known hq]
      omega
    by_cases known : first ∈ seen
    · rw [firstOccurrences_cons_of_mem known]
      exact later seen known
    · rw [firstOccurrences_cons_of_notMem known]
      refine .cons (fun q hq => ?_) (later (first :: seen) List.mem_cons_self)
      rw [List.idxOf_cons_self, idxOf_cons_of_mem_firstOccurrences List.mem_cons_self hq]
      exact Nat.succ_pos _

/-- The scan leaves no price twice: none comes before itself. -/
theorem firstOccurrences_nodup (seen prices : List PriceId) :
    (firstOccurrences seen prices).Nodup := by
  refine (firstOccurrences_pairwise seen prices).imp fun hlt heq => ?_
  rw [heq] at hlt
  exact Nat.lt_irrefl _ hlt

/-- The scan leaves nothing of prices that it has met. -/
theorem firstOccurrences_append {more : List PriceId} (met : ∀ price ∈ more, price ∈ prices) :
    firstOccurrences [] (prices ++ more) = firstOccurrences [] prices := by
  have none_new : more.removeAll prices = [] := by
    refine List.filter_eq_nil_iff.mpr fun price hprice => ?_
    simp [met price hprice]
  rw [firstOccurrences_nil_seen, firstOccurrences_nil_seen, List.eraseDups_append, none_new,
    List.eraseDups_nil, List.append_nil]

end FirstOccurrences

/-! ## The prices of an order -/

theorem parseImageId_toString {price : PriceId} (h : price < Text.wordBound) :
    parseImageId (toString price) = .ok price := by
  rw [parseImageId, parsePriceId?_eq_some_iff.mpr (Text.denotes_toString h)]

/-- All prices that an order is made up from, with repetitions: image, hardware, uplink,
baseline. -/
def candidatePrices (image : PriceId) (hardware : List PriceId) (uplink : Option PriceId)
    (baseline : List PriceId) : List PriceId :=
  image :: (hardware ++ uplink.toList ++ baseline)

section Candidates

variable {image : PriceId} {hardware baseline : List PriceId} {uplink : Option PriceId}
variable {imageId hardwareId : String}

theorem mem_candidatePrices {price : PriceId} :
    price ∈ candidatePrices image hardware uplink baseline ↔
      price = image ∨ price ∈ hardware ∨ uplink = some price ∨ price ∈ baseline := by
  simp only [candidatePrices, List.mem_cons, List.mem_append, Option.mem_toList, or_assoc]

theorem candidatePrices_append (more : List PriceId) :
    candidatePrices image hardware uplink (baseline ++ more) =
      candidatePrices image hardware uplink baseline ++ more := by
  simp only [candidatePrices, List.cons_append, List.append_assoc]

/-- An order whose ids are read lists its candidates, each at its first place. -/
theorem orderPrices_eq_ok (himage : parseImageId imageId = .ok image)
    (hhardware : parseHardwareId hardwareId = .ok hardware) (uplink : Option PriceId)
    (baseline : List PriceId) :
    orderPrices imageId hardwareId uplink baseline =
      .ok (firstOccurrences [] (candidatePrices image hardware uplink baseline)) := by
  rw [orderPrices, himage, hhardware]
  rfl

/-- An order whose ids are read lists the price of its image first, then every other
price of the hardware, the uplink and the baseline, once and in the order of first
places.  A baseline that repeats what there is already changes nothing. -/
theorem orderPrices_lists_each_once (himage : parseImageId imageId = .ok image)
    (hhardware : parseHardwareId hardwareId = .ok hardware) (uplink : Option PriceId)
    (baseline : List PriceId) :
    let candidates := candidatePrices image hardware uplink baseline
    ∃ prices, orderPrices imageId hardwareId uplink baseline = .ok prices ∧ prices.Nodup ∧
      (∀ price, price ∈ prices ↔
        price = image ∨ price ∈ hardware ∨ uplink = some price ∨ price ∈ baseline) ∧
      prices.head? = some image ∧
      prices.Pairwise (fun p q => candidates.idxOf p < candidates.idxOf q) ∧
      ∀ more : List PriceId, (∀ price ∈ more, price ∈ candidates) →
        orderPrices imageId hardwareId uplink (baseline ++ more) = .ok prices := by
  intro candidates
  refine ⟨firstOccurrences [] candidates, orderPrices_eq_ok himage hhardware uplink baseline,
    firstOccurrences_nodup _ _, fun price => ?_, rfl, firstOccurrences_pairwise _ _,
    fun more hmore => ?_⟩
  · rw [mem_firstOccurrences, ← mem_candidatePrices]
    exact and_iff_left List.not_mem_nil
  · rw [orderPrices_eq_ok himage hhardware, candidatePrices_append,
      firstOccurrences_append hmore]

/-- The baseline repeats a price of the hardware and one of its own. -/
theorem orderPrices_lists_each_once_repeated :
    parseImageId "17438" = .ok 17438 ∧
      parseHardwareId "1921,1267,272" = .ok [1921, 1267, 272] ∧
      ∃ prices : List PriceId,
        orderPrices "17438" "1921,1267,272" none [21, 272, 55, 21] = .ok prices ∧
        prices = [17438, 1921, 1267, 272, 21, 55] ∧ prices.Nodup := by
  have himage : parseImageId "17438" = .ok 17438 := by decide +kernel
  have hhardware : parseHardwareId "1921,1267,272" = .ok [1921, 1267, 272] := by decide +kernel
  obtain ⟨prices, hprices, hnodup, -⟩ :=
    orderPrices_lists_each_once himage hhardware none [21, 272, 55, 21]
  refine ⟨himage, hhardware, prices, hprices, ?_, hnodup⟩
  rw [orderPrices_eq_ok himage hhardware] at hprices
  exact (Except.ok.inj hprices).symm

end Candidates

end Provisioning
