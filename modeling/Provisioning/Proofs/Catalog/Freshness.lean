import Provisioning.Proofs.Catalog.Provenance

/-!
# How old a package may be

A caller is answered with a package that its own refresh brought, or with the
kept one.  The kept one was taken over less than the time to live ago, from the
latest refresh that brought anything (`Served`).  In the other direction a fresh
package is served to everyone who comes in, without a call to the vendor.

A refresh is complete when its first caller goes on with its outcome; that is the
time that the cache remembers.  A refresh runs inside its callers, so its landing
and the going on of a caller are one to the clock.  `Prompt` says so of a run, and
then the remembered time is the time of the landing too.
-/

namespace Provisioning

namespace SharedCatalog

variable {setup : CatalogSetup} {run earlier later : List Transition} {t : Transition}
  {s s' : SharedCatalog} {generation keptAt : Nat} {package : ProductPackage}

/-! ## When a refresh landed -/

/-- The refresh of a generation lands. -/
def Transition.Lands (t : Transition) (generation : Nat) (outcome : RefreshOutcome) : Prop :=
  t.move = .fly generation ∧ t.after.flight? generation = some (.landed outcome)

/-- The refresh of a generation landed at this time of a run. -/
def LandedAt (run : List Transition) (generation time : Nat) : Prop :=
  ∃ t ∈ run, (∃ outcome, t.Lands generation outcome) ∧ t.before.now = time

/-- No time passes between the landing of a refresh and the first caller who goes
on with its outcome. -/
def Prompt (run : List Transition) : Prop :=
  ∀ t ∈ run, ∀ ms, t.move = .pass ms → ∀ generation outcome,
    t.before.flight? generation = some (.landed outcome) →
      t.before.cache.inFlight ≠ some (generation, ())

theorem LandedAt.append {time : Nat} (h : LandedAt run generation time) (more : List Transition) :
    LandedAt (run ++ more) generation time := by
  obtain ⟨t, ht, landing⟩ := h
  exact ⟨t, List.mem_append_left _ ht, landing⟩

/-- A refresh that has landed and is still in the slot landed just now. -/
theorem Unfolds.landedAt_of_slot {outcome : RefreshOutcome} (h : Unfolds setup run s)
    (prompt : Prompt run) (slot : s.cache.inFlight = some (generation, ()))
    (landed : s.flight? generation = some (.landed outcome)) :
    LandedAt run generation s.now := by
  induction h with
  | start now => cases slot
  | @move run s unfolds move s' step ih =>
    have prompt' : Prompt run := fun t ht => prompt t (List.mem_append_left _ ht)
    have same : s.cache.inFlight = some (generation, ()) →
        s.flight? generation = some (.landed outcome) →
          LandedAt (run ++ [⟨s, move, s'⟩]) generation s.now :=
      fun slot landed => (ih prompt' slot landed).append _
    cases step with
    | arrive caller new =>
      rcases arrive_cases setup s caller with ⟨_, -, heq⟩ | ⟨_, -, heq⟩ | ⟨-, -, heq⟩
      · rw [heq] at slot landed ⊢
        rw [heq] at same
        exact same slot landed
      · rw [heq] at slot landed ⊢
        rw [heq] at same
        exact same slot landed
      · rw [heq] at slot landed
        cases slot
        have launched : (s.launch setup).flight? (s.cache.generation + 1) = _ := landed
        rw [flight?_launch, if_pos rfl] at launched
        cases launched
    | fly g flight flight' flying step =>
      obtain ⟨outcomes, hcache⟩ := s.cache_fly g flight'
      rw [hcache] at slot
      by_cases hg : generation = g
      · subst hg
        exact ⟨_, List.mem_append_right _ (List.mem_singleton_self _), ⟨outcome, rfl, landed⟩, rfl⟩
      · rw [flight?_fly, if_neg hg] at landed
        exact same slot landed
    | resume caller g outcome' waiting ended =>
      by_cases hslot : s.cache.inFlight = some (g, ())
      · rw [cache_resume_of_slot hslot] at slot
        cases slot
      · rw [cache_resume_of_ne hslot] at slot
        exact same slot landed
    | invalidate => exact same slot landed
    | pass ms =>
      exact absurd slot
        (prompt _ (List.mem_append_right _ (List.mem_singleton_self _)) ms rfl generation outcome
          landed)

/-! ## The refresh behind the kept package -/

/-- No refresh brought a package after the one that is kept, but perhaps the one
that is in the slot. -/
theorem Unfolds.le_of_latest {g : Nat} {p : ProductPackage} (h : Unfolds setup run s)
    (latest : Latest run generation package keptAt)
    (landed : s.flight? g = some (.landed (.ok p))) :
    g ≤ generation ∨ s.cache.inFlight = some (g, ()) := by
  induction h with
  | start now => cases landed
  | @move run s unfolds move s' step ih =>
    rcases latest_concat.mp latest with ⟨stores, -⟩ | ⟨before, remembers, idle⟩
    · obtain ⟨⟨caller, hmove, waiting⟩, slot⟩ := stores.1
      obtain ⟨outcome, -, heq⟩ := resume_step unfolds.sound step hmove waiting
      have hle := unfolds.sound.numbered g _ (heq ▸ landed : s.flight? g = _)
      have newest := (unfolds.sound.slot generation slot).1
      exact .inl (by omega)
    · cases step with
      | arrive caller new =>
        rcases arrive_cases setup s caller with ⟨_, -, heq⟩ | ⟨_, -, heq⟩ | ⟨free, -, heq⟩
        · rw [heq] at landed ⊢
          exact ih before landed
        · rw [heq] at landed ⊢
          exact ih before landed
        · rw [heq] at landed
          have launched : (s.launch setup).flight? g = _ := landed
          rw [flight?_launch] at launched
          split at launched
          · cases launched
          · rcases ih before launched with older | slot
            · exact .inl older
            · rw [free] at slot
              cases slot
      | fly g' flight flight' flying step =>
        obtain ⟨outcomes, hcache⟩ := s.cache_fly g' flight'
        rw [hcache]
        rw [flight?_fly] at landed
        split at landed
        · rename_i hg
          rw [hg]
          exact .inr (unfolds.sound.running g' ⟨flight, flying, step.airborne⟩)
        · exact ih before landed
      | resume caller g' outcome waiting ended =>
        rcases ih before landed with older | slot
        · exact .inl older
        · by_cases hg : g' = g
          · -- its package would be kept now
            subst hg
            exact absurd ⟨⟨⟨caller, rfl, waiting⟩, slot⟩, landed⟩ (idle g' p)
          · rw [cache_resume_of_ne]
            · exact .inr slot
            · rw [slot]
              exact fun heq => hg (congrArg Prod.fst (Option.some.inj heq)).symm
      | invalidate => exact absurd rfl remembers
      | pass ms => exact ih before landed

theorem now_step {move : CatalogMove} (step : Step setup s move s') : s.now ≤ s'.now := by
  cases step with
  | pass ms => exact Nat.le_add_right _ _
  | _ => exact Nat.le_refl _

/-- A package was not kept in the future. -/
theorem Unfolds.kept_past (h : Unfolds setup run s)
    (latest : Latest run generation package keptAt) : keptAt ≤ s.now := by
  obtain ⟨earlier, t, later, rfl, -, rfl, -⟩ := latest
  exact h.lasts (fun _ _ _ _ step hle => Nat.le_trans hle (now_step step)) t (by simp)
    (now_step h.split.2)

/-- What is known of a package when it is served from the cache: it was kept last
and not forgotten since, less than the time to live ago; it is what its refresh
was given, and no later refresh has brought one. -/
structure Served (setup : CatalogSetup) (run : List Transition) (s : SharedCatalog)
    (generation : Nat) (package : ProductPackage) (keptAt : Nat) : Prop where
  latest : Latest run generation package keptAt
  young : s.now < keptAt + setup.ttlMs
  fetched : Fetched setup run generation package
  newest : ∀ g p, s.flight? g = some (.landed (.ok p)) → g ≤ generation
  landedAt : Prompt run → LandedAt run generation keptAt

theorem Unfolds.served_of_fresh (h : Unfolds setup run s)
    (fresh : s.cache.fresh? setup.ttlMs s.now = some package) :
    ∃ generation keptAt, Served setup run s generation package keptAt := by
  obtain ⟨generation, keptAt, latest, age⟩ := h.latest_of_fresh fresh
  have free : s.cache.inFlight = none := by
    by_contra taken
    rw [h.sound.taken taken] at fresh
    cases fresh
  refine ⟨generation, keptAt, latest, by omega, h.fetched (h.landed_of_latest latest), ?_, ?_⟩
  · intro g p landed
    rcases h.le_of_latest latest landed with older | slot
    · exact older
    · rw [free] at slot
      cases slot
  · intro prompt
    obtain ⟨earlier, t, later, rfl, stores, hnow, -⟩ := latest
    have prompt' : Prompt earlier := fun t ht => prompt t (List.mem_append_left _ ht)
    rw [← hnow]
    exact (h.split.1.landedAt_of_slot prompt' stores.1.2 stores.2).append _

/-- Without a time to live nobody is answered from the cache. -/
theorem Unfolds.not_hit (h : Unfolds setup run s) (noTime : setup.ttlMs = 0) (caller : Nat)
    (package : ProductPackage) : s.caller? caller ≠ some (.hit package) := by
  induction h with
  | start now => rintro ⟨⟩
  | @move run s unfolds move s' step ih =>
    have stale : s.cache.fresh? setup.ttlMs s.now = none := by
      rw [noTime]
      unfold CatalogCache.fresh?
      split
      · exact if_neg (Nat.not_lt_zero _)
      · rfl
    cases step with
    | arrive c new =>
      have others : ∀ g, (s.callers.put c (.waiting g)).find? caller ≠ some (.hit package) := by
        intro g
        rw [Lookup.find?_put]
        split
        · rintro ⟨⟩
        · exact ih
      rcases arrive_cases setup s c with ⟨p, fresh, -⟩ | ⟨_, -, heq⟩ | ⟨-, -, heq⟩
      · rw [stale] at fresh
        cases fresh
      · exact heq ▸ others _
      · exact heq ▸ others _
    | fly g flight flight' flying step => exact ih
    | resume c g outcome waiting ended =>
      rw [caller?_resume]
      split
      · rintro ⟨⟩
      · exact ih
    | invalidate => exact ih
    | pass ms => exact ih

/-! ## A package that stays available -/

/-- What every transition after `t` preserves holds at the end of a run if it
held after `t`. -/
theorem Unfolds.lasts_after {P : SharedCatalog → Prop}
    (h : Unfolds setup (earlier ++ t :: later) s)
    (preserved : ∀ t' ∈ later, t'.before.Sound setup → Step setup t'.before t'.move t'.after →
      P t'.before → P t'.after) (start : P t.after) : P s := by
  generalize hrun : earlier ++ t :: later = run at h
  induction h generalizing later with
  | start now => simp at hrun
  | @move run s unfolds move s' step ih =>
    rcases List.eq_nil_or_concat later with rfl | ⟨later, last, rfl⟩
    · rw [List.singleton_inj.mp (List.append_inj' hrun rfl).2] at start
      exact start
    · rw [List.concat_eq_append] at hrun preserved
      rw [← List.cons_append, ← List.append_assoc] at hrun
      obtain ⟨hrun, hlast⟩ := List.append_inj' hrun rfl
      have hlast := List.singleton_inj.mp hlast
      have before : P s :=
        ih (fun t' ht' => preserved t' (List.mem_append_left _ ht')) hrun
      have kept := preserved last (by simp)
      rw [hlast] at kept
      exact kept unfolds.sound step before

/-- A refresh that landed with the package is in the slot, or the package is kept
and no other is about to be. -/
def Available (s : SharedCatalog) (generation : Nat) (package : ProductPackage) (since : Nat) :
    Prop :=
  since ≤ s.now ∧
    (s.cache.inFlight = some (generation, ()) ∧
        s.flight? generation = some (.landed (.ok package)) ∨
      (∃ keptAt, since ≤ keptAt ∧ s.cache.kept = some (package, keptAt)) ∧
        ∀ g, s.cache.inFlight = some (g, ()) → ∀ p, s.flight? g ≠ some (.landed (.ok p)))

/-- A package stays available until it is forgotten or another one is brought. -/
theorem Available.step {move : CatalogMove} {since : Nat} (h : s.Available generation package since)
    (sound : s.Sound setup) (step : Step setup s move s')
    (remembers : ¬Transition.Forgets ⟨s, move, s'⟩)
    (alone : ∀ g p, ¬Transition.Lands ⟨s, move, s'⟩ g (.ok p)) :
    s'.Available generation package since := by
  obtain ⟨hnow, h⟩ := h
  cases step with
  | arrive caller new =>
    rcases arrive_cases setup s caller with ⟨_, -, heq⟩ | ⟨_, -, heq⟩ | ⟨free, -, heq⟩
    · rw [heq]
      exact ⟨hnow, h⟩
    · rw [heq]
      exact ⟨hnow, h⟩
    · rw [heq]
      rcases h with ⟨slot, -⟩ | ⟨kept, -⟩
      · rw [free] at slot
        cases slot
      · refine ⟨hnow, .inr ⟨kept, ?_⟩⟩
        rintro g ⟨⟩ p landed
        have launched : (s.launch setup).flight? (s.cache.generation + 1) = _ := landed
        rw [flight?_launch, if_pos rfl] at launched
        cases launched
  | fly g flight flight' flying step =>
    obtain ⟨outcomes, hcache⟩ := s.cache_fly g flight'
    refine ⟨hnow, ?_⟩
    rw [hcache]
    rcases h with ⟨slot, landed⟩ | ⟨kept, others⟩
    · exact .inl ⟨slot, landed_step sound (.fly g flight flight' flying step) landed⟩
    · refine .inr ⟨kept, fun g' slot p landed => ?_⟩
      by_cases hg : g' = g
      · rw [hg] at landed
        exact alone g p ⟨rfl, landed⟩
      · rw [flight?_fly, if_neg hg] at landed
        exact others g' slot p landed
  | resume caller g outcome waiting ended =>
    have landed' := (sound.outcomes g outcome).mp ended
    refine ⟨hnow, ?_⟩
    by_cases hslot : s.cache.inFlight = some (g, ())
    · rw [cache_resume_of_slot hslot]
      refine .inr ⟨?_, nofun⟩
      rcases h with ⟨slot, landed⟩ | ⟨kept, others⟩
      · -- its first caller goes on: the package is kept from now on
        cases hslot.symm.trans slot
        cases landed'.symm.trans landed
        exact ⟨s.now, hnow, rfl⟩
      · cases outcome with
        | ok p => exact absurd landed' (others g hslot p)
        | error cause => exact kept
    · rw [cache_resume_of_ne hslot]
      exact h
  | invalidate => exact absurd rfl remembers
  | pass ms => exact ⟨Nat.le_add_right_of_le hnow, h⟩

/-- Whoever comes in while an available package is young enough gets it without a
call to the vendor. -/
theorem Available.arrive {since : Nat} (h : s.Available generation package since)
    (sound : s.Sound setup) (young : s.now < since + setup.ttlMs) (caller : Nat) :
    s.arrive setup caller = { s with callers := s.callers.put caller (.hit package) } ∨
      s.arrive setup caller = { s with callers := s.callers.put caller (.waiting generation) } ∧
        s.cache.outcomes.find? generation = some (.ok package) := by
  obtain ⟨hnow, ⟨slot, landed⟩ | ⟨⟨keptAt, hle, hkept⟩, -⟩⟩ := h
  · have stale := sound.taken (by rw [slot]; exact Option.some_ne_none _)
    exact .inr ⟨arrive_of_taken stale slot caller, (sound.outcomes _ _).mpr landed⟩
  · refine .inl (arrive_of_fresh ?_ caller)
    simp only [CatalogCache.fresh?, hkept]
    exact if_pos (by omega)

/-- A refresh that lands makes its package available. -/
theorem Unfolds.available_of_lands (h : Unfolds setup (earlier ++ t :: later) s)
    (lands : t.Lands generation (.ok package)) :
    t.after.Available generation package t.before.now := by
  obtain ⟨unfolds, step⟩ := h.split
  obtain ⟨flies, landed⟩ := lands
  rw [flies] at step
  generalize t.after = after at step landed ⊢
  cases step with
  | fly _ flight flight' flying step =>
    obtain ⟨outcomes, hcache⟩ := t.before.cache_fly generation flight'
    refine ⟨Nat.le_refl _, .inl ⟨?_, landed⟩⟩
    rw [hcache]
    exact unfolds.sound.running generation ⟨flight, flying, step.airborne⟩

/-! ## The theorem -/

/-- What is promised of the age of packages in a run.

* A caller who came in with `t` and is answered with a package got it from the
  refresh that it waited for, which was in the slot or is new (`waited`), or from
  the cache (`kept`).  In both cases it is what the vendor told that refresh.
* Without a time to live nobody is answered from the cache (`expired`).
* Conversely, whoever comes in soon enough after the latest package was brought,
  or was kept, calls nobody and gets it (`brought`, `available`). -/
structure Freshness (setup : CatalogSetup) (run : List Transition) (s : SharedCatalog) :
    Prop where
  waited : ∀ earlier t later caller generation package, run = earlier ++ t :: later →
    t.move = .arrive caller → t.after.caller? caller = some (.waiting generation) →
    s.Returns caller package →
    (t.before.cache.inFlight = some (generation, ()) ∨
        generation = t.before.cache.generation + 1) ∧
      s.caller? caller = some (.served generation (.ok package)) ∧
      Fetched setup run generation package
  kept : ∀ earlier t later caller package, run = earlier ++ t :: later →
    t.move = .arrive caller → s.Returns caller package →
    (∀ generation, t.after.caller? caller ≠ some (.waiting generation)) →
    t.after.caller? caller = some (.hit package) ∧
      ∃ generation keptAt, Served setup earlier t.before generation package keptAt
  expired : setup.ttlMs = 0 → ∀ caller package, s.caller? caller ≠ some (.hit package)
  brought : ∀ earlier t later generation package, run = earlier ++ t :: later →
    t.Lands generation (.ok package) →
    (∀ t' ∈ later, ¬t'.Forgets ∧ ∀ g p, ¬t'.Lands g (.ok p)) →
    s.now < t.before.now + setup.ttlMs → ∀ caller,
      s.arrive setup caller = { s with callers := s.callers.put caller (.hit package) } ∨
        s.arrive setup caller = { s with callers := s.callers.put caller (.waiting generation) } ∧
          s.cache.outcomes.find? generation = some (.ok package)
  available : ∀ generation package keptAt, Latest run generation package keptAt →
    s.now < keptAt + setup.ttlMs → ∀ caller,
      s.arrive setup caller = { s with callers := s.callers.put caller (.hit package) }

/-- No caller gets a package that is too old, and nobody asks the vendor for one
that is not. -/
theorem packages_are_fresh (h : Unfolds setup run s) : Freshness setup run s where
  waited earlier t later caller generation package hrun arrives waits returned := by
    rw [hrun] at h ⊢
    obtain ⟨generation', ⟨hit, -⟩ | ⟨waits', served⟩⟩ := h.answeredBy arrives returned
    · cases hit.symm.trans waits
    · cases waits'.symm.trans waits
      refine ⟨?_, served, h.fetched (h.sound.served caller generation _ served).1⟩
      rcases arrived_step h.split.2 arrives with ⟨_, hit, -⟩ | ⟨_, waits', joins⟩
      · cases hit.symm.trans waits
      · cases waits'.symm.trans waits
        exact joins
  kept earlier t later caller package hrun arrives returned answered := by
    rw [hrun] at h
    obtain ⟨generation, ⟨hit, -⟩ | ⟨waits, -⟩⟩ := h.answeredBy arrives returned
    · refine ⟨hit, ?_⟩
      rcases arrived_step h.split.2 arrives with ⟨_, hit', fresh⟩ | ⟨_, waits, -⟩
      · cases hit'.symm.trans hit
        exact h.split.1.served_of_fresh fresh
      · exact absurd waits (answered _)
    · exact absurd waits (answered _)
  expired := h.not_hit
  brought earlier t later generation package hrun lands quiet young := by
    rw [hrun] at h
    have available : s.Available generation package t.before.now := by
      refine h.lasts_after (P := fun s => s.Available generation package t.before.now) ?_
        (h.available_of_lands lands)
      exact fun t' ht' sound step available =>
        available.step sound step (quiet t' ht').1 (quiet t' ht').2
    exact available.arrive h.sound young
  available generation package keptAt latest young := by
    refine fun caller => arrive_of_fresh ?_ caller
    simp only [CatalogCache.fresh?, h.kept_iff.mpr ⟨generation, latest⟩]
    have past := h.kept_past latest
    exact if_pos (by omega)

/-- The first caller waits for a refresh that brings a package, and a second one
who comes in at once is answered with it. -/
theorem packages_are_fresh_for_two :
    let setup : CatalogSetup := ⟨"Bare Metal Instance", ⟨10000, 100, 1000⟩, 3600000⟩
    let package := Demo.catalog .bareMetal
    ∃ run s, Unfolds setup run s ∧ s.Returns 1 package ∧ s.caller? 2 = some (.hit package) ∧
      Freshness setup run s := by
  intro setup package
  let unused : SharedCatalog := { now := 0 }
  let entered := unused.arrive setup 1
  have alone : Unfolds setup [⟨unused, .arrive 1, entered⟩] entered :=
    .move (.start 0) (.arrive 1) entered (.arrive 1 rfl)
  have started : entered.flight? 1 = some (takeOff setup) := rfl
  have waiting : entered.caller? 1 = some (.waiting 1) := rfl
  obtain ⟨more, settled, unfolds, latest, departure⟩ :=
    alone.kept started (takeOff_finds setup 0 ⟨package.id, package.name⟩ package) waiting
  have new : settled.caller? 2 = none := departure.others 2 (by decide)
  let final := settled.arrive setup 2
  have came := Unfolds.move unfolds (.arrive 2) final (.arrive 2 new)
  have young : settled.now < entered.now + setup.ttlMs := by
    rw [departure.now]
    decide
  have heq := (packages_are_fresh unfolds).available 1 package entered.now latest young 2
  have callers : ∀ c, final.caller? c = if c = 2 then some (.hit package) else settled.caller? c :=
    fun c => (congrArg (caller? · c) heq).trans (Lookup.find?_put _ _ _ _)
  refine ⟨_, final, came, .inr ⟨1, ?_⟩, ?_, packages_are_fresh came⟩
  · rw [callers, if_neg (by decide)]
    exact departure.served
  · rw [callers, if_pos rfl]

end SharedCatalog

end Provisioning
