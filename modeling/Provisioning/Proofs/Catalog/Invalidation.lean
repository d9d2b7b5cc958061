import Provisioning.Catalog.Demo
import Provisioning.Proofs.Catalog.Provenance

/-!
# After the package is forgotten

Forgetting the kept package takes it out of the cache, and out of the hands of
everyone who comes in later: whoever is answered with a package then is answered
with one that was not kept at that moment.  It leaves the refresh under way
alone.  Callers still join that refresh, and its package is still kept when its
first caller goes on.  So later callers are all answered with packages whose
refresh began later exactly if no refresh is under way (`Invalidation`).
-/

namespace Provisioning

namespace SharedCatalog

variable {setup : CatalogSetup} {run earlier between later : List Transition}
  {t t' : Transition} {s : SharedCatalog} {generation caller : Nat} {package : ProductPackage}

/-- What is kept after the package was forgotten was kept since then. -/
theorem stored_since {keptAt : Nat} (forgets : t.Forgets)
    (latest : Latest (earlier ++ t :: between) generation package keptAt) :
    ∃ middle stored rest, between = middle ++ stored :: rest ∧
      stored.Stores generation package := by
  induction between using List.reverseRecOn with
  | nil =>
    rcases latest_concat.mp latest with ⟨stores, -⟩ | ⟨-, remembers, -⟩
    · obtain ⟨caller, resumes⟩ := stores.move
      cases resumes.symm.trans forgets
    · exact absurd forgets remembers
  | append_singleton between last ih =>
    rw [← List.cons_append, ← List.append_assoc] at latest
    rcases latest_concat.mp latest with ⟨stores, -⟩ | ⟨latest, -⟩
    · exact ⟨between, last, [], rfl, stores⟩
    · obtain ⟨middle, stored, rest, rfl, stores⟩ := ih latest
      exact ⟨middle, stored, rest ++ [last], by simp, stores⟩

/-- A refresh that the slot is past stays so. -/
theorem Unfolds.past_later (h : Unfolds setup (earlier ++ t :: (between ++ t' :: later)) s)
    (past : t.before.Past generation) : t'.before.Past generation := by
  have hrun : earlier ++ t :: (between ++ t' :: later) =
      (earlier ++ t :: between) ++ t' :: later := by simp
  rw [hrun] at h
  have unfolds := h.split.1
  have mem : t ∈ earlier ++ t :: between := by simp
  exact unfolds.lasts (fun _ _ _ _ step past => past_step step past) t mem
    (past_step (unfolds.transition t mem).2 past)

/-- A refresh that answers a caller who comes in after the package was forgotten
was started after that, or was in the slot then. -/
theorem Unfolds.started_or_underway
    (h : Unfolds setup (earlier ++ t :: (between ++ t' :: later)) s) (forgets : t.Forgets)
    (arrives : t'.move = .arrive caller)
    (answered : AnsweredBy (earlier ++ t :: between) t' s caller generation package) :
    t.before.flight? generation = none ∨ t.before.cache.inFlight = some (generation, ()) := by
  by_contra outside
  obtain ⟨started, slot⟩ := not_or.mp outside
  obtain ⟨flight, started⟩ := Option.ne_none_iff_exists'.mp started
  have past : t.before.Past generation := ⟨h.split.1.sound.numbered generation flight started, slot⟩
  rcases answered with ⟨-, keptAt, latest⟩ | ⟨waits, -⟩
  · obtain ⟨middle, stored, rest, rfl, stores⟩ := stored_since forgets latest
    have hbetween : middle ++ stored :: rest ++ t' :: later =
        middle ++ stored :: (rest ++ t' :: later) := by simp
    rw [hbetween] at h
    exact (h.past_later past).2 stores.1.2
  · have past' := h.past_later past
    have hrun : earlier ++ t :: (between ++ t' :: later) =
        (earlier ++ t :: between) ++ t' :: later := by simp
    rw [hrun] at h
    rcases arrived_step h.split.2 arrives with ⟨_, hit, -⟩ | ⟨g, waits', joins⟩
    · cases hit.symm.trans waits
    · cases waits'.symm.trans waits
      rcases joins with joins | new
      · exact past'.2 joins
      · have hle := past'.1
        omega

/-- A refresh in the slot is joined also when the package was forgotten. -/
theorem arrive_invalidated (slot : s.cache.inFlight = some (generation, ())) (caller : Nat) :
    let forgotten : SharedCatalog := { s with cache := s.cache.invalidate }
    forgotten.arrive setup caller =
      { forgotten with callers := s.callers.put caller (.waiting generation) } :=
  arrive_of_taken (s := { s with cache := s.cache.invalidate }) rfl slot caller

/-! ## The theorem -/

/-- What is promised of callers who come in with `t'` after the kept package was
forgotten with `t`, and are answered with a package.

* Some refresh brought it (`answered`).
* No package is served that was kept when `t` happened: the refresh was started
  after `t` or was in the slot (`since`), and so after `t` if the slot was free
  (`afresh`).
* A refresh in the slot goes on to be joined (`joins`). -/
structure Invalidation (setup : CatalogSetup) (run : List Transition) (s : SharedCatalog) :
    Prop where
  answered : ∀ earlier t between t' later caller package,
    run = earlier ++ t :: (between ++ t' :: later) → t.Forgets → t'.move = .arrive caller →
    s.Returns caller package →
    ∃ generation, AnsweredBy (earlier ++ t :: between) t' s caller generation package
  since : ∀ earlier t between t' later caller generation package,
    run = earlier ++ t :: (between ++ t' :: later) → t.Forgets → t'.move = .arrive caller →
    AnsweredBy (earlier ++ t :: between) t' s caller generation package →
    t.before.flight? generation = none ∨ t.before.cache.inFlight = some (generation, ())
  afresh : ∀ earlier t between t' later caller generation package,
    run = earlier ++ t :: (between ++ t' :: later) → t.Forgets → t'.move = .arrive caller →
    AnsweredBy (earlier ++ t :: between) t' s caller generation package →
    t.before.cache.inFlight = none → t.before.flight? generation = none
  joins : ∀ t ∈ run, t.Forgets → ∀ generation, t.before.cache.inFlight = some (generation, ()) →
    ∀ caller, t.after.arrive setup caller =
      { t.after with callers := t.after.callers.put caller (.waiting generation) }

/-- What was kept when the package was forgotten is not served any more, whatever
callers, refreshes and the clock do.  A refresh that was under way still is. -/
theorem forgotten_is_not_served (h : Unfolds setup run s) : Invalidation setup run s where
  answered earlier t between t' later caller package hrun _ arrives returned := by
    have hsplit : run = (earlier ++ t :: between) ++ t' :: later := by simp [hrun]
    rw [hsplit] at h
    exact h.answeredBy arrives returned
  since earlier t between t' later caller generation package hrun forgets arrives answered := by
    rw [hrun] at h
    exact h.started_or_underway forgets arrives answered
  afresh earlier t between t' later caller generation package hrun forgets arrives answered free := by
    rw [hrun] at h
    rcases h.started_or_underway forgets arrives answered with started | slot
    · exact started
    · rw [free] at slot
      cases slot
  joins t ht forgets generation slot caller := by
    obtain ⟨before, move, after⟩ := t
    obtain rfl : move = .invalidate := forgets
    have step : Step setup before .invalidate after := (h.transition _ ht).2
    cases step
    exact arrive_invalidated slot caller

/-- A package is kept and forgotten, and the next caller is answered with the one that
a new refresh brings. -/
theorem forgotten_is_not_served_again :
    let setup : CatalogSetup := ⟨"Bare Metal Instance", ⟨10000, 100, 1000⟩, 3600000⟩
    let old := Demo.catalog .bareMetal
    let package : ProductPackage := { old with id := old.id + 1 }
    ∃ run s, Unfolds setup run s ∧ Invalidation setup run s ∧
      ∃ earlier t between t' later, run = earlier ++ t :: (between ++ t' :: later) ∧
        t.Forgets ∧ t.before.cache.kept = some (old, 0) ∧ s.Returns 1 old ∧
          t'.move = .arrive 2 ∧ AnsweredBy (earlier ++ t :: between) t' s 2 2 package := by
  intro setup old package
  let unused : SharedCatalog := { now := 0 }
  let entered := unused.arrive setup 1
  have alone : Unfolds setup [⟨unused, .arrive 1, entered⟩] entered :=
    .move (.start 0) (.arrive 1) entered (.arrive 1 rfl)
  have started : entered.flight? 1 = some (takeOff setup) := rfl
  have waits : entered.caller? 1 = some (.waiting 1) := rfl
  obtain ⟨more, settled, unfolds, latest, departure⟩ :=
    alone.kept started (takeOff_finds setup 0 ⟨old.id, old.name⟩ old) waits
  let forgotten : SharedCatalog := { settled with cache := settled.cache.invalidate }
  have invalidated := Unfolds.move unfolds .invalidate forgotten .invalidate
  let renewed : SharedCatalog := { forgotten.launch setup with
    callers := forgotten.callers.put 2 (.waiting (settled.cache.generation + 1)) }
  have enters : forgotten.arrive setup 2 = renewed :=
    arrive_of_free (s := forgotten) rfl departure.free 2
  have came : Unfolds setup _ renewed :=
    .move invalidated (.arrive 2) _ (enters ▸ .arrive 2 (departure.others 2 (by decide)))
  have number : settled.cache.generation + 1 = 2 := congrArg (· + 1) departure.latest
  have flying : renewed.flight? 2 = some (takeOff setup) :=
    (flight?_launch forgotten 2).trans (if_pos number.symm)
  have callers : ∀ c, renewed.caller? c =
      if c = 2 then some (.waiting (settled.cache.generation + 1)) else settled.caller? c :=
    fun c => Lookup.find?_put _ _ _ _
  rw [number] at callers
  obtain ⟨more', final, unfolds', -, departure'⟩ := came.kept flying
    (takeOff_finds setup renewed.now ⟨package.id, package.name⟩ package) (callers 2)
  have kept : settled.cache.kept = some (old, 0) := unfolds.kept_iff.mpr ⟨1, latest⟩
  have served : final.caller? 1 = some (.served 1 (.ok old)) :=
    ((departure'.others 1 (by decide)).trans (callers 1)).trans departure.served
  refine ⟨_, final, unfolds', forgotten_is_not_served unfolds',
    [⟨unused, .arrive 1, entered⟩] ++ more, ⟨settled, .invalidate, forgotten⟩, [],
    ⟨forgotten, .arrive 2, renewed⟩, more', ?_, rfl, kept, .inr ⟨1, served⟩, rfl,
    .inr ⟨callers 2, departure'.served⟩⟩
  simp

/-- A package that the vendor has given to a refresh, and that is forgotten before
the refresh ends, is kept all the same when it ends.  A caller who comes in after
that, while nothing is under way, is answered with it. -/
theorem stale_after_invalidation :
    let setup : CatalogSetup := ⟨"Bare Metal Instance", ⟨10000, 100, 1000⟩, 3600000⟩
    let package := Demo.catalog .bareMetal
    ∃ run s, Unfolds setup run s ∧
      ∃ earlier t between t' later, run = earlier ++ t :: (between ++ t' :: later) ∧
        t.Forgets ∧ t'.move = .arrive 2 ∧ t'.before.cache.inFlight = none ∧
          AnsweredBy (earlier ++ t :: between) t' s 2 1 package ∧
            t.before.flight? 1 = some (.ready (.done (.ok package))) := by
  intro setup package
  let unused : SharedCatalog := { now := 0 }
  let entered := unused.arrive setup 1
  have alone : Unfolds setup [⟨unused, .arrive 1, entered⟩] entered :=
    .move (.start 0) (.arrive 1) entered (.arrive 1 rfl)
  have started : entered.flight? 1 = some (takeOff setup) := rfl
  obtain ⟨flown, found, unfolds, -, flying, hnow, -, hcallers⟩ := alone.flown started
    (takeOff_finds setup 0 ⟨package.id, package.name⟩ package) nofun
  let forgotten : SharedCatalog := { found with cache := found.cache.invalidate }
  have invalidated := Unfolds.move unfolds .invalidate forgotten .invalidate
  have waiting : forgotten.caller? 1 = some (.waiting 1) :=
    congrArg (Lookup.find? · 1) hcallers
  obtain ⟨more, settled, unfolds', latest, departure⟩ := invalidated.kept flying .refl waiting
  have fresh : settled.cache.fresh? setup.ttlMs settled.now = some package := by
    have hkept := unfolds'.kept_iff.mpr ⟨1, latest⟩
    have htime : settled.now = forgotten.now := departure.now
    simp [CatalogCache.fresh?, hkept, htime, setup]
  have new : settled.caller? 2 = none :=
    (departure.others 2 (by decide)).trans (congrArg (Lookup.find? · 2) hcallers)
  let served := settled.arrive setup 2
  have hit : served.caller? 2 = some (.hit package) := by
    show (settled.arrive setup 2).caller? 2 = _
    rw [arrive_of_fresh fresh]
    exact (Lookup.find?_put _ _ _ _).trans (if_pos rfl)
  rw [List.append_assoc] at latest unfolds'
  exact ⟨_, served, .move unfolds' (.arrive 2) served (.arrive 2 new),
    [⟨unused, .arrive 1, entered⟩] ++ flown, ⟨found, .invalidate, forgotten⟩, more,
    ⟨settled, .arrive 2, served⟩, [], by simp, rfl, rfl, departure.free, .inl ⟨hit, _, latest⟩,
    flying⟩

end SharedCatalog

end Provisioning
