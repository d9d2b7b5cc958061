import Mathlib.Data.List.Induction
import Provisioning.Proofs.Catalog.SingleFlight
import Provisioning.Proofs.Workflow.Polling

/-!
# Where a package comes from

A package that a caller is answered with was brought by some refresh.  This
module follows it back through a run of a shared cache.

* What a refresh is told: `Heard` lists the answers that the vendor gave to one
  refresh in a run, and `Unfolds.fetched` says that the package that it landed
  with is the last of them, for the id that the answer before it named.
* What is kept: `Latest` is the refresh whose package was kept last and not
  forgotten since, and `Unfolds.kept_iff` says that its package is the kept one.
* How callers come in: `Unfolds.answeredBy` finds the refresh behind an answer.
-/

namespace Provisioning

/-! ## What a refresh is told -/

/-- A call with the answer that the vendor gave to it. -/
structure Told where
  call : Call
  answer : call.Answer

/-- The surroundings that remember what was told, and promise nothing. -/
def Surroundings.telling : Surroundings (List Told) where
  Allows _ _ := True
  Answers told call answer told' := told' = told ++ [⟨call, answer⟩]
  Passes told _ told' := told' = told
  Shows _ _ := True

/-- The last answer is the package, for the id that the name was answered with
just before. -/
def Brought (name : String) (told : List Told) (package : ProductPackage) : Prop :=
  ∃ before ref, told = before ++
    [⟨.activePackageByName name, .ok ref⟩, ⟨.packageDetail ref.id, .ok package⟩]

theorem assures_fetchPackage_telling (name : String) (told : List Told) :
    (fetchPackage name).Assures .telling (fun package told' => Brought name told' package)
      (fun _ _ => True) told := by
  simp only [fetchPackage, Procedure.assures_bind]
  refine (Procedure.assures_request _ _ _).mpr ⟨trivial, ?_, fun _ _ _ => trivial⟩
  rintro ref _ rfl
  refine (Procedure.assures_request _ _ _).mpr ⟨trivial, ?_, fun _ _ _ => trivial⟩
  rintro package _ rfl
  exact ⟨told, ref, by simp⟩

/-- What is left of a refresh ends with the package that it is told last, if it
ends with one. -/
def Workflow.TellsTruth (name : String) (rest : Workflow RefreshOutcome) (told : List Told) :
    Prop :=
  rest.Assures .telling
    (fun outcome told' => ∀ package, outcome = .ok package → Brought name told' package) told

theorem tellsTruth_refreshCatalog (name : String) (retry : StagePolicy) (told : List Told) :
    (refreshCatalog name retry).TellsTruth name told := by
  have fetched : (pollUntil retry () fun _ => do return ((), ← attemptFetch name)).Assures .telling
      (fun result told' => ∀ package, result.2 = some package → Brought name told' package)
      (fun _ _ => True) told := by
    refine assures_pollUntil_invariant _ (fun _ _ => True) ?_ (fun _ _ _ _ _ _ => trivial) ?_ _ _
      trivial
    case refine_2 =>
      rintro _ _ _ _ ⟨⟩
    intro _ told' _
    simp only [attemptFetch, Procedure.assures_bind, Procedure.assures_tryCatch,
      Procedure.assures_map, Procedure.assures_pure]
    refine (assures_fetchPackage_telling name told').mono ?_ fun cause _ _ => ?_
    · rintro package told'' brought _ ⟨⟩
      exact brought
    · split
      · exact trivial
      · exact trivial
  simp only [Workflow.TellsTruth, refreshCatalog, Workflow.assures_monadBind, Workflow.notify,
    Workflow.Assures]
  refine Workflow.Assures.mono fetched fun result told' h => ?_
  rcases result with cause | ⟨_, _ | package⟩
  · show Workflow.Assures .telling (if cause.isAuthorization = true then _ else _) _ told'
    split
    · rintro _ ⟨⟩
    · rintro _ ⟨⟩
  · rintro _ ⟨⟩
  · rintro _ ⟨⟩
    exact h package rfl

/-- A flight lands with the package that it is told last, if it lands with one. -/
def Flight.TellsTruth (name : String) : Flight → List Told → Prop
  | .ready rest, told => rest.TellsTruth name told
  | .calling call next, told => ∀ answer, (next answer).TellsTruth name (told ++ [⟨call, answer⟩])
  | .asleep _ rest, told => rest.TellsTruth name told
  | .landed outcome, told => ∀ package, outcome = .ok package → Brought name told package

/-- A flight that waits for no answer is told nothing by its next step. -/
theorem Flight.TellsTruth.step {name : String} {now : Nat} {flight flight' : Flight}
    {told : List Told} (h : flight.TellsTruth name told) (step : flight.Step now flight')
    (quiet : ∀ call next, flight ≠ .calling call next) : flight'.TellsTruth name told := by
  cases step with
  | call call next => exact fun answer => h.2 answer _ rfl
  | answer call next answer => exact absurd rfl (quiet call next)
  | pause ms rest => exact h told rfl
  | wake wakeAt rest due => exact h
  | clock next => exact h now trivial
  | report notice rest => exact h
  | land outcome => exact h

namespace SharedCatalog

variable {setup : CatalogSetup} {run earlier later : List Transition} {t : Transition}
  {s s' : SharedCatalog} {generation : Nat} {package : ProductPackage}

/-- What came before a transition of a run is a run as well. -/
theorem Unfolds.split (h : Unfolds setup (earlier ++ t :: later) s) :
    Unfolds setup earlier t.before ∧ Step setup t.before t.move t.after := by
  generalize hrun : earlier ++ t :: later = run at h
  induction h generalizing later with
  | start now => simp at hrun
  | @move run s unfolds move s' step ih =>
    rcases List.eq_nil_or_concat later with rfl | ⟨later, last, rfl⟩
    · obtain ⟨rfl, hlast⟩ := List.append_inj' hrun rfl
      rw [List.singleton_inj.mp hlast]
      exact ⟨unfolds, step⟩
    · rw [List.concat_eq_append, ← List.cons_append, ← List.append_assoc] at hrun
      exact ih (List.append_inj' hrun rfl).1

/-! ## The answers of a run -/

/-- The refresh of a generation goes on with this answer. -/
def Transition.Tells (t : Transition) (generation : Nat) (told : Told) : Prop :=
  t.move = .fly generation ∧ ∃ next,
    t.before.flight? generation = some (.calling told.call next) ∧
      t.after.flight? generation = some (.ready (next told.answer))

/-- The answers that the refresh of a generation was given in a run, in order. -/
inductive Heard (generation : Nat) : List Transition → List Told → Prop where
  | start : Heard generation [] []
  | quiet {run : List Transition} {told : List Told} (heard : Heard generation run told)
    (t : Transition) (quiet : ∀ answer, ¬t.Tells generation answer) :
    Heard generation (run ++ [t]) told
  | told {run : List Transition} {told : List Told} (heard : Heard generation run told)
    (t : Transition) (answer : Told) (tells : t.Tells generation answer) :
    Heard generation (run ++ [t]) (told ++ [answer])

theorem exists_heard (generation : Nat) (run : List Transition) :
    ∃ told, Heard generation run told := by
  induction run using List.reverseRecOn with
  | nil => exact ⟨[], .start⟩
  | append_singleton run t ih =>
    obtain ⟨told, heard⟩ := ih
    by_cases tells : ∃ answer, t.Tells generation answer
    · obtain ⟨answer, tells⟩ := tells
      exact ⟨_, heard.told t answer tells⟩
    · exact ⟨_, heard.quiet t fun answer h => tells ⟨answer, h⟩⟩

/-- The last transition of a run either told the refresh nothing, or its answer is
the last one. -/
theorem Heard.cases_concat {told : List Told} (h : Heard generation (run ++ [t]) told) :
    (Heard generation run told ∧ ∀ answer, ¬t.Tells generation answer) ∨
      ∃ told' answer, told = told' ++ [answer] ∧ Heard generation run told' ∧
        t.Tells generation answer := by
  generalize hrun : run ++ [t] = run' at h
  cases h with
  | start => simp at hrun
  | quiet heard t' quiet =>
    obtain ⟨rfl, ht⟩ := List.append_inj' hrun rfl
    rw [List.singleton_inj.mp ht]
    exact .inl ⟨heard, quiet⟩
  | told heard t' answer tells =>
    obtain ⟨rfl, ht⟩ := List.append_inj' hrun rfl
    rw [List.singleton_inj.mp ht]
    exact .inr ⟨_, answer, rfl, heard, tells⟩

/-- Only the refresh that moves is told something. -/
theorem not_tells_of_ne {move : CatalogMove} (h : move ≠ .fly generation) (answer : Told) :
    ¬Transition.Tells ⟨s, move, s'⟩ generation answer :=
  fun tells => h tells.1

/-- A refresh that was not started has heard nothing, and one that was started
tells the truth. -/
def Reports (setup : CatalogSetup) (run : List Transition) (s : SharedCatalog) (generation : Nat) :
    Prop :=
  ∀ told, Heard generation run told →
    match s.flight? generation with
    | none => told = []
    | some flight => flight.TellsTruth setup.packageName told

theorem Reports.quiet {move : CatalogMove} (h : Reports setup run s generation)
    (other : move ≠ .fly generation) (same : s'.flight? generation = s.flight? generation) :
    Reports setup (run ++ [⟨s, move, s'⟩]) s' generation := by
  intro told heard
  rcases heard.cases_concat with ⟨heard, -⟩ | ⟨_, answer, -, -, tells⟩
  · rw [same]
    exact h told heard
  · exact absurd tells (not_tells_of_ne other answer)

/-- A refresh that has just been started has heard nothing. -/
theorem Reports.launch {caller : Nat} (h : Reports setup run s generation)
    (new : s.flight? generation = none)
    (started : s'.flight? generation = some (takeOff setup)) :
    Reports setup (run ++ [⟨s, .arrive caller, s'⟩]) s' generation := by
  intro told heard
  rcases heard.cases_concat with ⟨heard, -⟩ | ⟨_, answer, -, -, tells⟩
  · have hnone := h told heard
    rw [new] at hnone
    rw [started, hnone]
    exact tellsTruth_refreshCatalog _ _ _
  · exact absurd tells (not_tells_of_ne (by nofun) answer)

/-- A refresh flies on, perhaps with an answer. -/
theorem Reports.fly {flight flight' : Flight} (h : Reports setup run s generation)
    (flying : s.flight? generation = some flight) (step : flight.Step s.now flight') :
    Reports setup (run ++ [⟨s, .fly generation, s.fly generation flight'⟩])
      (s.fly generation flight') generation := by
  have after : (s.fly generation flight').flight? generation = some flight' :=
    (flight?_fly s _ _ _).trans (if_pos rfl)
  intro told heard
  rw [after]
  rcases heard.cases_concat with ⟨heard, quiet⟩ | ⟨told', answer, rfl, heard, -, next, hbefore, hafter⟩
  · have truth := h told heard
    rw [flying] at truth
    refine truth.step step ?_
    rintro call next rfl
    cases step with
    | answer _ _ answer => exact quiet ⟨call, answer⟩ ⟨rfl, next, flying, after⟩
  · have truth := h told' heard
    rw [hbefore] at truth
    rw [after] at hafter
    cases hafter
    exact truth answer.answer

theorem Unfolds.reports (h : Unfolds setup run s) (generation : Nat) :
    Reports setup run s generation := by
  induction h with
  | start now =>
    intro told heard
    generalize hrun : ([] : List Transition) = run at heard
    cases heard with
    | start => rfl
    | quiet => simp at hrun
    | told => simp at hrun
  | @move run s unfolds move s' step ih =>
    cases step with
    | arrive caller new =>
      rcases arrive_cases setup s caller with ⟨_, -, heq⟩ | ⟨_, -, heq⟩ | ⟨-, -, heq⟩
      · exact ih.quiet (by nofun) (by rw [heq]; rfl)
      · exact ih.quiet (by nofun) (by rw [heq]; rfl)
      · have launched : (s.arrive setup caller).flight? generation =
            if generation = s.cache.generation + 1 then some (takeOff setup)
            else s.flight? generation := by
          rw [heq]
          exact flight?_launch s generation
        by_cases hlatest : generation = s.cache.generation + 1
        · rw [if_pos hlatest] at launched
          refine ih.launch ?_ launched
          cases hflight : s.flight? generation with
          | none => rfl
          | some flight =>
            have hle := unfolds.sound.numbered generation flight hflight
            omega
        · rw [if_neg hlatest] at launched
          exact ih.quiet (by nofun) launched
    | fly g flight flight' flying step =>
      by_cases hg : generation = g
      · subst hg
        exact ih.fly flying step
      · exact ih.quiet (fun heq => hg (CatalogMove.fly.inj heq).symm)
          ((flight?_fly s g generation flight').trans (if_neg hg))
    | resume caller g outcome waiting ended => exact ih.quiet (by nofun) rfl
    | invalidate => exact ih.quiet (by nofun) rfl
    | pass ms => exact ih.quiet (by nofun) rfl

/-- The package is what the vendor told the refresh of a generation last, for the
id that it had given under the configured name just before. -/
structure Fetched (setup : CatalogSetup) (run : List Transition) (generation : Nat)
    (package : ProductPackage) : Prop where
  heard : ∃ told, Heard generation run told
  brought : ∀ told, Heard generation run told → Brought setup.packageName told package

/-- A refresh lands with the package that it fetched. -/
theorem Unfolds.fetched (h : Unfolds setup run s)
    (landed : s.flight? generation = some (.landed (.ok package))) :
    Fetched setup run generation package where
  heard := exists_heard generation run
  brought told heard := by
    have truth := h.reports generation told heard
    rw [landed] at truth
    exact truth package rfl

/-! ## The kept package -/

/-- The first caller of a refresh leaves with its package, which is kept. -/
def Transition.Stores (t : Transition) (generation : Nat) (package : ProductPackage) : Prop :=
  t.Settles generation ∧ t.before.flight? generation = some (.landed (.ok package))

/-- The kept package is forgotten. -/
def Transition.Forgets (t : Transition) : Prop :=
  t.move = .invalidate

/-- The package that was kept last in a run, and not forgotten since: the refresh
that brought it, and when it was kept. -/
def Latest (run : List Transition) (generation : Nat) (package : ProductPackage) (keptAt : Nat) :
    Prop :=
  ∃ earlier t later, run = earlier ++ t :: later ∧ t.Stores generation package ∧
    t.before.now = keptAt ∧ ∀ t' ∈ later, ¬t'.Forgets ∧ ∀ g p, ¬t'.Stores g p

/-- The last transition of a run kept the package, or left the one that was kept
before alone. -/
theorem latest_concat {keptAt : Nat} :
    Latest (run ++ [t]) generation package keptAt ↔
      (t.Stores generation package ∧ t.before.now = keptAt) ∨
        Latest run generation package keptAt ∧ ¬t.Forgets ∧ ∀ g p, ¬t.Stores g p := by
  constructor
  · rintro ⟨earlier, t', later, hrun, stores, hnow, quiet⟩
    rcases List.eq_nil_or_concat later with rfl | ⟨later, last, rfl⟩
    · rw [List.singleton_inj.mp (List.append_inj' hrun rfl).2]
      exact .inl ⟨stores, hnow⟩
    · rw [List.concat_eq_append, ← List.cons_append, ← List.append_assoc] at hrun
      obtain ⟨hrun, hlast⟩ := List.append_inj' hrun rfl
      rw [List.singleton_inj.mp hlast]
      refine .inr ⟨⟨earlier, t', later, hrun, stores, hnow, ?_⟩, quiet last (by simp)⟩
      intro t'' ht''
      exact quiet t'' (by simp [ht''])
  · rintro (⟨stores, hnow⟩ | ⟨⟨earlier, t', later, rfl, stores, hnow, quiet⟩, last⟩)
    · exact ⟨run, t, [], rfl, stores, hnow, nofun⟩
    · refine ⟨earlier, t', later ++ [t], by simp, stores, hnow, ?_⟩
      intro t'' ht''
      rcases List.mem_append.mp ht'' with ht'' | ht''
      · exact quiet t'' ht''
      · rw [List.mem_singleton.mp ht'']
        exact last

theorem Transition.Stores.move {g : Nat} {p : ProductPackage} (h : t.Stores g p) :
    ∃ caller, t.move = .resume caller :=
  ⟨_, h.1.1.choose_spec.1⟩

/-- What a move does to the kept package. -/
theorem kept_step {move : CatalogMove} (sound : s.Sound setup) (step : Step setup s move s') :
    (Transition.Forgets ⟨s, move, s'⟩ ∧ s'.cache.kept = none) ∨
    (∃ g p, Transition.Stores ⟨s, move, s'⟩ g p ∧ s'.cache.kept = some (p, s.now)) ∨
    (¬Transition.Forgets ⟨s, move, s'⟩ ∧ (∀ g p, ¬Transition.Stores ⟨s, move, s'⟩ g p) ∧
      s'.cache.kept = s.cache.kept) := by
  by_cases forgets : move = .invalidate
  · subst forgets
    cases step
    exact .inl ⟨rfl, rfl⟩
  by_cases stores : ∃ g p, Transition.Stores ⟨s, move, s'⟩ g p
  · obtain ⟨g, p, ⟨⟨caller, hmove, waiting⟩, slot⟩, landed⟩ := stores
    obtain ⟨outcome, landed', heq⟩ := resume_step sound step hmove waiting
    obtain rfl : outcome = .ok p := by
      rw [landed] at landed'
      cases landed'
      rfl
    refine .inr (.inl ⟨g, p, ⟨⟨⟨caller, hmove, waiting⟩, slot⟩, landed⟩, ?_⟩)
    rw [heq, cache_resume_of_slot slot]
  · refine .inr (.inr ⟨forgets, fun g p h => stores ⟨g, p, h⟩, ?_⟩)
    by_contra changed
    rcases written_step sound step changed with ⟨hmove, -⟩ | ⟨g, p, settles, landed, -⟩
    · exact forgets hmove
    · exact stores ⟨g, p, settles, landed⟩

/-- The kept package is the one that was kept last and not forgotten since. -/
theorem Unfolds.kept_iff (h : Unfolds setup run s) {keptAt : Nat} :
    s.cache.kept = some (package, keptAt) ↔ ∃ generation, Latest run generation package keptAt := by
  induction h with
  | start now =>
    refine ⟨nofun, ?_⟩
    rintro ⟨generation, earlier, t, later, hrun, -⟩
    simp at hrun
  | @move run s unfolds move s' step ih =>
    simp only [latest_concat]
    rcases kept_step unfolds.sound step with
      ⟨forgets, hkept⟩ | ⟨g, p, stores, hkept⟩ | ⟨remembers, idle, hkept⟩
    · rw [hkept]
      refine ⟨nofun, ?_⟩
      rintro ⟨generation, ⟨stores, -⟩ | ⟨-, remembers, -⟩⟩
      · obtain ⟨caller, hmove⟩ := stores.move
        cases hmove.symm.trans forgets
      · exact absurd forgets remembers
    · rw [hkept]
      constructor
      · rintro ⟨⟩
        exact ⟨g, .inl ⟨stores, rfl⟩⟩
      · rintro ⟨generation, ⟨stores', rfl⟩ | ⟨-, -, idle⟩⟩
        · have hslot := stores.1.2.symm.trans stores'.1.2
          cases hslot
          have hlanded := stores.2.symm.trans stores'.2
          cases hlanded
          rfl
        · exact absurd stores (idle g p)
    · rw [hkept, ih]
      constructor
      · rintro ⟨generation, latest⟩
        exact ⟨generation, .inr ⟨latest, remembers, idle⟩⟩
      · rintro ⟨generation, ⟨stores, -⟩ | ⟨latest, -⟩⟩
        · exact absurd stores (idle _ _)
        · exact ⟨generation, latest⟩

/-- The refresh whose package was kept last had landed with it. -/
theorem Unfolds.landed_of_latest {keptAt : Nat} (h : Unfolds setup run s)
    (latest : Latest run generation package keptAt) :
    s.flight? generation = some (.landed (.ok package)) := by
  obtain ⟨earlier, t, later, rfl, stores, -, -⟩ := latest
  obtain ⟨before, step⟩ := h.split
  have landed := landed_step before.sound step stores.2
  exact h.lasts (fun _ _ _ sound step landed => landed_step sound step landed) t (by simp) landed

/-! ## How callers are answered -/

/-- The caller of this number was answered with the package. -/
def Returns (s : SharedCatalog) (caller : Nat) (package : ProductPackage) : Prop :=
  s.caller? caller = some (.hit package) ∨
    ∃ generation, s.caller? caller = some (.served generation (.ok package))

/-- The caller who came in with the transition `t`, after the run `earlier`, was
answered with what the refresh of a generation brought: with the package that was
kept then, or with the outcome of the refresh that it joined or started. -/
def AnsweredBy (earlier : List Transition) (t : Transition) (s : SharedCatalog)
    (caller generation : Nat) (package : ProductPackage) : Prop :=
  (t.after.caller? caller = some (.hit package) ∧
      ∃ keptAt, Latest earlier generation package keptAt) ∨
    t.after.caller? caller = some (.waiting generation) ∧
      s.caller? caller = some (.served generation (.ok package))

/-- A caller who got the kept package stays answered with it. -/
theorem hit_step {move : CatalogMove} {caller : Nat} (step : Step setup s move s')
    (h : s.caller? caller = some (.hit package)) : s'.caller? caller = some (.hit package) := by
  cases step with
  | arrive c new =>
    have hne : caller ≠ c := by
      rintro rfl
      rw [new] at h
      cases h
    exact ((Lookup.find?_put _ _ _ _).trans (if_neg hne)).trans h
  | fly g flight flight' flying step => exact h
  | resume c g outcome waiting ended =>
    have hne : caller ≠ c := by
      rintro rfl
      rw [waiting] at h
      cases h
    exact ((caller?_resume s c g caller outcome).trans (if_neg hne)).trans h
  | invalidate => exact h
  | pass ms => exact h

/-- A caller who comes in gets the kept package, which is fresh, or waits for the
refresh in the slot, or for a new one. -/
theorem arrived_step {move : CatalogMove} {caller : Nat} (step : Step setup s move s')
    (arrives : move = .arrive caller) :
    (∃ package, s'.caller? caller = some (.hit package) ∧
      s.cache.fresh? setup.ttlMs s.now = some package) ∨
    ∃ generation, s'.caller? caller = some (.waiting generation) ∧
      (s.cache.inFlight = some (generation, ()) ∨ generation = s.cache.generation + 1) := by
  have came : ∀ (callers : Lookup Nat Caller) (became : Caller),
      (callers.put caller became).find? caller = some became :=
    fun callers became => (Lookup.find?_put _ _ _ _).trans (if_pos rfl)
  subst arrives
  cases step with
  | arrive caller new =>
    rcases arrive_cases setup s caller with
      ⟨package, fresh, heq⟩ | ⟨generation, slot, heq⟩ | ⟨-, -, heq⟩
    · rw [heq]
      exact .inl ⟨package, came _ _, fresh⟩
    · rw [heq]
      exact .inr ⟨generation, came _ _, .inl slot⟩
    · rw [heq]
      exact .inr ⟨s.cache.generation + 1, came _ _, .inr rfl⟩

/-- The package that is fresh was kept last, and not longer ago than packages
are fresh. -/
theorem Unfolds.latest_of_fresh (h : Unfolds setup run s)
    (fresh : s.cache.fresh? setup.ttlMs s.now = some package) :
    ∃ generation keptAt, Latest run generation package keptAt ∧ s.now - keptAt < setup.ttlMs := by
  unfold CatalogCache.fresh? at fresh
  cases hkept : s.cache.kept with
  | none =>
    rw [hkept] at fresh
    cases fresh
  | some entry =>
    rw [hkept] at fresh
    dsimp only at fresh
    split at fresh
    · rename_i hage
      cases fresh
      obtain ⟨generation, latest⟩ := h.kept_iff.mp hkept
      exact ⟨generation, entry.2, latest, hage⟩
    · cases fresh

/-- Behind every package that a caller is answered with stands a refresh. -/
theorem Unfolds.answeredBy {caller : Nat} (h : Unfolds setup (earlier ++ t :: later) s)
    (arrives : t.move = .arrive caller) (returned : s.Returns caller package) :
    ∃ generation, AnsweredBy earlier t s caller generation package := by
  obtain ⟨before, step⟩ := h.split
  have mem : t ∈ earlier ++ t :: later := by simp
  rcases arrived_step step arrives with
    ⟨package', hit, fresh⟩ | ⟨generation, waits, -⟩
  · have lasting := h.lasts (fun _ _ _ _ step hit => hit_step step hit) t mem hit
    rcases returned with returned | ⟨generation, returned⟩
    · cases lasting.symm.trans returned
      obtain ⟨generation, keptAt, latest, -⟩ := before.latest_of_fresh fresh
      exact ⟨generation, .inl ⟨hit, keptAt, latest⟩⟩
    · cases lasting.symm.trans returned
  · have lasting := h.lasts (fun _ _ _ _ step awaits => awaits_step step awaits) t mem (.inl waits)
    rcases returned with returned | ⟨generation', returned⟩
    · rcases lasting with lasting | ⟨_, lasting⟩ <;> cases lasting.symm.trans returned
    · rcases lasting with lasting | ⟨_, lasting⟩
      · cases lasting.symm.trans returned
      · cases lasting.symm.trans returned
        exact ⟨generation, .inr ⟨waits, returned⟩⟩

/-! ## Refreshes that bring a package -/

/-- From `s` to `s'` a caller has gone on with the package of its refresh, which is not
in the slot any more. -/
structure Departure (s : SharedCatalog) (caller generation : Nat) (package : ProductPackage)
    (s' : SharedCatalog) : Prop where
  free : s'.cache.inFlight = none
  latest : s'.cache.generation = s.cache.generation
  now : s'.now = s.now
  served : s'.caller? caller = some (.served generation (.ok package))
  others : ∀ c ≠ caller, s'.caller? c = s.caller? c

/-- When a refresh finds a package, the caller who waits for it may keep it at
once. -/
theorem Unfolds.kept (h : Unfolds setup run s) {flight : Flight} {caller : Nat}
    (flying : s.flight? generation = some flight)
    (finds : Relation.ReflTransGen (Flight.Step s.now) flight (.ready (.done (.ok package))))
    (waiting : s.caller? caller = some (.waiting generation)) :
    ∃ more s', Unfolds setup (run ++ more) s' ∧
      Latest (run ++ more) generation package s.now ∧ Departure s caller generation package s' := by
  obtain ⟨flown, landed, unfolds, -, landing⟩ := h.lands flying finds
  have waiting' : landed.caller? caller = some (.waiting generation) :=
    (congrArg (Lookup.find? · caller) landing.callers).trans waiting
  let settled := landed.resume caller generation (.ok package)
  refine ⟨flown ++ [⟨landed, .resume caller, settled⟩], settled, ?_, ?_, ?_⟩
  · rw [← List.append_assoc]
    exact unfolds.resume waiting' landing.landed
  · rw [← List.append_assoc]
    exact latest_concat.mpr
      (.inl ⟨⟨⟨⟨caller, rfl, waiting'⟩, landing.slot⟩, landing.landed⟩, landing.now⟩)
  · constructor
    case free => rw [cache_resume_of_slot landing.slot]
    case latest =>
      rw [cache_resume_of_slot landing.slot]
      exact landing.latest
    case now => exact landing.now
    case served => exact (caller?_resume landed _ _ _ _).trans (if_pos rfl)
    case others =>
      intro c hc
      exact ((caller?_resume landed caller generation c _).trans (if_neg hc)).trans
        (congrArg (Lookup.find? · c) landing.callers)

end SharedCatalog

end Provisioning
