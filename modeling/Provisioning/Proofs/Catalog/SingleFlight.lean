import Provisioning.Catalog.Demo
import Provisioning.Proofs.Catalog.Runs

/-!
# One refresh for all callers

`SingleFlight` is what holds of every run of a shared cache: at most one refresh
is in the air, everyone who finds it there gets its outcome and no other, the
cache is written by the first caller to leave and by nobody else, and a failure
writes nothing and is not kept.
-/

namespace Provisioning

namespace SharedCatalog

variable {setup : CatalogSetup} {run : List Transition} {s s' : SharedCatalog}

/-! ## What lasts -/

/-- A landed refresh keeps its outcome. -/
theorem landed_step {move : CatalogMove} {generation : Nat} {outcome : RefreshOutcome}
    (sound : s.Sound setup) (step : Step setup s move s')
    (h : s.flight? generation = some (.landed outcome)) :
    s'.flight? generation = some (.landed outcome) := by
  cases step with
  | arrive caller =>
    rcases arrive_cases setup s caller with ⟨_, -, heq⟩ | ⟨_, -, heq⟩ | ⟨-, -, heq⟩
    · rw [heq]
      exact h
    · rw [heq]
      exact h
    · rw [heq]
      show (s.launch setup).flight? generation = _
      have hle := sound.numbered generation _ h
      rw [flight?_launch, if_neg (by omega)]
      exact h
  | fly g flight flight' flying step =>
    rw [flight?_fly]
    split
    · rename_i heq
      rw [heq, flying] at h
      exact absurd (Option.some.inj h) (step.airborne outcome)
    · exact h
  | resume caller g outcome' waiting ended => exact h
  | invalidate => exact h
  | pass ms => exact h

/-- A caller waits for one refresh, or was served its outcome. -/
def Awaits (s : SharedCatalog) (caller generation : Nat) : Prop :=
  s.caller? caller = some (.waiting generation) ∨
    ∃ outcome, s.caller? caller = some (.served generation outcome)

theorem awaits_step {move : CatalogMove} {caller generation : Nat}
    (step : Step setup s move s') (h : s.Awaits caller generation) :
    s'.Awaits caller generation := by
  cases step with
  | arrive c new =>
    have hne : caller ≠ c := by
      intro heq
      rw [Awaits, heq, new] at h
      rcases h with h | ⟨outcome, h⟩ <;> cases h
    have hcaller : (s.arrive setup c).caller? caller = s.caller? caller :=
      (Lookup.find?_put _ _ _ _).trans (if_neg hne)
    rw [Awaits, hcaller]
    exact h
  | fly g flight flight' flying step => exact h
  | resume c g outcome waiting ended =>
    rw [Awaits, caller?_resume]
    split
    · rename_i heq
      rw [Awaits, heq, waiting] at h
      rcases h with h | ⟨outcome', h⟩
      · cases h
        exact .inr ⟨outcome, rfl⟩
      · cases h
    · exact h
  | invalidate => exact h
  | pass ms => exact h

/-- The slot does not hold this generation, and will not. -/
def Past (s : SharedCatalog) (generation : Nat) : Prop :=
  generation ≤ s.cache.generation ∧ s.cache.inFlight ≠ some (generation, ())

theorem past_step {move : CatalogMove} {generation : Nat} (step : Step setup s move s')
    (h : s.Past generation) : s'.Past generation := by
  obtain ⟨hle, hslot⟩ := h
  cases step with
  | arrive caller =>
    rcases arrive_cases setup s caller with ⟨_, -, heq⟩ | ⟨_, -, heq⟩ | ⟨-, -, heq⟩
    · rw [heq]
      exact ⟨hle, hslot⟩
    · rw [heq]
      exact ⟨hle, hslot⟩
    · rw [heq]
      refine ⟨Nat.le_succ_of_le hle, fun hlaunched => ?_⟩
      cases hlaunched
      omega
  | fly g flight flight' flying step =>
    obtain ⟨outcomes, hcache⟩ := s.cache_fly g flight'
    rw [Past, hcache]
    exact ⟨hle, hslot⟩
  | resume caller g outcome waiting ended =>
    by_cases slot : s.cache.inFlight = some (g, ())
    · rw [Past, cache_resume_of_slot slot]
      exact ⟨hle, fun hfree => (by cases hfree)⟩
    · rw [Past, cache_resume_of_ne slot]
      exact ⟨hle, hslot⟩
  | invalidate => exact ⟨hle, hslot⟩
  | pass ms => exact ⟨hle, hslot⟩

/-! ## Who writes the cache -/

/-- The slot keeps its refresh until the first caller leaves, and then it is
free. -/
theorem cleared_step {move : CatalogMove} (step : Step setup s move s') {generation : Nat}
    (h : s.cache.inFlight = some (generation, ())) :
    s'.cache.inFlight = some (generation, ()) ∨
      Transition.Settles ⟨s, move, s'⟩ generation ∧ s'.cache.inFlight = none := by
  cases step with
  | arrive caller =>
    rcases arrive_cases setup s caller with ⟨_, -, heq⟩ | ⟨_, -, heq⟩ | ⟨free, -, -⟩
    · rw [heq]
      exact .inl h
    · rw [heq]
      exact .inl h
    · rw [free] at h
      cases h
  | fly g flight flight' flying step =>
    obtain ⟨outcomes, hcache⟩ := s.cache_fly g flight'
    rw [hcache]
    exact .inl h
  | resume caller g outcome waiting ended =>
    by_cases slot : s.cache.inFlight = some (g, ())
    · rw [cache_resume_of_slot slot]
      have heq : g = generation := by
        rw [slot] at h
        exact congrArg Prod.fst (Option.some.inj h)
      rw [heq] at waiting
      exact .inr ⟨⟨⟨caller, rfl, waiting⟩, h⟩, rfl⟩
    · rw [cache_resume_of_ne slot]
      exact .inl h
  | invalidate => exact .inl h
  | pass ms => exact .inl h

/-- A package is kept by the first caller who leaves a refresh that brought it,
and only forgotten otherwise. -/
theorem written_step {move : CatalogMove} (sound : s.Sound setup) (step : Step setup s move s')
    (h : s'.cache.kept ≠ s.cache.kept) :
    move = .invalidate ∧ s'.cache.kept = none ∨
      ∃ generation package, Transition.Settles ⟨s, move, s'⟩ generation ∧
        s.flight? generation = some (.landed (.ok package)) ∧
        s'.cache.kept = some (package, s.now) := by
  cases step with
  | arrive caller =>
    rcases arrive_cases setup s caller with ⟨_, -, heq⟩ | ⟨_, -, heq⟩ | ⟨-, -, heq⟩ <;>
      rw [heq] at h <;> exact absurd rfl h
  | fly g flight flight' flying step =>
    obtain ⟨outcomes, hcache⟩ := s.cache_fly g flight'
    rw [hcache] at h
    exact absurd rfl h
  | resume caller g outcome waiting ended =>
    by_cases slot : s.cache.inFlight = some (g, ())
    · rw [cache_resume_of_slot slot] at h ⊢
      cases outcome with
      | error cause => exact absurd rfl h
      | ok package =>
        have landed := (sound.outcomes g (.ok package)).mp ended
        exact .inr ⟨g, package, ⟨⟨caller, rfl, waiting⟩, slot⟩, landed, rfl⟩
    · rw [cache_resume_of_ne slot] at h
      exact absurd rfl h
  | invalidate => exact .inl ⟨rfl, rfl⟩
  | pass ms => exact absurd rfl h

/-- A refresh is started only by a caller who finds nothing fresh and the slot free. -/
theorem started_step {move : CatalogMove} (step : Step setup s move s') {generation : Nat}
    (before : s.flight? generation = none) (after : s'.flight? generation ≠ none) :
    ∃ caller, move = .arrive caller ∧ s.cache.inFlight = none ∧
      s.cache.fresh? setup.ttlMs s.now = none ∧
        s'.caller? caller = some (.waiting generation) := by
  cases step with
  | arrive caller =>
    rcases arrive_cases setup s caller with ⟨_, -, heq⟩ | ⟨_, -, heq⟩ | ⟨free, stale, heq⟩
    · rw [heq] at after
      exact absurd before after
    · rw [heq] at after
      exact absurd before after
    · rw [heq] at after ⊢
      have hlaunch : (s.launch setup).flight? generation ≠ none := after
      rw [flight?_launch] at hlaunch
      split at hlaunch
      · rename_i hgeneration
        rw [hgeneration]
        exact ⟨caller, rfl, free, stale, (Lookup.find?_put _ _ _ _).trans (if_pos rfl)⟩
      · exact absurd before hlaunch
  | fly g flight flight' flying step =>
    rw [flight?_fly] at after
    split at after
    · rename_i heq
      rw [heq, flying] at before
      cases before
    · exact absurd before after
  | resume caller g outcome waiting ended => exact absurd before after
  | invalidate => exact absurd before after
  | pass ms => exact absurd before after

/-! ## The theorem -/

/-- What is promised of a shared cache after any run.

* One refresh at a time: `one`, and therefore no two calls of refreshes overlap.
* It is started by a caller who finds nothing fresh and nothing under way, and by
  nobody else: `starts` and `launches`.
* Everybody else shares it: `joins`, `awaits`, `lands`, `outcome` and `resumes`.
* The cache is written once: `settled`, `cleared`, `written` and `outdated`.
* Failures are not kept: `failure` and `again`. -/
structure SingleFlight (setup : CatalogSetup) (run : List Transition) (s : SharedCatalog) :
    Prop where
  one : ∀ generation generation', s.Running generation → s.Running generation' →
    generation = generation'
  joins : ∀ t ∈ run, ∀ caller generation, t.move = .arrive caller →
    t.before.cache.inFlight = some (generation, ()) →
    t.after = { t.before with callers := t.before.callers.put caller (.waiting generation) }
  starts : ∀ t ∈ run, ∀ generation, t.before.flight? generation = none →
    t.after.flight? generation ≠ none → ∃ caller, t.move = .arrive caller ∧
      t.before.cache.inFlight = none ∧
        t.before.cache.fresh? setup.ttlMs t.before.now = none ∧
          t.after.caller? caller = some (.waiting generation)
  launches : ∀ t ∈ run, ∀ caller, t.move = .arrive caller → t.before.cache.inFlight = none →
    t.before.cache.fresh? setup.ttlMs t.before.now = none →
    t.after = { t.before.launch setup with
      callers := t.before.callers.put caller (.waiting (t.before.cache.generation + 1)) }
  awaits : ∀ t ∈ run, ∀ caller generation,
    t.after.caller? caller = some (.waiting generation) → s.Awaits caller generation
  lands : ∀ t ∈ run, ∀ generation outcome,
    t.after.flight? generation = some (.landed outcome) →
    s.flight? generation = some (.landed outcome)
  outcome : ∀ caller generation outcome, s.caller? caller = some (.served generation outcome) →
    s.flight? generation = some (.landed outcome)
  resumes : ∀ caller generation outcome, s.caller? caller = some (.waiting generation) →
    s.flight? generation = some (.landed outcome) →
    Step setup s (.resume caller) (s.resume caller generation outcome)
  settled : ∀ earlier t later generation, run = earlier ++ t :: later → t.Settles generation →
    ∀ t' ∈ later, ¬t'.Settles generation
  cleared : ∀ t ∈ run, ∀ generation, t.before.cache.inFlight = some (generation, ()) →
    t.after.cache.inFlight = some (generation, ()) ∨
      t.Settles generation ∧ t.after.cache.inFlight = none
  written : ∀ t ∈ run, t.after.cache.kept ≠ t.before.cache.kept →
    t.move = .invalidate ∧ t.after.cache.kept = none ∨
      ∃ generation package, t.Settles generation ∧
        t.before.flight? generation = some (.landed (.ok package)) ∧
        t.after.cache.kept = some (package, t.before.now)
  outdated : ∀ t ∈ run, ∀ caller generation, t.move = .resume caller →
    t.before.caller? caller = some (.waiting generation) →
    generation < t.before.cache.generation → t.after.cache = t.before.cache
  failure : ∀ t ∈ run, ∀ caller generation cause, t.move = .resume caller →
    t.before.caller? caller = some (.waiting generation) →
    t.before.flight? generation = some (.landed (.error cause)) →
    t.after.cache.kept = t.before.cache.kept
  again : ∀ caller cause,
    s.caller? caller = some (.served s.cache.generation (.error cause)) →
    s.cache.inFlight = none ∧ ∀ next, s.arrive setup next = { s.launch setup with
      callers := s.callers.put next (.waiting (s.cache.generation + 1)) }

/-- At most one refresh is running. -/
theorem Sound.running_unique (h : s.Sound setup) {generation generation' : Nat}
    (running : s.Running generation) (running' : s.Running generation') :
    generation = generation' := by
  have slot := h.running generation running
  rw [h.running generation' running'] at slot
  exact (congrArg Prod.fst (Option.some.inj slot)).symm

theorem joins_step {move : CatalogMove} {caller generation : Nat} (sound : s.Sound setup)
    (step : Step setup s move s') (arrives : move = .arrive caller)
    (slot : s.cache.inFlight = some (generation, ())) :
    s' = { s with callers := s.callers.put caller (.waiting generation) } := by
  subst arrives
  cases step
  exact arrive_of_taken (sound.taken (by rw [slot]; exact Option.some_ne_none _)) slot caller

/-- A caller who finds nothing fresh and the slot free starts the next refresh. -/
theorem launches_step {move : CatalogMove} {caller : Nat} (step : Step setup s move s')
    (arrives : move = .arrive caller) (free : s.cache.inFlight = none)
    (stale : s.cache.fresh? setup.ttlMs s.now = none) :
    s' = { s.launch setup with
      callers := s.callers.put caller (.waiting (s.cache.generation + 1)) } := by
  subst arrives
  cases step
  exact arrive_of_free stale free caller

/-- The cache after a caller has left. -/
theorem resume_step {move : CatalogMove} {caller generation : Nat} (sound : s.Sound setup)
    (step : Step setup s move s') (resumes : move = .resume caller)
    (waiting : s.caller? caller = some (.waiting generation)) :
    ∃ outcome, s.flight? generation = some (.landed outcome) ∧
      s' = s.resume caller generation outcome := by
  subst resumes
  cases step with
  | resume _ g outcome waiting' ended =>
    rw [waiting] at waiting'
    cases waiting'
    exact ⟨outcome, (sound.outcomes generation outcome).mp ended, rfl⟩

theorem outdated_step {move : CatalogMove} {caller generation : Nat} (sound : s.Sound setup)
    (step : Step setup s move s') (resumes : move = .resume caller)
    (waiting : s.caller? caller = some (.waiting generation))
    (outdated : generation < s.cache.generation) : s'.cache = s.cache := by
  obtain ⟨outcome, -, heq⟩ := resume_step sound step resumes waiting
  rw [heq]
  apply cache_resume_of_ne
  intro slot
  have latest := (sound.slot generation slot).1
  omega

theorem failure_step {move : CatalogMove} {caller generation : Nat} {cause : Error}
    (sound : s.Sound setup) (step : Step setup s move s') (resumes : move = .resume caller)
    (waiting : s.caller? caller = some (.waiting generation))
    (failed : s.flight? generation = some (.landed (.error cause))) :
    s'.cache.kept = s.cache.kept := by
  obtain ⟨outcome, landed, heq⟩ := resume_step sound step resumes waiting
  rw [failed] at landed
  cases landed
  rw [heq]
  by_cases slot : s.cache.inFlight = some (generation, ())
  · rw [cache_resume_of_slot slot]
  · rw [cache_resume_of_ne slot]

/-- Once the latest refresh has failed and a caller knows of it, the next caller
starts another one. -/
theorem Sound.again (h : s.Sound setup) {caller : Nat} {cause : Error}
    (served : s.caller? caller = some (.served s.cache.generation (.error cause))) :
    s.cache.inFlight = none ∧ ∀ next, s.arrive setup next = { s.launch setup with
      callers := s.callers.put next (.waiting (s.cache.generation + 1)) } := by
  obtain ⟨failed, left⟩ := h.served caller _ _ served
  have free : s.cache.inFlight = none := by
    cases slot : s.cache.inFlight with
    | none => rfl
    | some entry =>
      obtain ⟨generation, ⟨⟩⟩ := entry
      have latest := (h.slot generation slot).1
      rw [slot, latest] at left
      exact absurd rfl left
  exact ⟨free, arrive_of_free (h.failed cause failed) free⟩

/-- A generation is settled at most once: afterwards the slot is past it. -/
theorem Unfolds.settled_once (h : Unfolds setup run s) :
    ∀ earlier t later generation, run = earlier ++ t :: later → t.Settles generation →
      ∀ t' ∈ later, ¬t'.Settles generation := by
  induction h with
  | start now =>
    intro earlier t later generation hrun
    simp at hrun
  | @move run s unfolds move s' step ih =>
    intro earlier t later generation hrun settles t' ht' settles'
    rcases List.eq_nil_or_concat later with hlater | ⟨later', last, hlater⟩
    · rw [hlater] at ht'
      exact absurd ht' List.not_mem_nil
    · rw [List.concat_eq_append] at hlater
      rw [hlater, ← List.cons_append, ← List.append_assoc] at hrun
      obtain ⟨hrun, hlast⟩ := List.append_inj' hrun rfl
      have hlast := List.singleton_inj.mp hlast
      rw [hlater] at ht'
      rcases List.mem_append.mp ht' with ht' | ht'
      · exact ih earlier t later' generation hrun settles t' ht' settles'
      · -- the last transition: the slot is past the generation since `t`
        rw [List.mem_singleton.mp ht', ← hlast] at settles'
        have mem : t ∈ run := by
          rw [hrun]
          simp
        obtain ⟨sound, tstep⟩ := unfolds.transition t mem
        have past : t.after.Past generation := by
          obtain ⟨⟨caller, resumes, waiting⟩, slot⟩ := settles
          obtain ⟨outcome, -, heq⟩ := resume_step sound tstep resumes waiting
          rw [heq, Past, cache_resume_of_slot slot]
          exact ⟨Nat.le_of_eq (sound.slot generation slot).1, fun hfree => (by cases hfree)⟩
        have past' : s.Past generation :=
          unfolds.lasts (fun _ _ _ _ hstep hpast => past_step hstep hpast) t mem past
        exact past'.2 settles'.2

/-- A shared cache is single-flight, whatever the order in which callers come
and go, refreshes proceed and fail, the package is forgotten and time passes. -/
theorem cache_is_single_flight (h : Unfolds setup run s) : SingleFlight setup run s where
  one _ _ running running' := h.sound.running_unique running running'
  joins t ht caller generation arrives slot := by
    obtain ⟨sound, step⟩ := h.transition t ht
    exact joins_step sound step arrives slot
  starts t ht generation before after := started_step (h.transition t ht).2 before after
  launches t ht caller arrives free stale := launches_step (h.transition t ht).2 arrives free stale
  awaits t ht caller generation waiting :=
    h.lasts (fun _ _ _ _ step awaits => awaits_step step awaits) t ht (.inl waiting)
  lands t ht generation outcome landed :=
    h.lasts (fun _ _ _ sound step landed => landed_step sound step landed) t ht landed
  outcome caller generation outcome served := (h.sound.served caller generation outcome served).1
  resumes caller generation outcome waiting landed :=
    .resume caller generation outcome waiting ((h.sound.outcomes generation outcome).mpr landed)
  settled := h.settled_once
  cleared t ht generation slot := cleared_step (h.transition t ht).2 slot
  written t ht changed := by
    obtain ⟨sound, step⟩ := h.transition t ht
    exact written_step sound step changed
  outdated t ht caller generation resumes waiting older := by
    obtain ⟨sound, step⟩ := h.transition t ht
    exact outdated_step sound step resumes waiting older
  failure t ht caller generation cause resumes waiting failed := by
    obtain ⟨sound, step⟩ := h.transition t ht
    exact failure_step sound step resumes waiting failed
  again _ _ served := h.sound.again served

/-- Two callers share a refresh that is refused, and two later ones share the next,
which brings the package.  It is kept once. -/
theorem cache_is_single_flight_for_four :
    let setup : CatalogSetup := ⟨"Bare Metal Instance", ⟨10000, 100, 1000⟩, 60000⟩
    let package := Demo.catalog .bareMetal
    let refused : RefreshOutcome :=
      .error (.catalogAuthorization (Error.unauthorized "invalid API key").message)
    ∃ run s, Unfolds setup run s ∧
      s.caller? 1 = some (.served 1 refused) ∧ s.caller? 2 = some (.served 1 refused) ∧
      s.caller? 3 = some (.served 2 (.ok package)) ∧
      s.caller? 4 = some (.served 2 (.ok package)) ∧
      (∃ earlier t later, run = earlier ++ t :: later ∧ t.Settles 2 ∧
        t.after.cache.kept = some (package, 0) ∧ ∀ t' ∈ earlier ++ later, t'.Keeps) ∧
      SingleFlight setup run s := by
  intro setup package refused
  let unused : SharedCatalog := { now := 0 }
  have start : Unfolds setup [] unused := .start 0
  have absent : ∀ c, unused.caller? c = none := fun _ => rfl
  obtain ⟨earlier, first, later, failed, unfolds, quiet, -, before, after, sharing⟩ :=
    start.shares rfl rfl (absent 1) (absent 2) (by decide)
      (takeOff_fails setup 0 "invalid API key")
  have first_keeps : first.Keeps := after.trans before.symm
  have unkept : failed.cache.kept = none := sharing.kept
  have stale : failed.cache.fresh? setup.ttlMs failed.now = none := by
    rw [CatalogCache.fresh?, unkept]
  have latest : failed.cache.generation = 1 := sharing.latest
  have now : failed.now = 0 := sharing.now
  have absent' : failed.caller? 3 = none ∧ failed.caller? 4 = none :=
    ⟨sharing.callers 3, sharing.callers 4⟩
  obtain ⟨earlier', second, later', fetched, unfolds', quiet', settles, -, after', sharing'⟩ :=
    unfolds.shares sharing.free stale absent'.1 absent'.2 (by decide)
      (takeOff_finds setup failed.now ⟨package.id, package.name⟩ package)
  rw [latest] at settles
  rw [keptAfter, now] at after'
  have callers := sharing'.callers
  rw [latest] at callers
  refine ⟨_, fetched, unfolds', (callers 1).trans (sharing.callers 1),
    (callers 2).trans (sharing.callers 2), callers 3, callers 4, ?_,
    cache_is_single_flight unfolds'⟩
  refine ⟨earlier ++ first :: later ++ earlier', second, later', by simp, settles, after', ?_⟩
  simp only [List.forall_mem_append, List.forall_mem_cons] at quiet quiet' ⊢
  exact ⟨⟨⟨quiet.1, first_keeps, quiet.2⟩, quiet'.1⟩, quiet'.2⟩

end SharedCatalog

end Provisioning
