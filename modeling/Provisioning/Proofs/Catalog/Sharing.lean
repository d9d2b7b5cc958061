import Provisioning.Catalog.Cache

/-!
# A cache with many callers

Callers of one catalog cache come, wait and go on in any order, while refreshes
run, the clock moves and the kept package is forgotten.  `SharedCatalog` is the
cache with everybody around it, and `SharedCatalog.Step` is one move of one of
them.

The cache keeps a single slot for the refresh under way.  Here every refresh
that was ever started is kept apart in `flights`, under its generation and
independently of the slot.  That at most one of them is in the air is a theorem
about the slot, not a consequence of how the state is built.

`SharedCatalog.Sound` is the invariant of the moves.
-/

namespace Provisioning

/-! ## Flights -/

/-- A refresh: about to act, in the middle of a call, asleep, or landed. -/
inductive Flight where
  | ready (rest : Workflow RefreshOutcome)
  | calling (call : Call) (next : call.Answer → Workflow RefreshOutcome)
  | asleep (wakeAt : Nat) (rest : Workflow RefreshOutcome)
  | landed (outcome : RefreshOutcome)

namespace Flight

/-- The refresh is still running. -/
def Airborne (flight : Flight) : Prop :=
  ∀ outcome, flight ≠ .landed outcome

/-- One step of a refresh.  A call may be answered in any way, and any time may
pass before its answer. -/
inductive Step (now : Nat) : Flight → Flight → Prop where
  | call (call : Call) (next : call.Answer → Workflow RefreshOutcome) :
    Step now (.ready (.ask call next)) (.calling call next)
  | answer (call : Call) (next : call.Answer → Workflow RefreshOutcome) (answer : call.Answer) :
    Step now (.calling call next) (.ready (next answer))
  | pause (ms : Nat) (rest : Workflow RefreshOutcome) :
    Step now (.ready (.pause ms rest)) (.asleep (now + ms) rest)
  | wake (wakeAt : Nat) (rest : Workflow RefreshOutcome) (due : wakeAt ≤ now) :
    Step now (.asleep wakeAt rest) (.ready rest)
  | clock (next : Nat → Workflow RefreshOutcome) :
    Step now (.ready (.clock next)) (.ready (next now))
  | report (notice : Notice) (rest : Workflow RefreshOutcome) :
    Step now (.ready (.report notice rest)) (.ready rest)
  | land (outcome : RefreshOutcome) : Step now (.ready (.done outcome)) (.landed outcome)

/-- Only a running refresh takes a step. -/
theorem Step.airborne {now : Nat} {flight flight' : Flight} (h : Step now flight flight') :
    flight.Airborne := by
  intro outcome heq
  subst heq
  cases h

end Flight

/-! ## The shared cache -/

/-- What a cache is told once: the package that is looked up, how a failed
lookup is retried, and for how long a package is fresh. -/
structure CatalogSetup where
  packageName : String
  retry : StagePolicy
  ttlMs : Nat

/-- A caller: answered with the kept package, waiting for a refresh, or answered
with its outcome. -/
inductive Caller where
  | hit (package : ProductPackage)
  | waiting (generation : Nat)
  | served (generation : Nat) (outcome : RefreshOutcome)

/-- What becomes of a caller who comes in. -/
def CatalogEntry.caller : CatalogEntry → Caller
  | .hit package => .hit package
  | .wait generation => .waiting generation

/-- A cache with the time, every refresh so far by its generation, and every
caller so far by its number. -/
structure SharedCatalog where
  now : Nat
  cache : CatalogCache Unit := {}
  flights : Lookup Nat Flight := []
  callers : Lookup Nat Caller := []

/-- Who moves. -/
inductive CatalogMove where
  | arrive (caller : Nat)
  | fly (generation : Nat)
  | resume (caller : Nat)
  | invalidate
  | pass (ms : Nat)

namespace SharedCatalog

/-- The refresh of a generation, if it was started. -/
def flight? (s : SharedCatalog) (generation : Nat) : Option Flight :=
  s.flights.find? generation

/-- The caller of a number, if it came in. -/
def caller? (s : SharedCatalog) (caller : Nat) : Option Caller :=
  s.callers.find? caller

/-- The refresh that a cache starts. -/
def takeOff (setup : CatalogSetup) : Flight :=
  .ready (refreshCatalog setup.packageName setup.retry)

/-- A new refresh takes the slot. -/
def launch (setup : CatalogSetup) (s : SharedCatalog) : SharedCatalog :=
  { s with
    cache := { s.cache with
      generation := s.cache.generation + 1
      inFlight := some (s.cache.generation + 1, ()) }
    flights := s.flights.put (s.cache.generation + 1) (takeOff setup) }

/-- A caller comes in.  A new generation of the cache is a new refresh. -/
def arrive (setup : CatalogSetup) (s : SharedCatalog) (caller : Nat) : SharedCatalog :=
  let (cache, entry) := s.cache.enter setup.ttlMs s.now ()
  { s with
    cache := cache
    flights :=
      if cache.generation = s.cache.generation then s.flights
      else s.flights.put cache.generation (takeOff setup)
    callers := s.callers.put caller entry.caller }

/-- A refresh has come further; a landing is recorded in the cache. -/
def fly (s : SharedCatalog) (generation : Nat) (flight : Flight) : SharedCatalog :=
  { s with
    cache := match flight with
      | .landed outcome => s.cache.complete outcome
      | _ => s.cache
    flights := s.flights.put generation flight }

/-- A caller who waited goes on with the outcome of its refresh. -/
def resume (s : SharedCatalog) (caller generation : Nat) (outcome : RefreshOutcome) :
    SharedCatalog :=
  { s with
    cache := s.cache.leave generation outcome s.now
    callers := s.callers.put caller (.served generation outcome) }

/-- One move. -/
inductive Step (setup : CatalogSetup) (s : SharedCatalog) : CatalogMove → SharedCatalog → Prop where
  | arrive (caller : Nat) (new : s.caller? caller = none) :
    Step setup s (.arrive caller) (s.arrive setup caller)
  | fly (generation : Nat) (flight flight' : Flight) (flying : s.flight? generation = some flight)
      (step : flight.Step s.now flight') : Step setup s (.fly generation) (s.fly generation flight')
  | resume (caller generation : Nat) (outcome : RefreshOutcome)
      (waiting : s.caller? caller = some (.waiting generation))
      (ended : s.cache.outcomes.find? generation = some outcome) :
    Step setup s (.resume caller) (s.resume caller generation outcome)
  | invalidate : Step setup s .invalidate { s with cache := s.cache.invalidate }
  | pass (ms : Nat) : Step setup s (.pass ms) { s with now := s.now + ms }

/-- A refresh is running. -/
def Running (s : SharedCatalog) (generation : Nat) : Prop :=
  ∃ flight, s.flight? generation = some flight ∧ flight.Airborne

/-- What holds between any two moves.  A running refresh is the one in the slot,
the slot holds the latest generation, and while it is taken, or after the latest
refresh has failed, the kept package is not fresh. -/
structure Sound (setup : CatalogSetup) (s : SharedCatalog) : Prop where
  slot : ∀ generation, s.cache.inFlight = some (generation, ()) →
    generation = s.cache.generation ∧ ∃ flight, s.flight? generation = some flight
  numbered : ∀ generation flight, s.flight? generation = some flight →
    generation ≤ s.cache.generation
  running : ∀ generation, s.Running generation → s.cache.inFlight = some (generation, ())
  outcomes : ∀ generation outcome, s.cache.outcomes.find? generation = some outcome ↔
    s.flight? generation = some (.landed outcome)
  waiting : ∀ caller generation, s.caller? caller = some (.waiting generation) →
    ∃ flight, s.flight? generation = some flight
  served : ∀ caller generation outcome, s.caller? caller = some (.served generation outcome) →
    s.flight? generation = some (.landed outcome) ∧
      s.cache.inFlight ≠ some (generation, ())
  taken : s.cache.inFlight ≠ none → s.cache.fresh? setup.ttlMs s.now = none
  failed : ∀ cause, s.flight? s.cache.generation = some (.landed (.error cause)) →
    s.cache.fresh? setup.ttlMs s.now = none

variable {setup : CatalogSetup} {s s' : SharedCatalog}

/-! ## What the moves do -/

theorem flight?_fly (s : SharedCatalog) (generation g : Nat) (flight : Flight) :
    (s.fly generation flight).flight? g =
      if g = generation then some flight else s.flight? g :=
  Lookup.find?_put _ _ _ _

theorem flight?_launch (s : SharedCatalog) (g : Nat) :
    (s.launch setup).flight? g =
      if g = s.cache.generation + 1 then some (takeOff setup) else s.flight? g :=
  Lookup.find?_put _ _ _ _

theorem caller?_resume (s : SharedCatalog) (caller generation c : Nat) (outcome : RefreshOutcome) :
    (s.resume caller generation outcome).caller? c =
      if c = caller then some (.served generation outcome) else s.caller? c :=
  Lookup.find?_put _ _ _ _

/-- A caller comes in while the kept package is fresh. -/
theorem arrive_of_fresh {package : ProductPackage}
    (h : s.cache.fresh? setup.ttlMs s.now = some package) (caller : Nat) :
    s.arrive setup caller = { s with callers := s.callers.put caller (.hit package) } := by
  simp only [arrive, CatalogCache.enter, h, if_true, CatalogEntry.caller]

/-- A caller comes in and finds a refresh under way. -/
theorem arrive_of_taken {generation : Nat} (stale : s.cache.fresh? setup.ttlMs s.now = none)
    (taken : s.cache.inFlight = some (generation, ())) (caller : Nat) :
    s.arrive setup caller = { s with callers := s.callers.put caller (.waiting generation) } := by
  simp only [arrive, CatalogCache.enter, stale, taken, if_true, CatalogEntry.caller]

/-- A caller comes in and starts a refresh. -/
theorem arrive_of_free (stale : s.cache.fresh? setup.ttlMs s.now = none)
    (free : s.cache.inFlight = none) (caller : Nat) :
    s.arrive setup caller =
      { s.launch setup with
        callers := s.callers.put caller (.waiting (s.cache.generation + 1)) } := by
  simp only [arrive, launch, CatalogCache.enter, stale, free, CatalogEntry.caller, Nat.succ_ne_self,
    if_false]

/-- The three ways in which a caller comes in. -/
theorem arrive_cases (setup : CatalogSetup) (s : SharedCatalog) (caller : Nat) :
    (∃ package, s.cache.fresh? setup.ttlMs s.now = some package ∧
      s.arrive setup caller = { s with callers := s.callers.put caller (.hit package) }) ∨
    (∃ generation, s.cache.inFlight = some (generation, ()) ∧
      s.arrive setup caller = { s with callers := s.callers.put caller (.waiting generation) }) ∨
    (s.cache.inFlight = none ∧ s.cache.fresh? setup.ttlMs s.now = none ∧
      s.arrive setup caller = { s.launch setup with
        callers := s.callers.put caller (.waiting (s.cache.generation + 1)) }) := by
  cases stale : s.cache.fresh? setup.ttlMs s.now with
  | some package => exact .inl ⟨package, rfl, arrive_of_fresh stale caller⟩
  | none =>
    cases slot : s.cache.inFlight with
    | some entry =>
      obtain ⟨generation, ⟨⟩⟩ := entry
      exact .inr (.inl ⟨generation, rfl, arrive_of_taken stale slot caller⟩)
    | none => exact .inr (.inr ⟨rfl, rfl, arrive_of_free stale slot caller⟩)

/-- A refresh only ever touches the record of the outcomes. -/
theorem cache_fly (s : SharedCatalog) (generation : Nat) (flight : Flight) :
    ∃ outcomes, (s.fly generation flight).cache = { s.cache with outcomes := outcomes } := by
  cases flight with
  | landed outcome =>
    show ∃ outcomes, s.cache.complete outcome = { s.cache with outcomes := outcomes }
    unfold CatalogCache.complete
    split
    · exact ⟨_, rfl⟩
    · exact ⟨_, rfl⟩
  | _ => exact ⟨s.cache.outcomes, rfl⟩

/-- The landing of the refresh in the slot is recorded under its generation. -/
theorem outcomes_land {generation : Nat} (h : s.cache.inFlight = some (generation, ()))
    (outcome : RefreshOutcome) :
    (s.fly generation (.landed outcome)).cache.outcomes =
      s.cache.outcomes.put generation outcome := by
  show (s.cache.complete outcome).outcomes = _
  simp only [CatalogCache.complete, h]

/-- A caller who leaves changes the cache only if it is the first one to leave
the refresh in the slot. -/
theorem leave_of_ne {cache : CatalogCache Unit} {generation : Nat}
    (h : cache.inFlight ≠ some (generation, ())) (outcome : RefreshOutcome) (now : Nat) :
    cache.leave generation outcome now = cache := by
  unfold CatalogCache.leave
  split
  · rename_i current _ heq
    rw [if_neg (fun hcurrent => h (by rw [heq, hcurrent]))]
  · rfl

/-- The first caller to leave frees the slot and keeps the package, if there is
one. -/
theorem leave_of_slot {cache : CatalogCache Unit} {generation : Nat}
    (h : cache.inFlight = some (generation, ())) (outcome : RefreshOutcome) (now : Nat) :
    cache.leave generation outcome now =
      { cache with
        inFlight := none
        kept := match outcome with
          | .ok package => some (package, now)
          | .error _ => cache.kept } := by
  unfold CatalogCache.leave
  rw [h]
  cases outcome <;> simp only [if_true]

theorem cache_resume_of_ne {generation : Nat} (h : s.cache.inFlight ≠ some (generation, ()))
    (caller : Nat) (outcome : RefreshOutcome) :
    (s.resume caller generation outcome).cache = s.cache :=
  leave_of_ne h outcome s.now

theorem cache_resume_of_slot {generation : Nat} (h : s.cache.inFlight = some (generation, ()))
    (caller : Nat) (outcome : RefreshOutcome) :
    (s.resume caller generation outcome).cache =
      { s.cache with
        inFlight := none
        kept := match outcome with
          | .ok package => some (package, s.now)
          | .error _ => s.cache.kept } :=
  leave_of_slot h outcome s.now

/-- A package that is not fresh does not become fresh with time. -/
theorem fresh?_later {cache : CatalogCache Unit} {ttlMs now : Nat}
    (h : cache.fresh? ttlMs now = none) (ms : Nat) : cache.fresh? ttlMs (now + ms) = none := by
  unfold CatalogCache.fresh? at *
  cases hkept : cache.kept with
  | none => rfl
  | some entry =>
    rw [hkept] at h
    have hage : ¬now - entry.2 < ttlMs := by
      intro hlt
      simp only [if_pos hlt] at h
      cases h
    exact if_neg (by omega)

/-! ## The invariant -/

/-- Nobody has come yet. -/
theorem sound_start (setup : CatalogSetup) (now : Nat) : Sound setup { now := now } where
  slot _ h := by cases h
  numbered _ _ h := by cases h
  running _ h := by
    obtain ⟨_, h, -⟩ := h
    cases h
  outcomes _ _ := ⟨fun h => (by cases h), fun h => (by cases h)⟩
  waiting _ _ h := by cases h
  served _ _ _ h := by cases h
  taken _ := rfl
  failed _ _ := rfl

/-- A caller who is not answered by a refresh changes nothing for the others. -/
theorem Sound.callers_hit (h : s.Sound setup) (caller : Nat) (package : ProductPackage) :
    Sound setup { s with callers := s.callers.put caller (.hit package) } where
  slot := h.slot
  numbered := h.numbered
  running := h.running
  outcomes := h.outcomes
  waiting c generation hc := by
    rw [caller?, Lookup.find?_put] at hc
    split at hc
    · cases hc
    · exact h.waiting c generation hc
  served c generation outcome hc := by
    rw [caller?, Lookup.find?_put] at hc
    split at hc
    · cases hc
    · exact h.served c generation outcome hc
  taken := h.taken
  failed := h.failed

/-- A caller joins a refresh. -/
theorem Sound.callers_waiting (h : s.Sound setup) (caller : Nat) {generation : Nat}
    (flying : ∃ flight, s.flight? generation = some flight) :
    Sound setup { s with callers := s.callers.put caller (.waiting generation) } where
  slot := h.slot
  numbered := h.numbered
  running := h.running
  outcomes := h.outcomes
  waiting c g hc := by
    rw [caller?, Lookup.find?_put] at hc
    split at hc
    · cases hc
      exact flying
    · exact h.waiting c g hc
  served c g outcome hc := by
    rw [caller?, Lookup.find?_put] at hc
    split at hc
    · cases hc
    · exact h.served c g outcome hc
  taken := h.taken
  failed := h.failed

/-- A refresh starts while the slot is free and the kept package is not fresh. -/
theorem Sound.launch (h : s.Sound setup) (stale : s.cache.fresh? setup.ttlMs s.now = none)
    (free : s.cache.inFlight = none) : (s.launch setup).Sound setup := by
  have unlanded : ∀ outcome, takeOff setup ≠ .landed outcome := fun outcome heq => by cases heq
  have other : ∀ g flight, s.flight? g = some flight → g ≠ s.cache.generation + 1 := by
    intro g flight hg heq
    have hle := h.numbered g flight hg
    omega
  refine ⟨?slot, ?numbered, ?running, ?outcomes, ?waiting, ?served, fun _ => stale, ?failed⟩
  case slot =>
    intro g hg
    cases hg
    exact ⟨rfl, takeOff setup, (flight?_launch s _).trans (if_pos rfl)⟩
  case numbered =>
    intro g flight hg
    rw [flight?_launch] at hg
    show g ≤ s.cache.generation + 1
    split at hg
    · omega
    · have hle := h.numbered g flight hg
      omega
  case running =>
    intro g hg
    obtain ⟨flight, hflight, airborne⟩ := hg
    rw [flight?_launch] at hflight
    split at hflight
    · rename_i heq
      rw [heq]
      rfl
    · have hslot := h.running g ⟨flight, hflight, airborne⟩
      rw [free] at hslot
      cases hslot
  case outcomes =>
    intro g outcome
    rw [flight?_launch]
    show s.cache.outcomes.find? g = some outcome ↔ _
    rw [h.outcomes g outcome]
    split
    · rename_i heq
      refine ⟨fun hg => absurd heq (other g _ hg), fun hg => ?_⟩
      exact absurd (Option.some.inj hg) (unlanded outcome)
    · rfl
  case waiting =>
    intro c g hc
    obtain ⟨flight, hflight⟩ := h.waiting c g hc
    rw [flight?_launch, if_neg (other g flight hflight)]
    exact ⟨flight, hflight⟩
  case served =>
    intro c g outcome hc
    obtain ⟨hflight, -⟩ := h.served c g outcome hc
    rw [flight?_launch, if_neg (other g _ hflight)]
    refine ⟨hflight, fun hslot => ?_⟩
    cases hslot
    exact other _ _ hflight rfl
  case failed =>
    intro cause hg
    have latest : (s.launch setup).cache.generation = s.cache.generation + 1 := rfl
    rw [flight?_launch, if_pos latest] at hg
    exact absurd (Option.some.inj hg) (unlanded _)

theorem Sound.arrive (h : s.Sound setup) (caller : Nat) : (s.arrive setup caller).Sound setup := by
  rcases arrive_cases setup s caller with
    ⟨package, -, heq⟩ | ⟨generation, slot, heq⟩ | ⟨free, stale, heq⟩
  · rw [heq]
    exact h.callers_hit caller package
  · rw [heq]
    exact h.callers_waiting caller (h.slot generation slot).2
  · rw [heq]
    have launched := h.launch stale free
    exact launched.callers_waiting caller (launched.slot _ rfl).2

/-- A refresh flies on without landing. -/
theorem Sound.fly (h : s.Sound setup) {generation : Nat} {flight flight' : Flight}
    (flying : s.flight? generation = some flight) (step : flight.Step s.now flight') :
    (s.fly generation flight').Sound setup := by
  have slot := h.running generation ⟨flight, flying, step.airborne⟩
  have latest := (h.slot generation slot).1
  have unlanded : ∀ outcome, s.flight? generation ≠ some (.landed outcome) := by
    intro outcome heq
    rw [flying] at heq
    exact step.airborne outcome (Option.some.inj heq)
  obtain ⟨outcomes, hcache⟩ := s.cache_fly generation flight'
  have stale := h.taken (by rw [slot]; exact Option.some_ne_none _)
  refine ⟨?slot, ?numbered, ?running, ?outcomes, ?waiting, ?served, ?taken, ?failed⟩
  case slot =>
    intro g hg
    rw [hcache] at hg
    rw [hcache, flight?_fly]
    refine ⟨(h.slot g hg).1, ?_⟩
    split
    · exact ⟨_, rfl⟩
    · exact (h.slot g hg).2
  case numbered =>
    intro g f hg
    rw [flight?_fly] at hg
    rw [hcache]
    show g ≤ s.cache.generation
    split at hg
    · omega
    · exact h.numbered g f hg
  case running =>
    intro g hg
    obtain ⟨f, hf, airborne⟩ := hg
    rw [flight?_fly] at hf
    rw [hcache]
    split at hf
    · rename_i heq
      rw [heq]
      exact slot
    · exact h.running g ⟨f, hf, airborne⟩
  case outcomes =>
    intro g outcome
    rw [flight?_fly]
    by_cases heq : g = generation
    · rw [if_pos heq]
      subst heq
      cases flight' with
      | landed outcome' =>
        rw [outcomes_land slot, Lookup.find?_put, if_pos rfl]
        constructor
        · intro h
          rw [Option.some.inj h]
        · intro h
          cases h
          rfl
      | _ =>
        refine Iff.trans (h.outcomes g outcome) ?_
        exact ⟨fun hg => absurd hg (unlanded outcome), fun hg => (by cases hg)⟩
    · rw [if_neg heq, ← h.outcomes g outcome]
      cases flight' with
      | landed outcome' => rw [outcomes_land slot, Lookup.find?_put, if_neg heq]
      | _ => rfl
  case waiting =>
    intro c g hc
    rw [flight?_fly]
    split
    · exact ⟨_, rfl⟩
    · exact h.waiting c g hc
  case served =>
    intro c g outcome hc
    obtain ⟨hflight, hslot⟩ := h.served c g outcome hc
    rw [flight?_fly, hcache, if_neg]
    · exact ⟨hflight, hslot⟩
    · intro heq
      rw [heq] at hflight
      exact unlanded outcome hflight
  case taken =>
    intro _
    show (s.fly generation flight').cache.fresh? setup.ttlMs s.now = none
    rw [hcache]
    exact stale
  case failed =>
    intro cause _
    show (s.fly generation flight').cache.fresh? setup.ttlMs s.now = none
    rw [hcache]
    exact stale

/-- A caller goes on with the outcome of its refresh. -/
theorem Sound.resume (h : s.Sound setup) {caller generation : Nat} {outcome : RefreshOutcome}
    (ended : s.cache.outcomes.find? generation = some outcome) :
    (s.resume caller generation outcome).Sound setup := by
  have landed := (h.outcomes generation outcome).mp ended
  have served_resume : ∀ c g o,
      (s.resume caller generation outcome).caller? c = some (.served g o) →
      g = generation ∧ o = outcome ∨ s.caller? c = some (.served g o) := by
    intro c g o hc
    rw [caller?_resume] at hc
    split at hc
    · cases hc
      exact .inl ⟨rfl, rfl⟩
    · exact .inr hc
  have waiting_resume : ∀ c g, (s.resume caller generation outcome).caller? c = some (.waiting g) →
      ∃ flight, s.flight? g = some flight := by
    intro c g hc
    rw [caller?_resume] at hc
    split at hc
    · cases hc
    · exact h.waiting c g hc
  have unseated : ∀ g, s.Running g → g ≠ generation := by
    intro g hg heq
    obtain ⟨flight, hflight, airborne⟩ := hg
    rw [heq, landed] at hflight
    exact airborne outcome (Option.some.inj hflight).symm
  by_cases slot : s.cache.inFlight = some (generation, ())
  · -- the first one to leave: the slot is free now
    have latest := (h.slot generation slot).1
    have cache_resume := cache_resume_of_slot slot caller outcome
    have free : (s.resume caller generation outcome).cache.inFlight = none := by rw [cache_resume]
    refine ⟨?slot, ?numbered, ?running, ?outcomes, waiting_resume, ?served, ?taken, ?failed⟩
    case slot =>
      intro g hg
      rw [free] at hg
      cases hg
    case numbered =>
      intro g flight hg
      rw [cache_resume]
      exact h.numbered g flight hg
    case running =>
      intro g hg
      have hslot := h.running g hg
      rw [slot] at hslot
      cases hslot
      exact absurd rfl (unseated _ hg)
    case outcomes =>
      intro g o
      rw [cache_resume]
      exact h.outcomes g o
    case served =>
      intro c g o hc
      rw [free]
      refine ⟨?_, fun hslot => (by cases hslot)⟩
      rcases served_resume c g o hc with ⟨hg, ho⟩ | hserved
      · rw [hg, ho]
        exact landed
      · exact (h.served c g o hserved).1
    case taken => exact fun htaken => absurd free htaken
    case failed =>
      intro cause hfailed
      have hlatest : s.flight? s.cache.generation = some (.landed (.error cause)) := by
        rw [cache_resume] at hfailed
        exact hfailed
      rw [← latest, landed] at hlatest
      cases hlatest
      rw [cache_resume]
      exact h.taken (by rw [slot]; exact Option.some_ne_none _)
  · have cache_resume := cache_resume_of_ne slot caller outcome
    refine ⟨?slot, ?numbered, ?running, ?outcomes, waiting_resume, ?served, ?taken, ?failed⟩
    case slot => rw [cache_resume]; exact h.slot
    case numbered => rw [cache_resume]; exact h.numbered
    case running => rw [cache_resume]; exact h.running
    case outcomes => rw [cache_resume]; exact h.outcomes
    case served =>
      intro c g o hc
      rw [cache_resume]
      rcases served_resume c g o hc with ⟨hg, ho⟩ | hserved
      · rw [hg, ho]
        exact ⟨landed, slot⟩
      · exact h.served c g o hserved
    case taken => rw [cache_resume]; exact h.taken
    case failed => rw [cache_resume]; exact h.failed

theorem Sound.invalidate (h : s.Sound setup) :
    Sound setup { s with cache := s.cache.invalidate } where
  slot := h.slot
  numbered := h.numbered
  running := h.running
  outcomes := h.outcomes
  waiting := h.waiting
  served := h.served
  taken _ := rfl
  failed _ _ := rfl

theorem Sound.pass (h : s.Sound setup) (ms : Nat) : Sound setup { s with now := s.now + ms } where
  slot := h.slot
  numbered := h.numbered
  running := h.running
  outcomes := h.outcomes
  waiting := h.waiting
  served := h.served
  taken htaken := fresh?_later (h.taken htaken) ms
  failed cause hfailed := fresh?_later (h.failed cause hfailed) ms

/-- Every move keeps the invariant. -/
theorem Sound.step {move : CatalogMove} (h : s.Sound setup) (step : Step setup s move s') :
    s'.Sound setup := by
  cases step with
  | arrive caller => exact h.arrive caller
  | fly generation flight flight' flying step => exact h.fly flying step
  | resume caller generation outcome waiting ended => exact h.resume ended
  | invalidate => exact h.invalidate
  | pass ms => exact h.pass ms

end SharedCatalog

end Provisioning
