import Mathlib.Logic.Relation
import Provisioning.Proofs.Catalog.Sharing

/-!
# Runs of a shared cache

A run is any sequence of moves from a cache that nobody has used.
`Unfolds.lasts` is how facts about one move become facts about a run: what every
move preserves holds at the end if it held after some move before.

The second half lets runs go on.  A refresh may find its package at once, or be
refused (`takeOff_finds`, `takeOff_fails`), and then it lands (`Unfolds.lands`).
`Unfolds.shared` is a whole refresh with two callers, from the first one who comes
to the last one who goes.
-/

namespace Provisioning

namespace SharedCatalog

/-- One move of a run. -/
structure Transition where
  before : SharedCatalog
  move : CatalogMove
  after : SharedCatalog

/-- A run from a cache that nobody has used, with the state that it ends in. -/
inductive Unfolds (setup : CatalogSetup) : List Transition → SharedCatalog → Prop where
  | start (now : Nat) : Unfolds setup [] { now := now }
  | move {run : List Transition} {s : SharedCatalog} (unfolds : Unfolds setup run s)
      (move : CatalogMove) (s' : SharedCatalog) (step : Step setup s move s') :
    Unfolds setup (run ++ [⟨s, move, s'⟩]) s'

variable {setup : CatalogSetup} {run : List Transition} {s s' : SharedCatalog} {generation : Nat}
  {outcome : RefreshOutcome}

theorem Unfolds.sound (h : Unfolds setup run s) : s.Sound setup := by
  induction h with
  | start now => exact sound_start setup now
  | move unfolds move s' step ih => exact ih.step step

/-- Every transition of a run is a move between states in which the invariant
holds. -/
theorem Unfolds.transition (h : Unfolds setup run s) :
    ∀ t ∈ run, t.before.Sound setup ∧ Step setup t.before t.move t.after := by
  induction h with
  | start now => exact fun t ht => absurd ht List.not_mem_nil
  | move unfolds move s' step ih =>
    intro t ht
    rcases List.mem_append.mp ht with ht | ht
    · exact ih t ht
    · rw [List.mem_singleton.mp ht]
      exact ⟨unfolds.sound, step⟩

/-- What every move preserves holds at the end of a run if it held after a
transition. -/
theorem Unfolds.lasts {P : SharedCatalog → Prop} (h : Unfolds setup run s)
    (preserved : ∀ a move b, a.Sound setup → Step setup a move b → P a → P b) :
    ∀ t ∈ run, P t.after → P s := by
  induction h with
  | start now => exact fun t ht => absurd ht List.not_mem_nil
  | move unfolds move s' step ih =>
    intro t ht hP
    rcases List.mem_append.mp ht with ht | ht
    · exact preserved _ _ _ unfolds.sound step (ih t ht hP)
    · rw [List.mem_singleton.mp ht] at hP
      exact hP

/-- The first caller of a refresh leaves: it finds its refresh in the slot. -/
def Transition.Settles (t : Transition) (generation : Nat) : Prop :=
  (∃ caller, t.move = .resume caller ∧ t.before.caller? caller = some (.waiting generation)) ∧
    t.before.cache.inFlight = some (generation, ())

/-- The kept package is the same before and after. -/
def Transition.Keeps (t : Transition) : Prop :=
  t.after.cache.kept = t.before.cache.kept

/-- What is kept once the first caller has left a refresh with this outcome. -/
def keptAfter (s : SharedCatalog) : RefreshOutcome → Option (ProductPackage × Nat)
  | .ok package => some (package, s.now)
  | .error _ => s.cache.kept

theorem kept_resume_of_slot (slot : s.cache.inFlight = some (generation, ())) (caller : Nat)
    (outcome : RefreshOutcome) :
    (s.resume caller generation outcome).cache.kept = s.keptAfter outcome := by
  rw [cache_resume_of_slot slot]
  cases outcome with
  | ok package => rfl
  | error cause => rfl

/-- A refresh that flies on leaves the kept package alone. -/
theorem keeps_fly (s : SharedCatalog) (generation : Nat) (flight : Flight) :
    Transition.Keeps ⟨s, .fly generation, s.fly generation flight⟩ := by
  obtain ⟨outcomes, hcache⟩ := s.cache_fly generation flight
  rw [Transition.Keeps, hcache]

/-! ## How a refresh may go -/

/-- A refresh may find its package at the first attempt, and without any time
passing. -/
theorem takeOff_finds (setup : CatalogSetup) (now : Nat) (ref : PackageRef)
    (package : ProductPackage) :
    Relation.ReflTransGen (Flight.Step now) (takeOff setup) (.ready (.done (.ok package))) := by
  refine .head (.report (.refreshingCatalog setup.packageName) _) ?_
  refine .head (.clock _) ?_
  refine .head (.call (.activePackageByName setup.packageName) _) ?_
  refine .head (.answer _ _ (.ok ref)) ?_
  refine .head (.call (.packageDetail ref.id) _) ?_
  exact .head (.answer _ _ (.ok package)) .refl

/-- A refresh may be refused at the first attempt, and ends then. -/
theorem takeOff_fails (setup : CatalogSetup) (now : Nat) (text : String) :
    Relation.ReflTransGen (Flight.Step now) (takeOff setup)
      (.ready (.done (.error (.catalogAuthorization (Error.unauthorized text).message)))) := by
  refine .head (.report (.refreshingCatalog setup.packageName) _) ?_
  refine .head (.clock _) ?_
  refine .head (.call (.activePackageByName setup.packageName) _) ?_
  refine .head (.answer _ _ (.error (.unauthorized text))) ?_
  exact .head (.report (.catalogNotAuthorized setup.packageName (.unauthorized text)) _) .refl

/-! ## How a run may go on -/

/-- A flight that does not land changes nothing but itself. -/
theorem Unfolds.flown {flight flight' : Flight} (h : Unfolds setup run s)
    (flying : s.flight? generation = some flight)
    (steps : Relation.ReflTransGen (Flight.Step s.now) flight flight')
    (airborne : flight'.Airborne) :
    ∃ flown s', Unfolds setup (run ++ flown) s' ∧ (∀ t ∈ flown, t.Keeps) ∧
      s'.flight? generation = some flight' ∧ s'.now = s.now ∧ s'.cache = s.cache ∧
        s'.callers = s.callers := by
  induction steps with
  | refl => exact ⟨[], s, by simpa using h, nofun, flying, rfl, rfl, rfl⟩
  | @tail flight flight' steps step ih =>
    obtain ⟨flown, s', unfolds, quiet, flying', hnow, hcache, hcallers⟩ := ih step.airborne
    refine ⟨flown ++ [⟨s', .fly generation, s'.fly generation flight'⟩], s'.fly generation flight',
      ?_, ?_, (flight?_fly s' _ _ _).trans (if_pos rfl), hnow, ?_, hcallers⟩
    · rw [← List.append_assoc]
      exact .move unfolds _ _ (.fly generation flight flight' flying' (hnow ▸ step))
    · have last := keeps_fly s' generation flight'
      exact List.forall_mem_append.mpr ⟨quiet, List.forall_mem_singleton.mpr last⟩
    · rw [← hcache]
      cases flight' with
      | landed outcome => exact absurd rfl (airborne outcome)
      | _ => rfl

/-- From `s` to `s'` the refresh of a generation has landed, and nothing else has
happened. -/
structure Landing (s : SharedCatalog) (generation : Nat) (outcome : RefreshOutcome)
    (s' : SharedCatalog) : Prop where
  landed : s'.flight? generation = some (.landed outcome)
  slot : s'.cache.inFlight = some (generation, ())
  kept : s'.cache.kept = s.cache.kept
  latest : s'.cache.generation = s.cache.generation
  now : s'.now = s.now
  callers : s'.callers = s.callers

/-- A refresh that ends lands. -/
theorem Unfolds.lands {flight : Flight} (h : Unfolds setup run s)
    (flying : s.flight? generation = some flight)
    (ends : Relation.ReflTransGen (Flight.Step s.now) flight (.ready (.done outcome))) :
    ∃ flown s', Unfolds setup (run ++ flown) s' ∧ (∀ t ∈ flown, t.Keeps) ∧
      Landing s generation outcome s' := by
  obtain ⟨flown, found, unfolds, quiet, flying', hnow, hcache, hcallers⟩ :=
    h.flown flying ends nofun
  have step : (Flight.ready (.done outcome)).Step found.now (.landed outcome) := .land outcome
  have slot := unfolds.sound.running generation ⟨_, flying', step.airborne⟩
  obtain ⟨outcomes, hland⟩ := found.cache_fly generation (.landed outcome)
  refine ⟨flown ++ [⟨found, .fly generation, found.fly generation (.landed outcome)⟩],
    found.fly generation (.landed outcome), ?_, ?_, ?_⟩
  · rw [← List.append_assoc]
    exact .move unfolds _ _ (.fly generation _ _ flying' step)
  · have last := keeps_fly found generation (.landed outcome)
    exact List.forall_mem_append.mpr ⟨quiet, List.forall_mem_singleton.mpr last⟩
  · constructor
    case landed => exact (flight?_fly found _ _ _).trans (if_pos rfl)
    case slot =>
      rw [hland]
      exact slot
    case kept =>
      rw [hland, hcache]
    case latest =>
      rw [hland, hcache]
    case now => exact hnow
    case callers => exact hcallers

/-- A caller whose refresh has landed may go on. -/
theorem Unfolds.resume {caller : Nat} (h : Unfolds setup run s)
    (waiting : s.caller? caller = some (.waiting generation))
    (landed : s.flight? generation = some (.landed outcome)) :
    Unfolds setup (run ++ [⟨s, .resume caller, s.resume caller generation outcome⟩])
      (s.resume caller generation outcome) :=
  .move h _ _ (.resume caller generation outcome waiting ((h.sound.outcomes _ _).mpr landed))

/-- From `s` to `s'` two callers have come in, and wait for a new refresh. -/
structure Boarding (setup : CatalogSetup) (s : SharedCatalog) (first second : Nat)
    (s' : SharedCatalog) : Prop where
  flying : s'.flight? (s.cache.generation + 1) = some (takeOff setup)
  kept : s'.cache.kept = s.cache.kept
  latest : s'.cache.generation = s.cache.generation + 1
  now : s'.now = s.now
  callers : ∀ c, s'.caller? c =
    if c = second then some (.waiting (s.cache.generation + 1))
    else if c = first then some (.waiting (s.cache.generation + 1))
    else s.caller? c

/-- Two callers who come in one after the other while nothing is fresh and nothing is
under way wait for the same refresh. -/
theorem Unfolds.boards {first second : Nat} (h : Unfolds setup run s)
    (free : s.cache.inFlight = none) (stale : s.cache.fresh? setup.ttlMs s.now = none)
    (new : s.caller? first = none) (new' : s.caller? second = none) (apart : second ≠ first) :
    ∃ came s', Unfolds setup (run ++ came) s' ∧ (∀ t ∈ came, t.Keeps) ∧
      Boarding setup s first second s' := by
  let entered : SharedCatalog := { s.launch setup with
    callers := s.callers.put first (.waiting (s.cache.generation + 1)) }
  have enters : s.arrive setup first = entered := arrive_of_free stale free first
  let joined : SharedCatalog := { entered with
    callers := entered.callers.put second (.waiting (s.cache.generation + 1)) }
  have joins : entered.arrive setup second = joined :=
    arrive_of_taken (s := entered) stale rfl second
  have came : Unfolds setup (run ++ [⟨s, .arrive first, entered⟩]) entered :=
    .move h _ _ (enters ▸ .arrive first new)
  have absent : entered.caller? second = none :=
    ((Lookup.find?_put _ _ _ _).trans (if_neg apart)).trans new'
  refine ⟨[⟨s, .arrive first, entered⟩, ⟨entered, .arrive second, joined⟩], joined, ?_, ?_, ?_⟩
  · rw [List.append_cons]
    exact .move came _ _ (joins ▸ .arrive second absent)
  · have enters : Transition.Keeps ⟨s, .arrive first, entered⟩ := rfl
    have joins : Transition.Keeps ⟨entered, .arrive second, joined⟩ := rfl
    exact List.forall_mem_cons.mpr ⟨enters, List.forall_mem_singleton.mpr joins⟩
  · constructor
    case flying => exact (flight?_launch s _).trans (if_pos rfl)
    case kept => rfl
    case latest => rfl
    case now => rfl
    case callers =>
      intro c
      have first_in : entered.caller? c = if c = first then _ else s.caller? c :=
        Lookup.find?_put _ _ _ _
      rw [← first_in]
      exact Lookup.find?_put _ _ _ _

/-- From `s` to `s'` two callers have shared a new refresh. -/
structure Sharing (s : SharedCatalog) (first second : Nat) (outcome : RefreshOutcome)
    (s' : SharedCatalog) : Prop where
  free : s'.cache.inFlight = none
  kept : s'.cache.kept = s.keptAfter outcome
  latest : s'.cache.generation = s.cache.generation + 1
  now : s'.now = s.now
  callers : ∀ c, s'.caller? c =
    if c = second then some (.served (s.cache.generation + 1) outcome)
    else if c = first then some (.served (s.cache.generation + 1) outcome)
    else s.caller? c

/-- Two callers share a refresh from its start to its end, and only the one who leaves
first touches what is kept. -/
theorem Unfolds.shares {first second : Nat} (h : Unfolds setup run s)
    (free : s.cache.inFlight = none) (stale : s.cache.fresh? setup.ttlMs s.now = none)
    (new : s.caller? first = none) (new' : s.caller? second = none) (apart : second ≠ first)
    (ends : Relation.ReflTransGen (Flight.Step s.now) (takeOff setup) (.ready (.done outcome))) :
    ∃ earlier t later s', Unfolds setup (run ++ (earlier ++ t :: later)) s' ∧
      (∀ t' ∈ earlier ++ later, t'.Keeps) ∧ t.Settles (s.cache.generation + 1) ∧
        t.before.cache.kept = s.cache.kept ∧ t.after.cache.kept = s.keptAfter outcome ∧
          Sharing s first second outcome s' := by
  let generation := s.cache.generation + 1
  obtain ⟨came, joined, unfolds, quiet, boarding⟩ := h.boards free stale new new' apart
  rw [← boarding.now] at ends
  obtain ⟨flown, landed, unfolds, quiet', landing⟩ := unfolds.lands boarding.flying ends
  let settled := landed.resume first generation outcome
  let left := settled.resume second generation outcome
  have waits : ∀ c, landed.caller? c = joined.caller? c := fun c =>
    congrArg (Lookup.find? · c) landing.callers
  have waiting : landed.caller? first = some (.waiting generation) := by
    rw [waits, boarding.callers, if_neg apart.symm, if_pos rfl]
  have waiting' : settled.caller? second = some (.waiting generation) := by
    rw [caller?_resume, if_neg apart, waits, boarding.callers, if_pos rfl]
  have kept : settled.cache.kept = s.keptAfter outcome := by
    refine (kept_resume_of_slot landing.slot first outcome).trans ?_
    cases outcome with
    | ok package => rw [keptAfter, keptAfter, landing.now, boarding.now]
    | error cause => exact landing.kept.trans boarding.kept
  have freed : settled.cache.inFlight = none := by
    rw [cache_resume_of_slot landing.slot]
  have same : left.cache = settled.cache := by
    refine cache_resume_of_ne ?_ second outcome
    rw [freed]
    nofun
  refine ⟨came ++ flown, ⟨landed, .resume first, settled⟩, [⟨settled, .resume second, left⟩], left,
    ?_, ?_, ⟨⟨first, rfl, waiting⟩, landing.slot⟩, landing.kept.trans boarding.kept, kept, ?_⟩
  · have settles := unfolds.resume waiting landing.landed
    simpa using settles.resume waiting' landing.landed
  · have last : Transition.Keeps ⟨settled, .resume second, left⟩ :=
      congrArg CatalogCache.kept same
    have before := List.forall_mem_append.mpr ⟨quiet, quiet'⟩
    exact List.forall_mem_append.mpr ⟨before, List.forall_mem_singleton.mpr last⟩
  · constructor
    case free => rw [same, freed]
    case kept => rw [same, kept]
    case latest =>
      rw [same, cache_resume_of_slot landing.slot]
      exact landing.latest.trans boarding.latest
    case now => exact landing.now.trans boarding.now
    case callers =>
      intro c
      rw [caller?_resume, caller?_resume, waits, boarding.callers]
      grind

end SharedCatalog

end Provisioning
