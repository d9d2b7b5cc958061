import Mathlib.Data.Stream.Init
import Provisioning.Proofs.Workflow.Attempts
import Provisioning.Proofs.Workflow.Trials
import Provisioning.Session

/-!
# The retries of a refresh

A fetch of the package may fail at the lookup of its name or at the detail, and
what a refresh makes of a failure depends on which failure it is and on nothing
else.  `Vendor.fetching` is a vendor that answers at once and whose fetches go as a
given stream says, so a statement for every stream is one for every sequence of
replies.

`runBefore` is the run just before an attempt all of whose predecessors failed for the
time being.  An attempt leads from one such run to the next (`tried_of_transient`),
so the account of a whole wait is put together from its last attempt backwards, and
`get_retries` reads the result and the complete history off it.
-/

namespace Provisioning

/-! ## Fetches -/

/-- How a fetch of the package goes: the lookup of its name fails, or it brings a
reference and the detail comes or fails. -/
inductive Fetch where
  | unnamed (cause : Error)
  | named (package : PackageRef) (detail : Except Error ProductPackage)

namespace Fetch

/-- What the fetch brings. -/
def outcome : Fetch → Except Error ProductPackage
  | .unnamed cause => .error cause
  | .named _ detail => detail

/-- The fetch fails with a timeout or through a fault of the vendor. -/
def Transient (fetch : Fetch) : Prop :=
  (∃ seconds, fetch.outcome = .error (.timeout seconds)) ∨
    ∃ fault, fetch.outcome = .error (.vendor fault)

/-- The calls of a fetch.  The detail is asked for only after a successful lookup, by
the number that it brought. -/
def calls (name : String) (time : Nat) : Fetch → List Event
  | .unnamed cause => [.asked time (.activePackageByName name) (.error cause)]
  | .named package detail =>
    [.asked time (.activePackageByName name) (.ok package),
      .asked time (.packageDetail package.id) detail]

/-- The report of a failure that is worth another attempt. -/
def retry (name : String) (time : Nat) (fetch : Fetch) : List Event :=
  match fetch.outcome with
  | .error (.timeout seconds) => [.noticed time (.retryingCatalog name (.timeout seconds))]
  | .error (.vendor fault) => [.noticed time (.retryingCatalog name (.vendor fault))]
  | _ => []

/-- What happens in an attempt. -/
def events (name : String) (time : Nat) (fetch : Fetch) : List Event :=
  fetch.calls name time ++ fetch.retry name time

/-- The report of a failed authorization, which ends a refresh. -/
def refusal (name : String) (time : Nat) (fetch : Fetch) : List Event :=
  match fetch.outcome with
  | .error (.unauthorized text) => [.noticed time (.catalogNotAuthorized name (.unauthorized text))]
  | .error (.catalogAuthorization text) =>
    [.noticed time (.catalogNotAuthorized name (.catalogAuthorization text))]
  | _ => []

/-- What a refresh ends with when the fetch is not made again. -/
def concluded (name : String) (fetch : Fetch) : RefreshOutcome :=
  match fetch.outcome with
  | .ok package => .ok package
  | .error (.unauthorized text) => .error (.catalogAuthorization ("Unauthorized: " ++ text))
  | .error (.catalogAuthorization text) =>
    .error (.catalogAuthorization ("Catalog authorization failed: " ++ text))
  | .error cause => .error (.catalogUnavailable name cause.message)

/-- What an attempt brings. -/
def brought (fetch : Fetch) : Except Error (Option ProductPackage) :=
  match fetch.outcome with
  | .ok package => .ok (some package)
  | .error cause => if cause.isTransient then .ok none else .error cause

theorem brought_of_transient {fetch : Fetch} (transient : fetch.Transient) :
    fetch.brought = .ok none := by
  unfold brought
  rcases transient with ⟨seconds, h⟩ | ⟨fault, h⟩
  · rw [h]
    rfl
  · rw [h]
    rfl

theorem transient_iff {fetch : Fetch} {cause : Error} (failed : fetch.outcome = .error cause) :
    fetch.Transient ↔ cause.isTransient = true := by
  unfold Transient
  rw [failed]
  cases cause <;> simp [Error.isTransient]

end Fetch

/-- A vendor that answers at once.  Its state are the fetches to come. -/
def Vendor.fetching : Vendor (Stream' Fetch) where
  respond fetches _ call :=
    match call, fetches.head with
    | .activePackageByName _, .named package _ => (fetches, 0, .ok package)
    | .activePackageByName _, .unnamed cause => (fetches.tail, 0, .error cause)
    | .packageDetail _, .named _ detail => (fetches.tail, 0, detail)
    | _, _ => (fetches, 0, .error (.vendor (.other "unexpected call")))

/-! ## One attempt -/

theorem run_fetchPackage (name : String) (run : Run (Stream' Fetch)) :
    (fetchPackage name).run.run Vendor.fetching run =
      (run.vendor.head.outcome, ⟨run.vendor.tail, run.now,
        (run.vendor.head.calls name run.now).reverse ++ run.events⟩) := by
  rw [fetchPackage, Procedure.run_bind]
  cases hhead : run.vendor.head with
  | unnamed cause =>
    have reply : Vendor.fetching.respond run.vendor run.now (.activePackageByName name) =
        (run.vendor.tail, 0, .error cause) := by
      simp only [Vendor.fetching, hhead]
    rw [run_request reply]
    rfl
  | named package detail =>
    have reply : Vendor.fetching.respond run.vendor run.now (.activePackageByName name) =
        (run.vendor, 0, .ok package) := by
      simp only [Vendor.fetching, hhead]
    rw [run_request reply]
    have detailed : ∀ looked : Run (Stream' Fetch), looked.vendor = run.vendor →
        looked.now = run.now →
          (request (.packageDetail package.id)).run.run Vendor.fetching looked =
            (detail, ⟨run.vendor.tail, run.now,
              .asked run.now (.packageDetail package.id) detail :: looked.events⟩) := by
      intro looked same now
      have reply' : Vendor.fetching.respond looked.vendor looked.now (.packageDetail package.id) =
          (run.vendor.tail, 0, detail) := by
        simp only [Vendor.fetching, same, hhead]
      rw [run_request reply', now]
      rfl
    exact detailed _ rfl rfl

/-- An attempt of a refresh goes as the next fetch does. -/
theorem run_attemptFetch (name : String) (run : Run (Stream' Fetch)) :
    (attemptFetch name).run.run Vendor.fetching run =
      (run.vendor.head.brought, ⟨run.vendor.tail, run.now,
        (run.vendor.head.events name run.now).reverse ++ run.events⟩) := by
  rw [attemptFetch, Procedure.run_tryCatch, Procedure.run_map, run_fetchPackage]
  unfold Fetch.brought Fetch.events Fetch.retry
  rw [List.reverse_append]
  cases run.vendor.head.outcome with
  | ok package => rfl
  | error cause => cases cause <;> rfl

/-! ## The wait -/

/-- How long after its start a wait makes an attempt when answers take no time. -/
def StagePolicy.offset (policy : StagePolicy) (count : Nat) : Nat :=
  min ((Backoff.ofPolicy policy).spent count) policy.maxWaitMs

section Wait

variable (name : String) (retry : StagePolicy) (start : Run (Stream' Fetch))

/-- What happens in the first attempts of a refresh. -/
def fetchEvents (count : Nat) : List Event :=
  (List.range count).flatMap fun i =>
    (start.vendor.get i).events name (start.now + retry.offset i)

/-- The run just before an attempt. -/
def runBefore (count : Nat) : Run (Stream' Fetch) :=
  ⟨start.vendor.drop count, start.now + retry.offset count,
    (fetchEvents name retry start count).reverse ++ start.events⟩

/-- The run just after an attempt. -/
def runAfter (count : Nat) : Run (Stream' Fetch) :=
  ⟨start.vendor.drop (count + 1), start.now + retry.offset count,
    (fetchEvents name retry start (count + 1)).reverse ++ start.events⟩

theorem runBefore_zero : runBefore name retry start 0 = start := by
  have offset : retry.offset 0 = 0 := Nat.zero_min _
  rw [runBefore, offset]
  rfl

/-- The attempts of a refresh, which carry no state. -/
def refreshAttempt (_ : Unit) : Procedure (Unit × Option ProductPackage) := do
  return ((), ← attemptFetch name)

theorem run_refreshAttempt (count : Nat) :
    (refreshAttempt name ()).run.run Vendor.fetching (runBefore name retry start count) =
      ((start.vendor.get count).brought.map ((), ·), runAfter name retry start count) := by
  have head : (start.vendor.drop count).head = start.vendor.get count := Stream'.head_drop _ _
  have tail : (start.vendor.drop count).tail = start.vendor.drop (count + 1) := Stream'.tail_drop'
  have events : fetchEvents name retry start (count + 1) = fetchEvents name retry start count ++
      (start.vendor.get count).events name (start.now + retry.offset count) := by
    rw [fetchEvents, List.range_succ, List.flatMap_append, List.flatMap_singleton, fetchEvents]
  rw [refreshAttempt, Procedure.run_bind, run_attemptFetch]
  simp only [runBefore, head, tail, runAfter, events, List.reverse_append, List.append_assoc]
  cases (start.vendor.get count).brought <;> rfl

/-- The pause after an attempt leads to the next one. -/
theorem runBefore_succ (count : Nat) :
    { runAfter name retry start count with
      now := (runAfter name retry start count).now +
        min (1 * ((Backoff.ofPolicy retry).after count).period)
          (start.now + retry.maxWaitMs - (runAfter name retry start count).now) } =
      runBefore name retry start (count + 1) := by
  have now : start.now + retry.offset count + min (1 * ((Backoff.ofPolicy retry).after count).period)
      (start.now + retry.maxWaitMs - (start.now + retry.offset count)) =
        start.now + retry.offset (count + 1) := by
    simp only [StagePolicy.offset, Backoff.spent_succ]
    omega
  simp only [runAfter, runBefore, now]

section Account

variable {name retry start}

/-- The account of a wait from an attempt on, if all before it failed for the time
being, is one of the whole wait. -/
theorem tried_of_transient {count : Nat} (allowed : count < retry.attempts)
    (transient : ∀ i < count, (start.vendor.get i).Transient)
    {trials : List (Trial ProductPackage)} {result : Except Error (Unit × Option ProductPackage)}
    {final : Run (Stream' Fetch)}
    (tried : Tried Vendor.fetching (refreshAttempt name) 1 (start.now + retry.maxWaitMs)
      ((Backoff.ofPolicy retry).after count) () (runBefore name retry start count) trials result
      final) :
    ∃ trials, Tried Vendor.fetching (refreshAttempt name) 1 (start.now + retry.maxWaitMs)
      (.ofPolicy retry) () start trials result final := by
  induction count generalizing trials with
  | zero =>
    rw [runBefore_zero] at tried
    exact ⟨trials, tried⟩
  | succ count ih =>
    have attempt := run_refreshAttempt name retry start count
    rw [Fetch.brought_of_transient (transient count (Nat.lt_succ_self _))] at attempt
    have early : (runAfter name retry start count).now < start.now + retry.maxWaitMs := by
      have left := retry.spent_lt_of_lt_attempts allowed
      simp only [runAfter, StagePolicy.offset]
      omega
    rw [← runBefore_succ] at tried
    exact ih (Nat.lt_of_succ_lt allowed) (fun i hi => transient i (Nat.lt_succ_of_lt hi))
      (.again attempt early tried)

end Account

variable {retry}

/-- The wait that ends with the first fetch that is not transient. -/
theorem run_pollUntil_decided {count : Nat} (allowed : count < retry.attempts)
    (transient : ∀ i < count, (start.vendor.get i).Transient)
    (lasting : ¬(start.vendor.get count).Transient) :
    (pollUntil retry () (refreshAttempt name)).run.run Vendor.fetching start =
      ((start.vendor.get count).outcome.map ((), some ·), runAfter name retry start count) := by
  have attempt := run_refreshAttempt name retry start count
  have tried : ∃ trials, Tried Vendor.fetching (refreshAttempt name) 1 (start.now + retry.maxWaitMs)
      ((Backoff.ofPolicy retry).after count) () (runBefore name retry start count) trials
      ((start.vendor.get count).outcome.map ((), some ·)) (runAfter name retry start count) := by
    unfold Fetch.brought at attempt
    cases brings : (start.vendor.get count).outcome with
    | ok package =>
      rw [brings] at attempt
      exact ⟨_, .found attempt⟩
    | error cause =>
      rw [Fetch.transient_iff brings] at lasting
      rw [brings] at attempt
      dsimp only at attempt
      rw [if_neg lasting] at attempt
      exact ⟨_, .failed attempt⟩
  obtain ⟨_, tried⟩ := tried
  obtain ⟨_, tried⟩ := tried_of_transient allowed transient tried
  exact tried.run_pollUntil

/-- The wait in which no fetch is other than transient. -/
theorem run_pollUntil_exhausted
    (transient : ∀ i < retry.attempts, (start.vendor.get i).Transient) :
    (pollUntil retry () (refreshAttempt name)).run.run Vendor.fetching start =
      (.ok ((), none), runAfter name retry start (retry.attempts - 1)) ∧
      retry.offset (retry.attempts - 1) = retry.maxWaitMs := by
  have positive : 0 < retry.attempts := by
    unfold StagePolicy.attempts
    omega
  have last : retry.attempts - 1 < retry.attempts := by omega
  have offset : retry.offset (retry.attempts - 1) = retry.maxWaitMs :=
    Nat.min_eq_right (retry.le_spent_of_attempts_le (by omega))
  have attempt := run_refreshAttempt name retry start (retry.attempts - 1)
  rw [Fetch.brought_of_transient (transient _ last)] at attempt
  have late :
      start.now + retry.maxWaitMs ≤ (runAfter name retry start (retry.attempts - 1)).now := by
    rw [runAfter, offset]
  obtain ⟨_, tried⟩ := tried_of_transient last (fun i hi => transient i (by omega))
    (.spent attempt late)
  exact ⟨tried.run_pollUntil, offset⟩

end Wait

/-! ## The refresh -/

/-- A refresh reports that it begins, and turns what its wait brought into its
outcome. -/
theorem run_refreshCatalog {σ : Type} (v : Vendor σ) (name : String) (retry : StagePolicy)
    (start : Run σ) :
    (refreshCatalog name retry).run v start =
      match (pollUntil retry () (refreshAttempt name)).run.run v
        { start with events := .noticed start.now (.refreshingCatalog name) :: start.events } with
      | (.ok (_, some package), after) => (.ok package, after)
      | (.ok (_, none), after) =>
        (.error (.catalogUnavailable name
          ("still failing after " ++ toString retry.maxWaitMs ++ "ms")), after)
      | (.error cause, after) =>
        if cause.isAuthorization then
          (.error (.catalogAuthorization cause.message),
            { after with
              events := .noticed after.now (.catalogNotAuthorized name cause) :: after.events })
        else (.error (.catalogUnavailable name cause.message), after) := by
  show Workflow.run v (Workflow.bind (pollUntil retry () (refreshAttempt name)).run _)
    { start with events := .noticed start.now (.refreshingCatalog name) :: start.events } = _
  rw [Workflow.run_bind]
  rcases (pollUntil retry () (refreshAttempt name)).run.run v
    { start with events := .noticed start.now (.refreshingCatalog name) :: start.events }
    with ⟨cause | ⟨_, _ | package⟩, after⟩
  · by_cases refused : cause.isAuthorization = true
    · simp only [refused, if_true]
      rfl
    · simp only [refused]
      rfl
  · rfl
  · rfl

/-- A lookup of the catalog by a caller who finds what others have left in the cache
and is alone with the vendor. -/
def CatalogCache.get {σ : Type} (cache : CatalogCache Unit) (v : Vendor σ) (config : Config)
    (start : Run σ) : RefreshOutcome × CatalogCache Unit × Run σ :=
  match cache.enter config.catalogTtlMs start.now () with
  | (cache, .hit package) => (.ok package, cache, start)
  | (cache, .wait generation) =>
    let (outcome, ended) :=
      (refreshCatalog config.packageName config.polling.catalogRetry).run v start
    (outcome, (cache.complete outcome).leave generation outcome ended.now, ended)

/-- The lookup of a session is one of its simulated vendor. -/
theorem Session.catalog_eq_get (s : Session) :
    s.catalog = ((s.cache.get Simulator.asVendor s.provisioner.config s.run).1,
      { s with
        cache := (s.cache.get Simulator.asVendor s.provisioner.config s.run).2.1
        run := (s.cache.get Simulator.asVendor s.provisioner.config s.run).2.2 }) := by
  unfold Session.catalog CatalogCache.get
  dsimp only
  generalize s.cache.enter s.provisioner.config.catalogTtlMs s.run.now () = entered
  rcases entered with ⟨cache, package | generation⟩ <;> rfl

/-- A refresh over given fetches, from `start` on: its outcome and where it leaves the
run.

* The first fetch that is not transient is the last one, if the policy allows it
  (`decided`).  The outcome is that of this fetch.
* If no fetch that the policy allows is of that kind, all that are allowed are made and
  the budget is spent (`exhausted`).

In both cases nothing happens but the report that the refresh begins, the attempts at
their times with one report for each that is to be repeated, and the report of a failed
authorization. -/
structure Refreshed (name : String) (retry : StagePolicy) (start : Run (Stream' Fetch))
    (outcome : RefreshOutcome) (ended : Run (Stream' Fetch)) : Prop where
  decided : ∀ k < retry.attempts, (∀ i < k, (start.vendor.get i).Transient) →
    ¬(start.vendor.get k).Transient →
      outcome = (start.vendor.get k).concluded name ∧
      ended.history = start.history ++ .noticed start.now (.refreshingCatalog name) ::
        (fetchEvents name retry start (k + 1) ++
          (start.vendor.get k).refusal name (start.now + retry.offset k))
  exhausted : (∀ i < retry.attempts, (start.vendor.get i).Transient) →
    outcome = .error (.catalogUnavailable name
      ("still failing after " ++ toString retry.maxWaitMs ++ "ms")) ∧
    ended.now = start.now + retry.maxWaitMs ∧
    ended.history = start.history ++ .noticed start.now (.refreshingCatalog name) ::
      fetchEvents name retry start retry.attempts

theorem refreshed_refreshCatalog (name : String) (retry : StagePolicy)
    (start : Run (Stream' Fetch)) :
    Refreshed name retry start ((refreshCatalog name retry).run Vendor.fetching start).1
      ((refreshCatalog name retry).run Vendor.fetching start).2 := by
  let begun : Run (Stream' Fetch) :=
    { start with events := .noticed start.now (.refreshingCatalog name) :: start.events }
  have history : ∀ count more, (more.reverse ++ (runAfter name retry begun count).events).reverse =
      start.history ++ .noticed start.now (.refreshingCatalog name) ::
        (fetchEvents name retry start (count + 1) ++ more) := by
    intro count more
    have same :
        fetchEvents name retry begun (count + 1) = fetchEvents name retry start (count + 1) := rfl
    simp [runAfter, same, begun, Run.history]
  rw [run_refreshCatalog]
  constructor
  case decided =>
    intro k allowed transient lasting
    have waited := run_pollUntil_decided name begun allowed transient lasting
    rw [waited]
    have vendor : begun.vendor = start.vendor := rfl
    have recorded := history k
    unfold Fetch.concluded Fetch.refusal
    rw [vendor]
    cases fetched : (start.vendor.get k).outcome with
    | ok package => exact ⟨rfl, recorded []⟩
    | error cause =>
      cases cause with
      | unauthorized text =>
        exact ⟨rfl, recorded [.noticed _ (.catalogNotAuthorized name (.unauthorized text))]⟩
      | catalogAuthorization text =>
        exact ⟨rfl, recorded [.noticed _ (.catalogNotAuthorized name (.catalogAuthorization text))]⟩
      | _ => exact ⟨rfl, recorded []⟩
  case exhausted =>
    intro transient
    obtain ⟨waited, offset⟩ := run_pollUntil_exhausted name begun transient
    rw [waited]
    refine ⟨rfl, congrArg (start.now + ·) offset, ?_⟩
    have recorded := history (retry.attempts - 1) []
    rw [List.append_nil, Nat.sub_add_cancel (by unfold StagePolicy.attempts; omega)] at recorded
    exact recorded

/-- The lookup of the catalog retries exactly the transient failures.  The fetches that are
allowed are `StagePolicy.attempts`, over pauses of 64 bits if `StagePolicy.PausesFit` is true
of the policy. -/
theorem get_retries (config : Config) {cache : CatalogCache Unit} {start : Run (Stream' Fetch)}
    (stale : cache.fresh? config.catalogTtlMs start.now = none) (idle : cache.inFlight = none) :
    Refreshed config.packageName config.polling.catalogRetry start
      (cache.get Vendor.fetching config start).1 (cache.get Vendor.fetching config start).2.2 := by
  have entered : cache.enter config.catalogTtlMs start.now () =
      ({ cache with
          generation := cache.generation + 1
          inFlight := some (cache.generation + 1, ()) }, .wait (cache.generation + 1)) := by
    unfold CatalogCache.enter
    rw [stale, idle]
  unfold CatalogCache.get
  rw [entered]
  exact refreshed_refreshCatalog _ _ start

/-- A timeout is retried, and a refused detail is not. -/
theorem get_retries_refused :
    let refused : Fetch := .named ⟨50, "bare metal"⟩ (.error (.unauthorized "invalid API key"))
    let start : Run (Stream' Fetch) := { vendor := .cons (.unnamed (.timeout 30)) (.const refused) }
    let got := CatalogCache.get {} Vendor.fetching {} start
    Refreshed (Config.packageName {}) (PollingConfig.catalogRetry {}) start got.1 got.2.2 ∧
      got.1 = .error (.catalogAuthorization "Unauthorized: invalid API key") := by
  intro refused start got
  have refreshed : Refreshed (Config.packageName {}) (PollingConfig.catalogRetry {}) start
      got.1 got.2.2 := get_retries {} rfl rfl
  have unspent : ¬(PollingConfig.catalogRetry {}).maxWaitMs ≤
      (Backoff.ofPolicy (PollingConfig.catalogRetry {})).spent 0 := by decide
  have allowed : 1 < (PollingConfig.catalogRetry {}).attempts :=
    Nat.lt_of_not_le fun few => unspent (StagePolicy.le_spent_of_attempts_le _ few)
  have transient : ∀ i < 1, (start.vendor.get i).Transient := by
    intro i hi
    obtain rfl : i = 0 := by omega
    exact .inl ⟨30, rfl⟩
  have lasting : ¬(start.vendor.get 1).Transient := by
    rintro (⟨_, ⟨⟩⟩ | ⟨_, ⟨⟩⟩)
  exact ⟨refreshed, (refreshed.decided 1 allowed transient lasting).1⟩

end Provisioning
