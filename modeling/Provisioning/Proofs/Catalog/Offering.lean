import Provisioning.Proofs.Catalog.Browsing
import Provisioning.Proofs.Vendor.Aftermath
import Provisioning.Proofs.Vendor.Alone
import Provisioning.Proofs.Workflow.Steady

/-!
# A vendor that answers at once

A simulated vendor without faults to come and without latency answers a lookup of its
catalog at once and always in the same way: with the package that it offers, if that
has the name that is asked for, and with a failure otherwise (`Simulator.offered`).
So it makes no difference to a session whether the package was kept or is fetched
again, and a session goes on like any other one whose vendor is alike
(`Session.perform_alike`).
-/

namespace Provisioning

variable {α : Type}

/-! ## Prompt vendors -/

namespace Simulator

variable {s t : Simulator}

/-- No fault is to come, and nothing takes time. -/
structure Prompt (s : Simulator) : Prop where
  faultless : s.catalogFaults = []
  instant : s.catalogLatencyMs = 0

/-- What comes of a refresh of the catalog. -/
def offered (s : Simulator) (name : String) : RefreshOutcome :=
  match s.catalog with
  | some package =>
    if package.name = name then .ok package
    else .error (.catalogUnavailable name (Error.notFound "package" name).message)
  | none => .error (.catalogUnavailable name (Error.notFound "package" name).message)

theorem Alike.prompt (h : s.Alike t) (prompt : s.Prompt) : t.Prompt := by
  obtain ⟨calls, submitted, rfl⟩ := h
  exact ⟨prompt.faultless, prompt.instant⟩

theorem Alike.offered (h : s.Alike t) (name : String) : s.offered name = t.offered name := by
  obtain ⟨calls, submitted, rfl⟩ := h
  rfl

/-- A prompt vendor stays prompt. -/
theorem Prompt.call (h : s.Prompt) (c : Call) : (s.call c).1.Prompt := by
  obtain ⟨-, -, hlatency, hfaults⟩ := s.settings_call c
  rw [h.faultless, List.suffix_nil] at hfaults
  exact ⟨hfaults, hlatency.trans h.instant⟩

end Simulator

/-! ## Refreshes -/

/-- Nothing has happened but that the vendor has counted some calls. -/
def Solitude.Idled (g g' : Solitude) : Prop :=
  g'.now = g.now ∧ g.vendor.Alike g'.vendor

theorem Solitude.Idled.trans {g g' g'' : Solitude} (h : g.Idled g') (h' : g'.Idled g'') :
    g.Idled g'' :=
  ⟨h'.1.trans h.1, h.2.trans h'.2⟩

theorem Simulator.of_packageRef_eq_ok {s : Simulator} {name : String} {ref : PackageRef}
    (h : s.packageRef name = .ok ref) :
    ∃ package, s.catalog = some package ∧ package.id = ref.id ∧
      s.offered name = .ok package := by
  unfold packageRef at h
  unfold offered
  cases hcatalog : s.catalog with
  | some package =>
    rw [hcatalog] at h
    dsimp only at h
    split at h
    · rename_i hname
      cases h
      exact ⟨package, rfl, rfl, if_pos hname⟩
    · cases h
  | none =>
    rw [hcatalog] at h
    cases h

theorem Simulator.of_packageRef_eq_error {s : Simulator} {name : String} {cause : Error}
    (h : s.packageRef name = .error cause) :
    cause = .notFound "package" name ∧
      s.offered name = .error (.catalogUnavailable name cause.message) := by
  unfold packageRef at h
  unfold offered
  cases hcatalog : s.catalog with
  | some package =>
    rw [hcatalog] at h
    dsimp only at h
    split at h
    · cases h
    · rename_i hname
      cases h
      exact ⟨rfl, if_neg hname⟩
  | none =>
    rw [hcatalog] at h
    cases h
    exact ⟨rfl, rfl⟩

/-- The lookup of a package by name is answered at once. -/
theorem assures_packageByName_prompt {name : String} {ok : PackageRef → Solitude → Prop}
    {fail : Error → Solitude → Prop} {g : Solitude} (prompt : g.vendor.Prompt)
    (found : ∀ package g', g.vendor.packageRef name = .ok package → g.Idled g' → ok package g')
    (missing : ∀ cause g', g.vendor.packageRef name = .error cause → g.Idled g' → fail cause g') :
    (request (.activePackageByName name)).Assures .alone ok fail g := by
  have answered : ∀ answer g', Surroundings.alone.Answers g (.activePackageByName name) answer g' →
      answer = g.vendor.packageRef name ∧ g.Idled g' := by
    rintro answer g' ⟨rfl, rfl⟩
    obtain ⟨now, vendor⟩ := g
    obtain ⟨faultless, instant⟩ := prompt
    cases vendor
    cases faultless
    cases instant
    exact ⟨rfl, rfl, _, _, rfl⟩
  refine (Procedure.assures_request _ _ _).mpr ⟨trivial, fun package g' h => ?_, fun cause g' h => ?_⟩
  · exact found package g' (answered _ g' h).1.symm (answered _ g' h).2
  · exact missing cause g' (answered _ g' h).1.symm (answered _ g' h).2

/-- The first attempt of a refresh decides. -/
theorem assures_attemptFetch_prompt {g : Solitude} (prompt : g.vendor.Prompt) (name : String) :
    (attemptFetch name).Assures .alone
      (fun found g' => ∃ package, found = some package ∧
        g.vendor.offered name = .ok package ∧ g.Idled g')
      (fun cause g' => cause.isAuthorization = false ∧
        g.vendor.offered name = .error (.catalogUnavailable name cause.message) ∧ g.Idled g') g := by
  simp only [attemptFetch, fetchPackage, Procedure.assures_bind, Procedure.assures_tryCatch,
    Procedure.assures_map]
  refine assures_packageByName_prompt prompt (fun ref g' href idled => ?_) fun cause g' hcause idled => ?_
  · obtain ⟨package, hcatalog, hid, hoffered⟩ := Simulator.of_packageRef_eq_ok href
    have hdetail : (g'.vendor.call (.packageDetail ref.id)).2 = .ok package := by
      obtain ⟨-, calls, submitted, hvendor⟩ := idled
      rw [hvendor] at hcatalog
      show g'.vendor.packageDetail ref.id = _
      unfold Simulator.packageDetail
      have hcatalog : g'.vendor.catalog = some package := hcatalog
      rw [hcatalog]
      exact if_pos hid
    refine assures_request_alone (fun h => (by cases h)) (fun reply hreply => ?_) fun cause hcause => ?_
    · cases hdetail.symm.trans hreply
      exact ⟨package, rfl, hoffered, idled.trans ⟨rfl, g'.vendor.calls, g'.vendor.submitted, rfl⟩⟩
    · cases hdetail.symm.trans hcause
  · obtain ⟨rfl, hoffered⟩ := Simulator.of_packageRef_eq_error hcause
    exact ⟨rfl, hoffered, idled⟩

/-- A refresh brings what is offered, at once. -/
theorem assures_refreshCatalog_prompt {g : Solitude} (prompt : g.vendor.Prompt) (name : String)
    (retry : StagePolicy) :
    (refreshCatalog name retry).Assures .alone
      (fun outcome g' => outcome = g.vendor.offered name ∧ g.Idled g') g := by
  have fetched : (pollUntil retry () fun _ => do return ((), ← attemptFetch name)).Assures .alone
      (fun result g' => ∃ package, result.2 = some package ∧
        g.vendor.offered name = .ok package ∧ g.Idled g')
      (fun cause g' => cause.isAuthorization = false ∧
        g.vendor.offered name = .error (.catalogUnavailable name cause.message) ∧ g.Idled g') g := by
    refine assures_pollUntil_first ?_
    simp only [Procedure.assures_bind, Procedure.assures_pure]
    refine (assures_attemptFetch_prompt prompt name).mono ?_ fun _ _ h => h
    rintro found g' ⟨package, rfl, h⟩
    exact ⟨rfl, package, rfl, h⟩
  simp only [refreshCatalog, Workflow.assures_monadBind, Workflow.notify, Workflow.Assures]
  refine Workflow.Assures.mono fetched fun result g' h => ?_
  rcases result with cause | ⟨_, found⟩
  · obtain ⟨unauthorized, hoffered, idled⟩ := h
    simp only [unauthorized, Bool.false_eq_true, if_false]
    exact ⟨hoffered.symm, idled⟩
  · obtain ⟨package, rfl, hoffered, idled⟩ := h
    exact ⟨hoffered.symm, idled⟩

/-! ## Sessions -/

/-- The vendor is prompt, no refresh is under way, and the package that is kept is the
one that is offered. -/
structure Session.Settled (s : Session) : Prop where
  prompt : s.simulator.Prompt
  idle : s.cache.inFlight = none
  kept : ∀ package time, s.cache.kept = some (package, time) →
    s.simulator.offered s.provisioner.config.packageName = .ok package

namespace Session

variable {s t : Session}

theorem perform_provisioner (s : Session) (job : Job α) :
    (s.perform job).2.provisioner = s.provisioner := by
  cases job with
  | plain workflow => rfl
  | withCatalog workflow => exact s.catalog_snd.1

/-- A job changes neither the kind nor the catalog of a vendor. -/
theorem perform_settings (s : Session) (job : Job α) :
    (s.perform job).2.simulator.kind = s.simulator.kind ∧
      (s.perform job).2.simulator.catalog = s.simulator.catalog := by
  refine perform_keeps
    (P := fun v => v.kind = s.simulator.kind ∧ v.catalog = s.simulator.catalog) ?_ job ⟨rfl, rfl⟩
  intro v c h
  obtain ⟨hkind, hcatalog, -⟩ := v.settings_call c
  exact ⟨hkind.trans h.1, hcatalog.trans h.2⟩

/-- The lookup of the catalog brings what is offered, whether it is kept or not. -/
theorem Settled.catalog (settled : s.Settled) :
    s.catalog.1 = s.simulator.offered s.provisioner.config.packageName ∧
      s.catalog.2.run.now = s.run.now ∧ s.simulator.Alike s.catalog.2.simulator ∧
      s.catalog.2.Settled := by
  unfold Session.catalog CatalogCache.enter
  dsimp only
  cases hfresh : s.cache.fresh? s.provisioner.config.catalogTtlMs s.run.now with
  | some package =>
    have kept : ∃ time, s.cache.kept = some (package, time) := by
      unfold CatalogCache.fresh? at hfresh
      split at hfresh
      · rename_i kept time hkept
        split at hfresh
        · cases hfresh
          exact ⟨time, hkept⟩
        · cases hfresh
      · cases hfresh
    obtain ⟨time, hkept⟩ := kept
    exact ⟨(settled.kept package time hkept).symm, rfl, .refl _,
      settled.prompt, settled.idle, settled.kept⟩
  | none =>
    rw [settled.idle]
    have refreshed := (assures_refreshCatalog_prompt (g := ⟨s.run.now, s.run.vendor⟩)
      settled.prompt s.provisioner.config.packageName
      s.provisioner.config.polling.catalogRetry).run_alone s.run
    simp only [runWorkflow]
    generalize Workflow.run _ _ s.run = ended at refreshed ⊢
    obtain ⟨outcome, run⟩ := ended
    obtain ⟨houtcome, hnow, alike⟩ := refreshed
    have prompt : run.vendor.Prompt := alike.prompt settled.prompt
    have offered := alike.offered s.provisioner.config.packageName
    refine ⟨houtcome, hnow, alike, ?_⟩
    cases outcome with
    | ok package =>
      refine ⟨prompt, by simp [CatalogCache.leave, CatalogCache.complete], ?_⟩
      intro kept time hkept
      simp only [CatalogCache.leave, CatalogCache.complete, if_true, Option.some.injEq,
        Prod.mk.injEq] at hkept
      rw [← hkept.1]
      exact (houtcome.trans offered).symm
    | error cause =>
      refine ⟨prompt, by simp [CatalogCache.leave, CatalogCache.complete], ?_⟩
      intro kept time hkept
      simp only [CatalogCache.leave, CatalogCache.complete, if_true] at hkept
      exact offered.symm.trans (settled.kept kept time hkept)

theorem Settled.runWorkflow (settled : s.Settled) (w : Workflow α) :
    (s.runWorkflow w).2.Settled := by
  have keeps : ∀ (v : Simulator) c, v.Prompt → (v.call c).1.Prompt := fun _ c h => h.call c
  have prompt := Workflow.run_keeps keeps w s.run settled.prompt
  have hcatalog : (s.runWorkflow w).2.simulator.catalog = s.simulator.catalog :=
    (s.perform_settings (.plain w)).2
  refine ⟨prompt, settled.idle, fun package time hkept => ?_⟩
  have offered := settled.kept package time hkept
  unfold Simulator.offered at offered ⊢
  rw [hcatalog]
  exact offered

/-- A job leaves a session settled. -/
theorem Settled.perform (settled : s.Settled) (job : Job α) : (s.perform job).2.Settled := by
  cases job with
  | plain workflow => exact settled.runWorkflow workflow
  | withCatalog workflow => exact settled.catalog.2.2.2.runWorkflow _

/-- Jobs do the same in sessions whose vendors are alike, at any time and with or without a
package that is kept. -/
theorem perform_alike (hs : s.Settled) (ht : t.Settled) (same : s.provisioner = t.provisioner)
    (alike : s.simulator.Alike t.simulator) {late : Nat} (time : t.run.now = s.run.now + late)
    {job : Job α} (steady : ∀ catalog, (job.after catalog).Steady) :
    (s.perform job).1 = (t.perform job).1 ∧
      (s.perform job).2.simulator.Alike (t.perform job).2.simulator := by
  cases job with
  | plain workflow =>
    have runs := (steady s.catalog.1 late).run alike time
    exact ⟨runs.result, runs.vendor⟩
  | withCatalog workflow =>
    obtain ⟨hs, hnow, hvendor, -⟩ := hs.catalog
    obtain ⟨ht, hnow', hvendor', -⟩ := ht.catalog
    have outcome : t.catalog.1 = s.catalog.1 := by rw [hs, ht, ← same, alike.offered]
    have runs := (steady s.catalog.1 late).run
      ((hvendor.symm.trans alike).trans hvendor') (by rw [hnow', hnow, time])
    simp only [perform, outcome]
    exact ⟨runs.result, runs.vendor⟩

end Session

end Provisioning
