import Provisioning.Proofs.Vendor.Deeds

/-!
# The replay of a script

A script is put in place for an id by a control, by an order or by a
cancellation, and then the looks at that id take its entries one after the other,
whatever else is done to the vendor in the meantime.  Two numbers say all that
matters of a run since then: how many looks there were, and whether the billing
item of the resource was cancelled.  `pending_after` is the invariant, what is
left of the script after so many looks, and `script_replayed` says what the vendor
does in the state that it leads to.

What remains constant is the script that was put in place.  The entries that the
vendor keeps shrink with each look and its outcome changes with a cancellation,
so an invariant about these alone would not tell which entry comes next.
-/

namespace Provisioning

namespace Script

/-- What is left of a script after so many looks, if it is not over.  Even an empty
script is there for one look. -/
def left (script : Script) (looks : Nat) : Option Script :=
  if looks = 0 ∨ looks < script.entries.length then
    some { script with entries := script.entries.drop looks }
  else none

/-- The script after a cancellation, if there was one. -/
def fated (script : Script) (cancelled : Bool) : Script :=
  { script with outcome := if cancelled then .removed else script.outcome }

theorem left_zero (script : Script) : script.left 0 = some script := by
  rw [left, if_pos (.inl rfl)]
  rfl

theorem fated_false (script : Script) : script.fated false = script :=
  rfl

theorem fated_fated (script : Script) (cancelled cancelled' : Bool) :
    (script.fated cancelled).fated cancelled' = script.fated (cancelled || cancelled') := by
  cases cancelled <;> cases cancelled' <;> rfl

theorem map_fated_left (script : Script) (looks : Nat) (cancelled : Bool) :
    (script.left looks).map (·.fated cancelled) = (script.fated cancelled).left looks := by
  unfold left
  by_cases hleft : looks = 0 ∨ looks < script.entries.length
  · rw [if_pos hleft]
    exact (if_pos hleft).symm
  · rw [if_neg hleft]
    exact (if_neg hleft).symm

end Script

/-- A look at a script of which something may be left. -/
theorem Holding.look_left {h : Holding} {script : Script} {looks : Nat}
    (pending : h.script = script.left looks) :
    h.look.2 = script.entries[looks]?.join ∧
      h.look.1.script = script.left (looks + 1) ∧
      h.look.1.resource =
        if looks + 1 = max 1 script.entries.length then h.finish script.outcome
        else h.resource := by
  by_cases hleft : looks = 0 ∨ looks < script.entries.length
  · have played : h = h.played script looks := by
      rw [Script.left, if_pos hleft] at pending
      rw [Holding.played, if_pos hleft, ← pending]
    have looked := congrArg Holding.look played
    rw [Holding.look_played] at looked
    rw [looked]
    unfold Holding.played Script.left
    refine ⟨rfl, ?_⟩
    by_cases hnext : looks + 1 < script.entries.length
    · rw [if_pos (.inr hnext), if_pos (.inr hnext), if_neg (by omega)]
      exact ⟨rfl, rfl⟩
    · have hover : ¬(looks + 1 = 0 ∨ looks + 1 < script.entries.length) := by omega
      rw [if_neg hover, if_neg hover, if_pos (by omega)]
      exact ⟨rfl, rfl⟩
  · rw [Script.left, if_neg hleft] at pending
    have looked : h.look = (h, none) := by
      unfold Holding.look
      rw [pending]
    rw [looked, Script.left, if_neg (by omega), if_neg (by omega),
      List.getElem?_eq_none (by omega)]
    exact ⟨rfl, pending, rfl⟩

namespace Simulator

variable {s : Simulator} {id : ResourceId} {script : Script} {deed : Deed} {deeds : List Deed}

/-! ## What is done about a script -/

/-- The script that a deed puts in place for an id.  An order and a cancellation
do so only if there is none. -/
def installed? (s : Simulator) (id : ResourceId) : Deed → Option Script
  | .control (.scriptTransactions other entries) =>
    if other = id then some ⟨entries, .provisioned⟩ else none
  | .call (.submitOrder order) =>
    if s.givenId order.resource.hostname = id ∧ (s.scripts.find? id).isNone then
      some (.provisioning s.nextTransactionId)
    else none
  | .call (.cancelBillingItem item) =>
    if s.bills id item ∧ (s.scripts.find? id).isNone then
      some (.decommission s.nextTransactionId)
    else none
  | _ => none

/-- The deed is a look at the feed of the resource. -/
def Deed.looksAt (id : ResourceId) : Deed → Bool
  | .call (.activeTransaction other) => other == id
  | _ => false

/-- The number of looks at the feed of the resource. -/
def looks (id : ResourceId) (deeds : List Deed) : Nat :=
  deeds.countP (·.looksAt id)

theorem looks_cons (id : ResourceId) (deed : Deed) (rest : List Deed) :
    looks id (deed :: rest) = (if deed.looksAt id then 1 else 0) + looks id rest := by
  rw [looks, List.countP_cons, Nat.add_comm]
  rfl

/-- The deed cancels the billing item of the resource. -/
def cancels (s : Simulator) (id : ResourceId) : Deed → Bool
  | .call (.cancelBillingItem item) => s.bills id item
  | _ => false

/-- One of the deeds cancels the billing item of the resource. -/
def cancelledIn (s : Simulator) (id : ResourceId) : List Deed → Bool
  | [] => false
  | deed :: rest => s.cancels id deed || (s.does deed).cancelledIn id rest

/-- Nothing puts a script in place for this id, and the vendor is tidy all along. -/
def Undisturbed (s : Simulator) (id : ResourceId) : List Deed → Prop
  | [] => s.Tidy
  | deed :: rest => s.Tidy ∧ s.installed? id deed = none ∧ (s.does deed).Undisturbed id rest

theorem Undisturbed.tidy (h : s.Undisturbed id deeds) : (s.after deeds).Tidy := by
  induction deeds generalizing s with
  | nil => exact h
  | cons deed rest ih => exact ih h.2.2

/-- A script that is put in place is there. -/
theorem find?_of_installed? (tidy : s.Tidy) (installs : s.installed? id deed = some script) :
    (s.does deed).scripts.find? id = some script := by
  have held : (s.does deed).scripts.find? id = (s.heldAfter id deed).script :=
    congrArg Holding.script (holding_does tidy id deed)
  rw [held]
  unfold installed? at installs
  split at installs
  · split at installs
    · rename_i heq
      rw [heldAfter, if_pos heq]
      exact installs
    · cases installs
  · split at installs
    · rename_i hnew
      obtain ⟨heq, hnone⟩ := hnew
      rw [heldAfter, if_pos heq, ← installs]
      dsimp only [firstScript]
      rw [Option.isNone_iff_eq_none.mp hnone]
    · cases installs
  · split at installs
    · rename_i hnew
      obtain ⟨hbills, hnone⟩ := hnew
      rw [heldAfter, if_pos hbills, ← installs]
      have hscript : (s.holding id).script = none := Option.isNone_iff_eq_none.mp hnone
      simp only [Holding.cancelled, hscript]
    · cases installs
  · cases installs

/-- A deed that puts no script in place and is no look changes a script only if
it is a cancellation. -/
theorem script_heldAfter (uninstalled : s.installed? id deed = none)
    (blind : deed.looksAt id = false) :
    (s.heldAfter id deed).script =
      (s.scripts.find? id).map (·.fated (s.cancels id deed)) := by
  have kept : s.scripts.find? id = (s.scripts.find? id).map (·.fated false) :=
    Option.map_id'.symm
  cases deed with
  | arrival c => exact kept
  | control control =>
    cases control with
    | scriptTransactions other entries =>
      simp only [installed?, ite_eq_right_iff, reduceCtorEq, imp_false] at uninstalled
      rw [heldAfter, if_neg uninstalled]
      exact kept
    | insertResource resource =>
      simp only [heldAfter]
      split <;> exact kept
    | completeProvisioning other =>
      simp only [heldAfter]
      split <;> exact kept
    | _ => exact kept
  | call c =>
    cases c with
    | submitOrder order =>
      simp only [heldAfter]
      split
      · rename_i hid
        simp only [installed?, hid, true_and, ite_eq_right_iff, reduceCtorEq, imp_false,
          Option.isNone_iff_eq_none] at uninstalled
        obtain ⟨script, hscript⟩ := Option.ne_none_iff_exists'.mp uninstalled
        simp only [firstScript, hscript]
        rfl
      · exact kept
    | activeTransaction other =>
      have hne : other ≠ id := by simpa [Deed.looksAt] using blind
      rw [heldAfter, if_neg hne]
      exact kept
    | cancelBillingItem item =>
      simp only [heldAfter, cancels]
      split
      · rename_i hbills
        simp only [installed?, hbills, true_and, ite_eq_right_iff, reduceCtorEq, imp_false,
          Option.isNone_iff_eq_none] at uninstalled
        obtain ⟨script, hscript⟩ := Option.ne_none_iff_exists'.mp uninstalled
        have held : (s.holding id).script = some script := hscript
        simp only [Holding.cancelled, held, hscript, hbills]
        rfl
      · rename_i hbills
        rw [Bool.eq_false_iff.mpr hbills]
        exact kept
    | reboot other | pause other | resume other =>
      simp only [heldAfter]
      split <;> exact kept
    | _ => exact kept

/-- What one deed leaves of a script. -/
theorem pending_does (tidy : s.Tidy) (uninstalled : s.installed? id deed = none) {count : Nat}
    (pending : s.scripts.find? id = script.left count) :
    (s.does deed).scripts.find? id =
      (script.fated (s.cancels id deed)).left (count + if deed.looksAt id then 1 else 0) := by
  have held : (s.does deed).scripts.find? id = (s.heldAfter id deed).script :=
    congrArg Holding.script (holding_does tidy id deed)
  rw [held]
  cases blind : deed.looksAt id with
  | false =>
    rw [script_heldAfter uninstalled blind, pending, Script.map_fated_left]
    rfl
  | true =>
    unfold Deed.looksAt at blind
    split at blind
    · rename_i other
      rw [heldAfter, if_pos (beq_iff_eq.mp blind)]
      exact (Holding.look_left (h := s.holding id) pending).2.1
    · cases blind

/-- What a run of deeds leaves of a script. -/
theorem pending_after (undisturbed : s.Undisturbed id deeds) {count : Nat}
    (pending : s.scripts.find? id = script.left count) :
    (s.after deeds).scripts.find? id =
      (script.fated (s.cancelledIn id deeds)).left (count + looks id deeds) := by
  induction deeds generalizing s script count with
  | nil => exact pending
  | cons deed rest ih =>
    obtain ⟨tidy, uninstalled, later⟩ := undisturbed
    rw [after_cons, ih later (pending_does tidy uninstalled pending), Script.fated_fated,
      looks_cons, Nat.add_assoc]
    rfl

/-! ## The replay -/

/-- A vendor that has shown so many entries of a script.

* The next look shows the entry that comes next, and nothing after the last one
  (`shown`).
* The look that leaves nothing ends the cycle: the resource goes, or it gets its
  addresses, its status and its password (`ended`).
* No other look changes the resource (`unended`), and any other deed does to it what
  it does without a script (`otherwise`).
* Calls about other resources change neither the script nor the resource (`apart`). -/
structure Replays (s : Simulator) (id : ResourceId) (script : Script) (looks : Nat)
    (cancelled : Bool) : Prop where
  shown : (s.call (.activeTransaction id)).2 = .ok script.entries[looks]?.join
  ended : looks + 1 = max 1 script.entries.length →
    (s.call (.activeTransaction id)).1.find? id =
      if script.outcome = .removed ∨ cancelled = true then none
      else (s.find? id).map fun r => { r with
        primaryIp := some ("198.51.100." ++ toString (r.id.value % 250 + 2))
        primaryBackendIp := some ("10.0.0." ++ toString (r.id.value % 250 + 2))
        status := some (runningStatus s.kind)
        operatingSystem :=
          if s.withholdPasswords then r.operatingSystem
          else some ⟨[⟨"root", "pw-" ++ r.hostname ++ "-" ++ toString r.id⟩]⟩ }
  unended : looks + 1 ≠ max 1 script.entries.length →
    (s.call (.activeTransaction id)).1.find? id = s.find? id
  otherwise : ∀ deed : Deed, deed.looksAt id = false →
    (s.does deed).find? id = (s.heldAfter id deed).resource
  apart : ∀ c, ¬s.Concerns id c → (s.call c).1.holding id = s.holding id

/-- The end of a cycle, with what a cancellation makes of it. -/
theorem finish_fated (s : Simulator) (id : ResourceId) (script : Script) (cancelled : Bool) :
    (s.holding id).finish (script.fated cancelled).outcome =
      if script.outcome = .removed ∨ cancelled = true then none
      else (s.find? id).map (provision s.kind !s.withholdPasswords) := by
  cases cancelled with
  | true => rw [if_pos (.inr rfl)]; rfl
  | false =>
    rw [Script.fated_false]
    cases script.outcome with
    | removed => rfl
    | provisioned => rfl

/-- A tidy vendor with what is left of a script. -/
theorem replays_of_pending (tidy : s.Tidy) {count : Nat} {cancelled : Bool}
    (pending : s.scripts.find? id = (script.fated cancelled).left count) :
    s.Replays id script count cancelled := by
  have looked := Holding.look_left (h := s.holding id) pending
  have found : (s.call (.activeTransaction id)).1.find? id =
      if count + 1 = max 1 script.entries.length then
        (s.holding id).finish (script.fated cancelled).outcome
      else s.find? id :=
    (congrArg Holding.resource (s.holding_call_activeTransaction id)).trans looked.2.2
  refine
    { shown := (s.call_activeTransaction id).trans (congrArg Except.ok looked.1)
      ended := fun hlast => ?ended
      unended := fun hlast => found.trans (if_neg hlast)
      otherwise := fun deed _ => congrArg Holding.resource (holding_does tidy id deed)
      apart := fun c => holding_call_of_not_concerns tidy }
  case ended =>
    rw [found, if_pos hlast, finish_fated]
    split
    · rfl
    · congr 1
      funext r
      unfold provision
      cases s.withholdPasswords <;> rfl

/-- Every script is replayed faithfully, whatever else is done to the vendor. -/
theorem script_replayed {first : Deed} (tidy : s.Tidy)
    (installs : s.installed? id first = some script)
    (undisturbed : (s.does first).Undisturbed id deeds) :
    ((s.does first).after deeds).Replays id script (looks id deeds)
      ((s.does first).cancelledIn id deeds) := by
  have pending := pending_after undisturbed
    ((find?_of_installed? tidy installs).trans script.left_zero.symm)
  rw [Nat.zero_add] at pending
  exact replays_of_pending undisturbed.tidy pending

/-- A guest is ordered and cancelled while its script is under way, so the look
that takes the last entry removes it. -/
theorem script_replayed_cancelled :
    let ordered := (withDemoCatalog .virtualGuest).does
      (.call (.submitOrder ⟨50, "dal05", [1921], 1, true, ⟨"web1", "example.com"⟩⟩))
    let deeds : List Deed := [.call (.activeTransaction ⟨1⟩), .call (.cancelBillingItem 11),
      .call (.activeTransaction ⟨1⟩), .call (.activeTransaction ⟨1⟩)]
    ordered.Undisturbed ⟨1⟩ deeds ∧ looks ⟨1⟩ deeds = 3 ∧ ordered.cancelledIn ⟨1⟩ deeds = true ∧
      (ordered.after deeds).Replays ⟨1⟩ (.provisioning 1) 3 true ∧
      ((ordered.after deeds).find? ⟨1⟩).isSome = true ∧
      ((ordered.after deeds).call (.activeTransaction ⟨1⟩)).1.find? ⟨1⟩ = none := by
  intro ordered deeds
  have tidy : ordered.Tidy := List.pairwise_singleton _ _
  have begun : (ordered.after (deeds.take 1)).Tidy := tidy.call nofun
  have cancelled : (ordered.after (deeds.take 2)).Tidy := begun.call nofun
  have continued : (ordered.after (deeds.take 3)).Tidy := cancelled.call nofun
  have looked : (ordered.after deeds).Tidy := continued.call nofun
  have undisturbed : ordered.Undisturbed ⟨1⟩ deeds :=
    ⟨tidy, rfl, begun, rfl, cancelled, rfl, continued, rfl, looked⟩
  have replays : (ordered.after deeds).Replays ⟨1⟩ (.provisioning 1) 3 true :=
    script_replayed List.Pairwise.nil rfl undisturbed
  exact ⟨undisturbed, rfl, rfl, replays, rfl, replays.ended rfl⟩

end Simulator

end Provisioning
