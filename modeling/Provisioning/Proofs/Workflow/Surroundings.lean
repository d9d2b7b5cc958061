import Provisioning.Workflow.Run

/-!
# What a workflow assures

A workflow fixes neither the vendor nor the clock, so what it does is said
relative to what surrounds it.  `Surroundings` say which calls a workflow may
make, how they may be answered and what the clock may show; `γ` is what is known
at a moment.  `Workflow.Assures` says that a workflow makes only calls that are
allowed and that its result satisfies a postcondition, whatever the surroundings
do.  It follows the tree, so it also makes sense for what is left of a workflow
that others have interrupted.

There are three groups.

* The rules: one for each way in which procedures are built.  They are simp
  lemmas, so that a procedure is taken apart by `simp only`.
* Consequence: a weaker postcondition is assured too.
* Running alone: `Surroundings.Realized` says that a vendor stays within the
  surroundings, and `Workflow.Assures.run` carries what is assured over to a run
  against that vendor.
-/

namespace Provisioning

/-- What surrounds a workflow of which `γ` is known: the calls that it may make,
their answers with what is known then, what is known after a pause, and what the
clock may show. -/
structure Surroundings (γ : Type) where
  Allows : γ → Call → Prop
  Answers : γ → (call : Call) → call.Answer → γ → Prop
  Passes : γ → Nat → γ → Prop
  Shows : γ → Nat → Prop

variable {α β γ σ : Type}

/-- Whatever the surroundings do, the workflow makes only calls that they allow
and ends with a result that satisfies the postcondition. -/
def Workflow.Assures (around : Surroundings γ) : Workflow α → (α → γ → Prop) → γ → Prop
  | .done result, post, g => post result g
  | .ask call next, post, g =>
    around.Allows g call ∧
      ∀ answer g', around.Answers g call answer g' → (next answer).Assures around post g'
  | .pause ms next, post, g => ∀ g', around.Passes g ms g' → next.Assures around post g'
  | .clock next, post, g => ∀ time, around.Shows g time → (next time).Assures around post g
  | .report _ next, post, g => next.Assures around post g

/-- The same for a procedure, with one postcondition for success and one for
failure. -/
def Procedure.Assures (around : Surroundings γ) (p : Procedure α) (ok : α → γ → Prop)
    (fail : Error → γ → Prop) (g : γ) : Prop :=
  Workflow.Assures around p.run (fun result g' =>
    match result with
    | .ok a => ok a g'
    | .error cause => fail cause g') g

/-! ## Rules -/

namespace Workflow

variable {around : Surroundings γ}

theorem assures_bind (w : Workflow α) (f : α → Workflow β) (post : β → γ → Prop) (g : γ) :
    (w.bind f).Assures around post g ↔
      w.Assures around (fun a g' => (f a).Assures around post g') g := by
  induction w generalizing g with
  | done => rfl
  | ask call next ih => simp only [Workflow.bind, Assures, ih]
  | pause ms next ih => simp only [Workflow.bind, Assures, ih]
  | clock next ih => simp only [Workflow.bind, Assures, ih]
  | report notice next ih => simp only [Workflow.bind, Assures, ih]

/-- The same for the sequence that `do` writes. -/
@[simp] theorem assures_monadBind (w : Workflow α) (f : α → Workflow β) (post : β → γ → Prop)
    (g : γ) :
    (w >>= f).Assures around post g ↔
      w.Assures around (fun a g' => (f a).Assures around post g') g :=
  assures_bind w f post g

@[simp] theorem assures_monadPure (a : α) (post : α → γ → Prop) (g : γ) :
    Workflow.Assures around (pure a) post g ↔ post a g :=
  Iff.rfl

/-- What is assured may be weakened. -/
theorem Assures.mono {w : Workflow α} {post post' : α → γ → Prop} {g : γ}
    (h : w.Assures around post g) (weaker : ∀ a g', post a g' → post' a g') :
    w.Assures around post' g := by
  induction w generalizing g with
  | done result => exact weaker result g h
  | ask call next ih => exact ⟨h.1, fun answer g' answered => ih answer (h.2 answer g' answered)⟩
  | pause ms next ih => exact fun g' passed => ih (h g' passed)
  | clock next ih => exact fun time shown => ih time (h time shown)
  | report notice next ih => exact ih h

@[simp] theorem assures_notifyAll (notices : List Notice) (post : Unit → γ → Prop) (g : γ) :
    (notifyAll notices).Assures around post g ↔ post () g := by
  induction notices with
  | nil => rfl
  | cons notice rest ih => exact ih

end Workflow

namespace Procedure

variable {around : Surroundings γ} {ok : α → γ → Prop} {fail : Error → γ → Prop}

@[simp] theorem assures_pure (a : α) (g : γ) :
    Procedure.Assures around (pure a) ok fail g ↔ ok a g :=
  Iff.rfl

@[simp] theorem assures_throw (cause : Error) (g : γ) :
    Procedure.Assures around (throw cause) ok fail g ↔ fail cause g :=
  Iff.rfl

@[simp] theorem assures_bind (p : Procedure β) (f : β → Procedure α) (g : γ) :
    Procedure.Assures around (p >>= f) ok fail g ↔
      p.Assures around (fun b g' => (f b).Assures around ok fail g') fail g := by
  change Workflow.Assures around (Workflow.bind p.run _) _ g ↔ _
  rw [Workflow.assures_bind]
  unfold Procedure.Assures
  constructor
  · intro h
    refine h.mono fun result g' h => ?_
    cases result <;> exact h
  · intro h
    refine h.mono fun result g' h => ?_
    cases result <;> exact h

theorem assures_request (call : Call) (ok : call.Reply → γ → Prop) (g : γ) :
    (request call).Assures around ok fail g ↔
      around.Allows g call ∧
        (∀ reply g', around.Answers g call (.ok reply) g' → ok reply g') ∧
        ∀ cause g', around.Answers g call (.error cause) g' → fail cause g' := by
  refine and_congr Iff.rfl
    ⟨fun h => ⟨fun reply => h (.ok reply), fun cause => h (.error cause)⟩, ?_⟩
  rintro ⟨succeeds, fails⟩ (cause | reply) g' answered
  · exact fails cause g' answered
  · exact succeeds reply g' answered

/-- A workflow that cannot fail, as a part of a procedure. -/
@[simp] theorem assures_liftM (w : Workflow α) (g : γ) :
    Procedure.Assures around (liftM w) ok fail g ↔ w.Assures around ok g := by
  change Workflow.Assures around (Workflow.bind w _) _ g ↔ _
  rw [Workflow.assures_bind]
  rfl

@[simp] theorem assures_ofExcept (result : Except Error α) (g : γ) :
    Procedure.Assures around (liftM result) ok fail g ↔
      (∀ a, result = .ok a → ok a g) ∧ ∀ cause, result = .error cause → fail cause g := by
  cases result with
  | ok a => exact ⟨fun h => ⟨by rintro _ ⟨⟩; exact h, nofun⟩, fun h => h.1 a rfl⟩
  | error cause => exact ⟨fun h => ⟨nofun, by rintro _ ⟨⟩; exact h⟩, fun h => h.2 cause rfl⟩

@[simp] theorem assures_map (f : β → α) (p : Procedure β) (g : γ) :
    Procedure.Assures around (f <$> p) ok fail g ↔
      p.Assures around (fun b g' => ok (f b) g') fail g := by
  change Workflow.Assures around (Workflow.bind p.run _) _ g ↔ _
  rw [Workflow.assures_bind]
  unfold Procedure.Assures
  constructor
  · intro h
    refine h.mono fun result g' h => ?_
    cases result <;> exact h
  · intro h
    refine h.mono fun result g' h => ?_
    cases result <;> exact h

/-- A procedure with a handler for its failure. -/
@[simp] theorem assures_tryCatch (p : Procedure α) (handler : Error → Procedure α) (g : γ) :
    Procedure.Assures around (tryCatch p handler) ok fail g ↔
      p.Assures around ok (fun cause g' => (handler cause).Assures around ok fail g') g := by
  change Workflow.Assures around (Workflow.bind p.run _) _ g ↔ _
  rw [Workflow.assures_bind]
  unfold Procedure.Assures
  constructor
  · intro h
    refine h.mono fun result g' h => ?_
    cases result <;> exact h
  · intro h
    refine h.mono fun result g' h => ?_
    cases result <;> exact h

/-- What a procedure assures may be weakened. -/
theorem Assures.mono {p : Procedure α} {ok' : α → γ → Prop} {fail' : Error → γ → Prop} {g : γ}
    (h : p.Assures around ok fail g) (succeeds : ∀ a g', ok a g' → ok' a g')
    (fails : ∀ cause g', fail cause g' → fail' cause g') : p.Assures around ok' fail' g := by
  refine Workflow.Assures.mono h fun result g' h => ?_
  cases result with
  | ok a => exact succeeds a g' h
  | error cause => exact fails cause g' h

end Procedure

/-! ## Running alone -/

/-- A vendor stays within the surroundings: `Knows` relates a run against it to
what is known, and every way in which the run goes on is one that the
surroundings have. -/
structure Surroundings.Realized (around : Surroundings γ) (v : Vendor σ)
    (Knows : Run σ → γ → Prop) : Prop where
  answers : ∀ run g call, Knows run g → around.Allows g call →
    let reply := v.respond run.vendor run.now call
    ∃ g', around.Answers g call reply.2.2 g' ∧
      Knows ⟨reply.1, run.now + reply.2.1, .asked run.now call reply.2.2 :: run.events⟩ g'
  passes : ∀ run g ms, Knows run g →
    ∃ g', around.Passes g ms g' ∧ Knows { run with now := run.now + ms } g'
  shows : ∀ run g, Knows run g → around.Shows g run.now
  reports : ∀ run g notice, Knows run g →
    Knows { run with events := .noticed run.now notice :: run.events } g

/-- What a workflow assures holds of its runs against a vendor that stays within
the surroundings. -/
theorem Workflow.Assures.run {around : Surroundings γ} {v : Vendor σ} {Knows : Run σ → γ → Prop}
    (realized : around.Realized v Knows) {w : Workflow α} {post : α → γ → Prop} {run : Run σ}
    {g : γ} (h : w.Assures around post g) (known : Knows run g) :
    ∃ g', post (w.run v run).1 g' ∧ Knows (w.run v run).2 g' := by
  induction w generalizing run g with
  | done result => exact ⟨g, h, known⟩
  | ask call next ih =>
    obtain ⟨g', answered, known'⟩ := realized.answers run g call known h.1
    exact ih _ (h.2 _ g' answered) known'
  | pause ms next ih =>
    obtain ⟨g', passed, known'⟩ := realized.passes run g ms known
    exact ih (h g' passed) known'
  | clock next ih => exact ih _ (h _ (realized.shows run g known)) known
  | report notice next ih => exact ih h (realized.reports run g notice known)

end Provisioning
