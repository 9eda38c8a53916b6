import PageWatch.Proofs.Clock.Routine

/-!
# Watched routines

A watched routine writes down what it asks of its timers, beside the state that routines
share.  A routine that runs beside such notes neither sees nor changes them.  Watching a
routine, or running it beside notes, changes nothing else.
-/

namespace PageWatch

variable {τ σ ω κ α β : Type}

/-- Something that is asked of timers.  A timer that is asked for gets a handle and a
task. -/
inductive TimerRequest (τ : Type) where
  | schedule (interval : Span) (handle : Handle) (task : τ)
  | cancel (handle : Handle)
  | clear

namespace Routine

/-- Changes what is kept beside the state. -/
def annotate (note : Instant → ω → ω) : Routine τ (σ × ω) Unit :=
  look fun now state => put (state.1, note now state.2) (done ())

/-- The same routine, which also writes down what it asks of the timers. -/
def watched (note : TimerRequest τ → Instant → ω → ω) :
    Routine τ (σ × ω) α → Routine τ (σ × ω) α
  | done result => done result
  | look next => look fun now state => (next now state).watched note
  | put state next => put state (next.watched note)
  | schedule interval task next =>
      schedule interval task fun handle =>
        (annotate (note (.schedule interval handle (task handle)))).bind fun _ =>
          (next handle).watched note
  | cancel handle next =>
      (annotate (note (.cancel handle))).bind fun _ => cancel handle (next.watched note)
  | clear next => (annotate (note .clear)).bind fun _ => clear (next.watched note)
  | advance span next => advance span (next.watched note)

/-- The same routine, beside something that it cannot see. -/
def beside : Routine τ σ α → Routine τ (σ × ω) α
  | done result => done result
  | look next => look fun now state => (next now state.1).beside
  | put state next => look fun _ former => put (state, former.2) next.beside
  | schedule interval task next => schedule interval task fun handle => (next handle).beside
  | cancel handle next => cancel handle next.beside
  | clear next => clear next.beside
  | advance span next => advance span next.beside

theorem watched_bind (note : TimerRequest τ → Instant → ω → ω) (routine : Routine τ (σ × ω) α)
    (rest : α → Routine τ (σ × ω) β) :
    (routine.bind rest).watched note =
      (routine.watched note).bind fun result => (rest result).watched note := by
  induction routine with
  | done result => rfl
  | look next ih => exact congrArg look (funext fun now => funext fun state => ih now state)
  | put state next ih => exact congrArg (put state) ih
  | schedule interval task next ih => simp only [Routine.bind, watched, annotate, ih]
  | cancel handle next ih => simp only [Routine.bind, watched, annotate, ih]
  | clear next ih => simp only [Routine.bind, watched, annotate, ih]
  | advance span next ih => exact congrArg (advance span) ih

theorem beside_bind (routine : Routine τ σ α) (rest : α → Routine τ σ β) :
    (routine.bind rest).beside =
      (routine.beside : Routine τ (σ × ω) α).bind fun result => (rest result).beside := by
  induction routine with
  | done result => rfl
  | look next ih => exact congrArg look (funext fun now => funext fun state => ih now state.1)
  | put state next ih => simp only [Routine.bind, beside, ih]
  | schedule interval task next ih => simp only [Routine.bind, beside, ih]
  | cancel handle next ih => exact congrArg (cancel handle) ih
  | clear next ih => exact congrArg clear ih
  | advance span next ih => exact congrArg (advance span) ih

theorem Still.beside {routine : Routine τ σ α} (still : routine.Still) :
    (routine.beside : Routine τ (σ × ω) α).Still := by
  induction routine with
  | done result => trivial
  | look next ih => exact fun now state => ih now state.1 (still now state.1)
  | put state next ih => exact fun _ _ => ih still
  | schedule interval task next ih => exact fun handle => ih handle (still handle)
  | cancel handle next ih => exact ih still
  | clear next ih => exact ih still
  | advance span next => exact still.elim

theorem Still.watched (note : TimerRequest τ → Instant → ω → ω) {routine : Routine τ (σ × ω) α}
    (still : routine.Still) : (routine.watched note).Still := by
  induction routine with
  | done result => trivial
  | look next ih => exact fun now state => ih now state (still now state)
  | put state next ih => exact ih still
  | schedule interval task next ih => exact fun handle _ _ => ih handle (still handle)
  | cancel handle next ih => exact fun _ _ => ih still
  | clear next ih => exact fun _ _ => ih still
  | advance span next => exact still.elim

/-- A routine with notes beside its state does what a plain one does. -/
def Shadows (shadow : Routine τ (σ × ω) α) (plain : Routine τ σ α) : Prop :=
  ∀ (κ : Type) (service : TimerService κ τ) (world : World κ (σ × ω)),
    World.forgetEnd (world.act service shadow) = world.forget.act service plain

theorem Shadows.bind {shadow : Routine τ (σ × ω) α} {plain : Routine τ σ α}
    {rest : α → Routine τ (σ × ω) β} {plainRest : α → Routine τ σ β}
    (first : shadow.Shadows plain) (second : ∀ result, (rest result).Shadows (plainRest result)) :
    (shadow.bind rest).Shadows (plain.bind plainRest) := by
  intro κ service world
  rw [World.act_bind, World.act_bind, ← first κ service world]
  exact second _ κ service _

theorem shadows_done (result : α) :
    Shadows (.done result : Routine τ (σ × ω) α) (.done result) :=
  fun _ _ _ => rfl

theorem shadows_cancelSlot (note : TimerRequest τ → Instant → ω → ω) (slot : Option Handle) :
    Shadows ((cancelSlot slot).watched note) (cancelSlot slot : Routine τ σ Unit) := by
  cases slot <;> exact fun _ _ _ => rfl

theorem shadows_beside (note : TimerRequest τ → Instant → ω → ω) (routine : Routine τ σ α) :
    (routine.beside.watched note).Shadows routine := by
  intro κ service world
  induction routine generalizing world with
  | done result => rfl
  | look next ih => exact ih _ _ world
  | put state next ih => exact ih ⟨world.timers, state, world.state.2⟩
  | schedule interval task next ih => exact ih _ _
  | cancel handle next ih => exact ih _
  | clear next ih => exact ih _
  | advance span next ih => exact ih world

end Routine

namespace World

@[simp] theorem act_annotate (service : TimerService κ τ) (watch : TimerRequest τ → Instant → ω → ω)
    (note : Instant → ω → ω) (world : World κ (σ × ω)) :
    world.act service ((Routine.annotate note).watched watch) =
      ((), { world with
        state := (world.state.1, note (service.now world.timers) world.state.2) }) := rfl

end World

end PageWatch
