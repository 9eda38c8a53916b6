import PageWatch.Proofs.Clock.Watching

/-!
# Notes beside a run

A routine that keeps notes beside the state mirrors a plain one if it does the same apart from
the notes, whatever moving the clock means.  Mirroring goes through `bind`, so it is shown for the
parts of a routine.  If all ticks are mirrored, so is a move of the clock, however deeply moves are
nested.
-/

namespace PageWatch

variable {τ σ ω κ α β : Type}

namespace Routine

/-- A routine that keeps notes does what a plain one does, if a move of the clock with notes does
what a plain move does. -/
def Mirrors (noted : Routine τ (σ × ω) α) (plain : Routine τ σ α) : Prop :=
  ∀ (κ : Type) (service : TimerService κ τ)
    (moveNoted : Span → World κ (σ × ω) → Option (World κ (σ × ω)))
    (move : Span → World κ σ → Option (World κ σ)),
    (∀ span world, (moveNoted span world).map World.forget = move span world.forget) →
    ∀ world, (noted.run service moveNoted world).map World.forgetEnd =
      plain.run service move world.forget

namespace Mirrors

theorem done (result : α) : Mirrors (.done result : Routine τ (σ × ω) α) (.done result) :=
  fun _ _ _ _ _ _ => rfl

theorem bind {noted : Routine τ (σ × ω) α} {plain : Routine τ σ α}
    {notedRest : α → Routine τ (σ × ω) β} {rest : α → Routine τ σ β}
    (first : noted.Mirrors plain) (second : ∀ result, (notedRest result).Mirrors (rest result)) :
    (noted.bind notedRest).Mirrors (plain.bind rest) := by
  intro κ service moveNoted move moves world
  rw [run_bind, run_bind, ← first κ service moveNoted move moves world]
  cases noted.run service moveNoted world with
  | none => rfl
  | some ended => exact second ended.1 κ service moveNoted move moves ended.2

/-- Notes may be kept when a routine has ended. -/
theorem followed {noted : Routine τ (σ × ω) α} {plain : Routine τ σ α}
    {after : α → Routine τ (σ × ω) α} (mirrors : noted.Mirrors plain)
    (afterwards : ∀ result, (after result).Mirrors (.done result)) :
    (noted.bind after).Mirrors plain := by
  intro κ service moveNoted move moves world
  rw [run_bind, ← mirrors κ service moveNoted move moves world]
  cases noted.run service moveNoted world with
  | none => rfl
  | some ended => exact afterwards ended.1 κ service moveNoted move moves ended.2

/-- Notes may be read and written at any time. -/
theorem look {next : Instant → σ × ω → Routine τ (σ × ω) α} {plain : Routine τ σ α}
    (mirrors : ∀ now state, (next now state).Mirrors plain) :
    (Routine.look next).Mirrors plain := by
  intro κ service moveNoted move moves world
  exact mirrors _ _ κ service moveNoted move moves world

theorem annotate {note : Instant → ω → ω} {noted : Unit → Routine τ (σ × ω) α}
    {plain : Routine τ σ α} (mirrors : (noted ()).Mirrors plain) :
    ((Routine.annotate note).bind noted).Mirrors plain := by
  intro κ service moveNoted move moves world
  exact mirrors κ service moveNoted move moves
    ⟨world.timers, world.state.1, note (service.now world.timers) world.state.2⟩

end Mirrors

/-- A routine that is watched beside its state mirrors itself. -/
theorem mirrors_beside (note : TimerRequest τ → Instant → ω → ω) (routine : Routine τ σ α) :
    (routine.beside.watched note).Mirrors routine := by
  intro κ service moveNoted move moves world
  induction routine generalizing world with
  | done result => rfl
  | look next ih => exact ih _ _ world
  | put state next ih => exact ih ⟨world.timers, state, world.state.2⟩
  | schedule interval task next ih => exact ih _ _
  | cancel handle next ih => exact ih _
  | clear next ih => exact ih _
  | advance span next ih =>
      simp only [beside, watched, run]
      rw [← moves]
      cases moveNoted span world with
      | none => rfl
      | some moved => exact ih moved

end Routine

/-- A behaviour that keeps notes does what a plain one does. -/
def Behaviour.Mirrors (noted : Behaviour τ (σ × ω)) (plain : Behaviour τ σ) : Prop :=
  ∀ handle task, (noted handle task).Mirrors (plain handle task)

namespace World

variable {noted : Behaviour τ (σ × ω)} {plain : Behaviour τ σ}

/-- Notes of a move of the clock change nothing else. -/
theorem drain_mirrors (service : TimerService (Clock τ) τ) (mirrors : noted.Mirrors plain)
    (ticks : Nat) (target : Instant) (world : Clocked τ (σ × ω)) :
    (drain service noted ticks target world).map forget =
      drain service plain ticks target world.forget := by
  induction ticks generalizing target world with
  | zero => rfl
  | succ ticks ih =>
      simp only [drain, show world.forget.timers = world.timers from rfl]
      cases taken : world.timers.takeDue? target with
      | none => rfl
      | some pair =>
          obtain ⟨due, clock⟩ := pair
          have mirrored := mirrors due.handle due.task (Clock τ) service
            (fun span inner => drain service noted ticks (inner.timers.now + span) inner)
            (fun span inner => drain service plain ticks (inner.timers.now + span) inner)
            (fun span inner => ih (inner.timers.now + span) inner) { world with timers := clock }
          simp only [forget] at mirrored
          simp only [forget, ← mirrored, Option.bind_eq_bind, Option.map_bind, Option.bind_map]
          congr 1
          funext ended
          exact ih target _

/-- Notes of a routine on a clock change nothing else. -/
theorem perform_mirrors (service : TimerService (Clock τ) τ) (mirrors : noted.Mirrors plain)
    (ticks : Nat) {notedRoutine : Routine τ (σ × ω) α} {routine : Routine τ σ α}
    (mirrored : notedRoutine.Mirrors routine) (world : Clocked τ (σ × ω)) :
    (perform service noted ticks notedRoutine world).map forgetEnd =
      perform service plain ticks routine world.forget :=
  mirrored (Clock τ) service _ _
    (fun span inner => drain_mirrors service mirrors ticks (inner.timers.now + span) inner) world

end World

end PageWatch
