import PageWatch.Proofs.Clock.Mirroring

/-!
# Chronicles

A chronicle writes down what a routine asks of its timers, and what the clock shows at
that time.  It is kept by an instrumented routine beside the state that routines share,
where the routine itself cannot see it.  The main fact says that keeping a chronicle
changes nothing else: without it, the instrumented run is the run.
-/

namespace PageWatch

variable {τ σ α : Type}

/-- Something that happens to a clock. -/
inductive Happening where
  /-- The clock is read. -/
  | looked
  | scheduled (handle : Handle) (interval : Span)
  | cancelled (handle : Handle)
  | cleared
  | ticked (handle : Handle)
  /-- A move of the clock begins. -/
  | departed (span : Span)
  /-- A move of the clock ends. -/
  | arrived
  deriving DecidableEq, Repr

/-- What happened, in order, and when. -/
abbrev History := List (Instant × Happening)

namespace Routine

/-- Writes down that something happens now. -/
def noting (happening : Happening) (next : Routine τ (σ × History) α) :
    Routine τ (σ × History) α :=
  look fun now state => put (state.1, state.2 ++ [(now, happening)]) next

/-- The same routine, which also keeps a chronicle. -/
def chronicled : Routine τ σ α → Routine τ (σ × History) α
  | done result => done result
  | look next => look fun now state =>
      put (state.1, state.2 ++ [(now, .looked)]) (next now state.1).chronicled
  | put state next => look fun _ former => put (state, former.2) next.chronicled
  | schedule interval task next =>
      schedule interval task fun handle =>
        noting (.scheduled handle interval) (next handle).chronicled
  | cancel handle next => cancel handle (noting (.cancelled handle) next.chronicled)
  | clear next => clear (noting .cleared next.chronicled)
  | advance span next =>
      noting (.departed span) (advance span (noting .arrived next.chronicled))

theorem Still.chronicled {routine : Routine τ σ α} (still : routine.Still) :
    routine.chronicled.Still := by
  induction routine with
  | done result => trivial
  | look next ih => exact fun now state => ih now state.1 (still now state.1)
  | put state next ih => exact fun _ _ => ih still
  | schedule interval task next ih => exact fun handle _ _ => ih handle (still handle)
  | cancel handle next ih => exact fun _ _ => ih still
  | clear next ih => exact fun _ _ => ih still
  | advance span next => exact still.elim

end Routine

/-- The same behaviour, which also keeps a chronicle. -/
def Behaviour.chronicled (behaviour : Behaviour τ σ) : Behaviour τ (σ × History) :=
  fun handle task => .noting (.ticked handle) (behaviour handle task).chronicled

theorem Behaviour.still_chronicled {behaviour : Behaviour τ σ}
    (still : ∀ handle task, (behaviour handle task).Still) (handle : Handle) (task : τ) :
    (behaviour.chronicled handle task).Still :=
  fun _ _ => (still handle task).chronicled

/-- Without the chronicle, the instrumented routine is the routine. -/
theorem Routine.mirrors_chronicled (routine : Routine τ σ α) :
    routine.chronicled.Mirrors routine := by
  intro κ service moveNoted move moves world
  induction routine generalizing world with
  | done result => rfl
  | look next ih => exact ih _ _ _
  | put state next ih => exact ih _
  | schedule interval task next ih => exact ih _ _
  | cancel handle next ih => exact ih _
  | clear next ih => exact ih _
  | advance span next ih =>
      simp only [Routine.chronicled, Routine.noting, Routine.run]
      rw [show world.forget = World.forget { world with
        state := (world.state.1, world.state.2 ++ [(service.now world.timers, .departed span)]) }
        from rfl, ← moves]
      cases moveNoted span _ with
      | none => rfl
      | some moved => exact ih _

theorem Behaviour.mirrors_chronicled (behaviour : Behaviour τ σ) :
    behaviour.chronicled.Mirrors behaviour := by
  intro handle task κ service moveNoted move moves world
  exact (behaviour handle task).mirrors_chronicled κ service moveNoted move moves _

/-- A chronicle of a routine on a clock changes nothing else. -/
theorem World.perform_chronicled (service : TimerService (Clock τ) τ) (behaviour : Behaviour τ σ)
    (ticks : Nat) (routine : Routine τ σ α) (world : World.Clocked τ (σ × History)) :
    (World.perform service behaviour.chronicled ticks routine.chronicled world).map
        World.forgetEnd =
      World.perform service behaviour ticks routine world.forget :=
  World.perform_mirrors service behaviour.mirrors_chronicled ticks routine.mirrors_chronicled world

end PageWatch
