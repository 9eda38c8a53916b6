import PageWatch.Clock.Routine

/-!
# Moving a clock

Moving a clock by a span lets every timer tick that falls due before the end of the
span or at it, in the order of deadlines. A tick is a routine; it may schedule timers
that fall due on the way and may itself move the clock. Such nested moves need not come
to an end, so all of this takes an upper limit on the number of ticks and fails beyond
it.
-/

namespace PageWatch

/-- What a timer's task does at a tick, and the task that it leaves behind. -/
abbrev Behaviour (τ σ : Type) := Handle → τ → Routine τ σ τ

namespace World

variable {τ σ : Type}

/-- A world with a clock that is moved by hand. -/
abbrev Clocked (τ σ : Type) := World (Clock τ) σ

/-- Lets the timers tick that are due by an instant, and moves the clock there. -/
def drain (service : TimerService (Clock τ) τ) (behaviour : Behaviour τ σ) :
    Nat → Instant → Clocked τ σ → Option (Clocked τ σ)
  | 0, _, _ => none
  | ticks + 1, target, world =>
    match world.timers.takeDue? target with
    | none => some { world with timers := { world.timers with now := target } }
    | some (due, clock) => do
      let (task, after) ← (behaviour due.handle due.task).run service
        (fun span inner => drain service behaviour ticks (inner.timers.now + span) inner)
        { world with timers := clock }
      drain service behaviour ticks target
        { after with timers := after.timers.putBack due.handle task }

/-- Moves the clock forward by a span. -/
def advance (service : TimerService (Clock τ) τ) (behaviour : Behaviour τ σ) (ticks : Nat)
    (span : Span) (world : Clocked τ σ) : Option (Clocked τ σ) :=
  drain service behaviour ticks (world.timers.now + span) world

def perform {α : Type} (service : TimerService (Clock τ) τ) (behaviour : Behaviour τ σ)
    (ticks : Nat) (routine : Routine τ σ α) (world : Clocked τ σ) :
    Option (α × Clocked τ σ) :=
  routine.run service (advance service behaviour ticks) world

end World

end PageWatch
