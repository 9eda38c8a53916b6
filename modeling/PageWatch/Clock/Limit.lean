import PageWatch.Clock.Advance

/-!
# The limit of time

A time is kept as seconds in 64 bits with nanoseconds beside them.  A clock adds a span to a time
when a timer is scheduled, when a timer is due again, and when the clock sets out for another
instant.  A sum that cannot be kept ends everything on the spot.

Here routines run and clocks move up to the first time that cannot be kept.  As long as there is
none, this is what they do without any limit.
-/

namespace PageWatch

/-- The first span that cannot be kept: its seconds do not fit in 64 bits. -/
def Span.limit : Span := UInt64.size * 1000000000

/-- Why something on a clock breaks off. -/
inductive Halt where
  /-- A time cannot be kept. -/
  | overflow
  /-- There are more ticks than allowed. -/
  | unfinished
  deriving DecidableEq, Repr, Inhabited

namespace Clock

variable {τ : Type}

/-- All times on a clock can be kept. -/
def Kept (clock : Clock τ) : Prop :=
  clock.now < Span.limit ∧ ∀ entry ∈ clock.timers, entry.2.due < Span.limit

instance (clock : Clock τ) : Decidable clock.Kept := inferInstanceAs (Decidable (_ ∧ _))

def keep (clock : Clock τ) : Except Halt (Clock τ) :=
  if clock.Kept then .ok clock else .error .overflow

/-- The instant for which a clock sets out when it is moved by a span. -/
def setOut (span : Span) (clock : Clock τ) : Except Halt Instant :=
  if clock.now + span < Span.limit then .ok (clock.now + span) else .error .overflow

end Clock

variable {τ σ α : Type}

/-- Runs a routine up to the first time that cannot be kept. -/
def Routine.runKept (service : TimerService (Clock τ) τ)
    (move : Span → World.Clocked τ σ → Except Halt (World.Clocked τ σ)) :
    Routine τ σ α → World.Clocked τ σ → Except Halt (α × World.Clocked τ σ)
  | done result, world => .ok (result, world)
  | look next, world =>
    (next (service.now world.timers) world.state).runKept service move world
  | put state next, world => next.runKept service move { world with state }
  | schedule interval task next, world => do
    let (handle, timers) := service.schedule interval task world.timers
    (next handle).runKept service move { world with timers := ← timers.keep }
  | cancel handle next, world =>
    next.runKept service move { world with timers := service.cancel handle world.timers }
  | clear next, world =>
    next.runKept service move { world with timers := service.clear world.timers }
  | advance span next, world => do next.runKept service move (← move span world)

namespace World

/-- Lets the timers tick that are due by an instant and moves the clock there, up to the first
time that cannot be kept. -/
def drainKept (service : TimerService (Clock τ) τ) (behaviour : Behaviour τ σ) :
    Nat → Instant → Clocked τ σ → Except Halt (Clocked τ σ)
  | 0, _, _ => .error .unfinished
  | ticks + 1, target, world =>
    match world.timers.takeDue? target with
    | none => .ok { world with timers := { world.timers with now := target } }
    | some (due, clock) => do
      let (task, after) ← (behaviour due.handle due.task).runKept service
        (fun span inner => do
          drainKept service behaviour ticks (← inner.timers.setOut span) inner)
        { world with timers := ← clock.keep }
      drainKept service behaviour ticks target
        { after with timers := after.timers.putBack due.handle task }

/-- Moves the clock forward by a span, up to the first time that cannot be kept. -/
def advanceKept (service : TimerService (Clock τ) τ) (behaviour : Behaviour τ σ) (ticks : Nat)
    (span : Span) (world : Clocked τ σ) : Except Halt (Clocked τ σ) := do
  drainKept service behaviour ticks (← world.timers.setOut span) world

/-- Runs a routine on a clock, up to the first time that cannot be kept. -/
def performKept (service : TimerService (Clock τ) τ) (behaviour : Behaviour τ σ) (ticks : Nat)
    (routine : Routine τ σ α) (world : Clocked τ σ) : Except Halt (α × Clocked τ σ) :=
  routine.runKept service (advanceKept service behaviour ticks) world

end World

end PageWatch
