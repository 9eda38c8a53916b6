import PageWatch.Clock.Basic

/-!
# Routines on a clock

What a tick does is a routine: a finite tree of requests to the timers and to a state
that all routines share, in which the answer to one request selects the rest. A routine
says nothing about the timers it runs on, so the same routine runs on a clock that is
moved by hand, on one that follows the wall, and on one that ignores cancellations.
-/

namespace PageWatch

/-- A routine over tasks `τ` and a shared state `σ` that ends with a result. -/
inductive Routine (τ σ α : Type) where
  | done (result : α)
  /-- Looks at the time and the shared state. -/
  | look (next : Instant → σ → Routine τ σ α)
  /-- Replaces the shared state. -/
  | put (state : σ) (next : Routine τ σ α)
  /-- Schedules a timer, whose task may know its handle. -/
  | schedule (interval : Span) (task : Handle → τ) (next : Handle → Routine τ σ α)
  /-- Cancels a timer. -/
  | cancel (handle : Handle) (next : Routine τ σ α)
  /-- Cancels all timers. -/
  | clear (next : Routine τ σ α)
  /-- Moves the clock and lets timers tick. -/
  | advance (span : Span) (next : Routine τ σ α)

namespace Routine

variable {τ σ α β : Type}

def bind : Routine τ σ α → (α → Routine τ σ β) → Routine τ σ β
  | done result, rest => rest result
  | look next, rest => look fun now state => (next now state).bind rest
  | put state next, rest => put state (next.bind rest)
  | schedule interval task next, rest =>
    schedule interval task fun handle => (next handle).bind rest
  | cancel handle next, rest => cancel handle (next.bind rest)
  | clear next, rest => clear (next.bind rest)
  | advance span next, rest => advance span (next.bind rest)

instance : Monad (Routine τ σ) where
  pure := done
  bind := bind

@[simp] theorem pure_eq (result : α) : (pure result : Routine τ σ α) = done result := rfl

@[simp] theorem bind_eq (routine : Routine τ σ α) (rest : α → Routine τ σ β) :
    routine >>= rest = routine.bind rest := rfl

def now : Routine τ σ Instant := look fun now _ => done now

def state : Routine τ σ σ := look fun _ state => done state

def modify (change : Instant → σ → σ) : Routine τ σ Unit :=
  look fun now state => put (change now state) (done ())

/-- Cancels the timer that a slot holds, if it holds one. -/
def cancelSlot : Option Handle → Routine τ σ Unit
  | some handle => cancel handle (done ())
  | none => done ()

/-- Changes the shared state and keeps a result. -/
def update (change : σ → α × σ) : Routine τ σ α :=
  look fun _ state =>
    let (result, state) := change state
    put state (done result)

end Routine

/-- What timers offer to the routines that run on them; `κ` is their state. -/
structure TimerService (κ τ : Type) where
  now : κ → Instant
  schedule : Span → (Handle → τ) → κ → Handle × κ
  cancel : Handle → κ → κ
  clear : κ → κ

namespace TimerService

variable {κ τ : Type}

/-- The same timers, with cancellations ignored. -/
def ignoringCancel (service : TimerService κ τ) : TimerService κ τ :=
  { service with cancel := fun _ timers => timers }

end TimerService

/-- The timers of a clock that is moved by hand. -/
def Clock.service {τ : Type} : TimerService (Clock τ) τ where
  now := Clock.now
  schedule := Clock.schedule
  cancel := Clock.cancel
  clear := Clock.clear

/-- Timers together with the state that routines share. -/
structure World (κ σ : Type) where
  timers : κ
  state : σ
  deriving Repr, Inhabited

namespace Routine

variable {τ σ κ α β : Type} {m : Type → Type} [Monad m]

/-- Runs a routine. Requests to move the clock go to `move`. -/
def run (service : TimerService κ τ) (move : Span → World κ σ → m (World κ σ)) :
    Routine τ σ α → World κ σ → m (α × World κ σ)
  | done result, world => pure (result, world)
  | look next, world => (next (service.now world.timers) world.state).run service move world
  | put state next, world => next.run service move { world with state }
  | schedule interval task next, world =>
    let (handle, timers) := service.schedule interval task world.timers
    (next handle).run service move { world with timers }
  | cancel handle next, world =>
    next.run service move { world with timers := service.cancel handle world.timers }
  | clear next, world =>
    next.run service move { world with timers := service.clear world.timers }
  | advance span next, world => do
    next.run service move (← move span world)

end Routine

namespace World

variable {τ σ κ α : Type}

/-- Runs a routine whose requests to move the clock have no effect. -/
def act (service : TimerService κ τ) (routine : Routine τ σ α) (world : World κ σ) :
    α × World κ σ :=
  Id.run (routine.run service (fun _ world => pure world) world)

end World

end PageWatch
