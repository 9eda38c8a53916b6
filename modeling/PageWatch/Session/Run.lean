import PageWatch.Clock.Limit
import PageWatch.Session.Basic

/-!
# Running a session

A session runs its actions in order and reports after each what happened during it and
what state it left the timers in. On a clock that is moved by hand it may run into a time
that cannot be kept, and then there is nothing to report.
-/

namespace PageWatch.Session

/-- What is seen after an action. -/
structure Step where
  outcome : Outcome
  /-- What happened during the action, in order. -/
  log : List (Instant × Event)
  now : Instant
  active : Nat
  deriving Repr, Inhabited

/-- What is seen of a clock that is moved by hand. -/
structure ClockStep extends Step where
  scheduled : Nat
  nextDeadline : Option Instant
  deriving Repr, Inhabited

/-- Takes what happened out of the state. -/
def takeLog (state : State) : List (Instant × Event) × State :=
  (state.log.reverse, { state with log := [] })

/-- The timers of a session on a clock that is moved by hand. -/
def clockService (ignoreCancel : Bool) : TimerService (Clock Task) Task :=
  if ignoreCancel then Clock.service.ignoringCancel else Clock.service

/-- Runs the actions on a clock that is moved by hand, with a limit on the ticks. -/
def runOnClock (setup : Setup) (service : TimerService (Clock Task) Task) (ticks : Nat) :
    List Action → World.Clocked Task State → Option (List ClockStep)
  | [], _ => some []
  | action :: more, world => do
    let (outcome, world) ← world.perform service (Work.tick setup) ticks
      (Work.perform setup action)
    let (log, state) := takeLog world.state
    let clock := world.timers
    let step : ClockStep :=
      ⟨⟨outcome, log, clock.now, clock.active⟩, clock.scheduled, clock.nextDeadline?⟩
    return step :: (← runOnClock setup service ticks more ⟨clock, state⟩)

/-- Runs the actions on a clock that is moved by hand, with a limit on the ticks, up to the
first time that cannot be kept. -/
def runKept (setup : Setup) (service : TimerService (Clock Task) Task) (ticks : Nat) :
    List Action → World.Clocked Task State → Except Halt (List ClockStep)
  | [], _ => .ok []
  | action :: more, world => do
    let (outcome, world) ← world.performKept service (Work.tick setup) ticks
      (Work.perform setup action)
    let (log, state) := takeLog world.state
    let clock := world.timers
    let step : ClockStep :=
      ⟨⟨outcome, log, clock.now, clock.active⟩, clock.scheduled, clock.nextDeadline?⟩
    return step :: (← runKept setup service ticks more ⟨clock, state⟩)

/-- Carries out an action among timers on the wall clock. Only the session itself can
sleep or set the clock. -/
def performOnWall (setup : Setup) (ticks : Nat) (action : Action)
    (world : World.Walled Task State) : Option (Outcome × World.Walled Task State) :=
  match action with
  | .sleep span => do
    return (.nothing, ← World.sleep (Work.tick setup) ticks span world)
  | .jump span => do
    return (.nothing, ← World.jump (Work.tick setup) ticks span world)
  | action => some (World.performWalled (Work.perform setup action) world)

/-- Runs the actions among timers on the wall clock, with a limit on the ticks. -/
def runOnWall (setup : Setup) (ticks : Nat) :
    List Action → World.Walled Task State → Option (List Step)
  | [], _ => some []
  | action :: more, world => do
    let (outcome, world) ← performOnWall setup ticks action world
    let (log, state) := takeLog world.state
    let step : Step := ⟨outcome, log, world.timers.now, world.timers.active⟩
    return step :: (← runOnWall setup ticks more ⟨world.timers, state⟩)

/-- The state in which a session starts. -/
def State.start (page : Page) : State := ⟨page, [], []⟩

/-- Runs a session on a clock that is moved by hand. Every action happens at most once,
which bounds the ticks. -/
def onClock (setup : Setup) (ignoreCancel : Bool) (page : Page) (actions : List Action) :
    Option (List ClockStep) :=
  runOnClock setup (clockService ignoreCancel) (weightOfList actions).ticks actions
    ⟨Clock.start, State.start page⟩

/-- Runs a session on a clock that is moved by hand, up to the first time that cannot be
kept. -/
def onKeptClock (setup : Setup) (ignoreCancel : Bool) (page : Page) (actions : List Action) :
    Except Halt (List ClockStep) :=
  runKept setup (clockService ignoreCancel) (weightOfList actions).ticks actions
    ⟨Clock.start, State.start page⟩

/-- Runs a session among timers on the wall clock. -/
def onWall (setup : Setup) (page : Page) (actions : List Action) : Option (List Step) :=
  runOnWall setup (weightOfList actions).ticks actions ⟨WallClock.start, State.start page⟩

/-! ### Timers that outlive their owner -/

/-- How often the timers of a drop test ticked. -/
abbrev Counts := List Nat

/-- A task that counts its ticks under its index. -/
def countTick : Behaviour Nat Counts := fun _ index => do
  Routine.modify fun _ counts => counts.modify index (· + 1)
  return index

/-- What is seen of timers whose owner may be gone: how many run, unless it is, and how
often each ticked. -/
structure Tally where
  active : Option Nat
  counts : Counts
  deriving DecidableEq, Repr, Inhabited

/-- Schedules counting timers, lets time pass, cancels some of them, drops their owner
and lets time pass again. The answer holds what is seen after scheduling, after the
cancellations, after the drop and at the end. -/
def dropTimers (intervals : List Span) (before : Span) (cancelled : List Nat)
    (after : Span) : Option (List Tally) := do
  let ticks := (intervals.length + 1) * (before.wholeMs + after.wholeMs + 4)
  let schedule (world : World.Walled Nat Counts) (entry : Span × Nat) :=
    (World.performWalled (Routine.schedule entry.1 (fun _ => entry.2) fun _ => pure ()) world).2
  let world := intervals.zipIdx.foldl schedule
    ⟨WallClock.start, List.replicate intervals.length 0⟩
  let scheduled : Tally := ⟨some world.timers.active, world.state⟩
  let world ← World.sleep countTick ticks before world
  let timers := cancelled.foldl (fun timers index => timers.cancel ⟨index⟩) world.timers
  let kept : Tally := ⟨some timers.active, world.state⟩
  let dropped : Tally := ⟨none, world.state⟩
  let world ← World.sleep countTick ticks after ⟨timers.drop, world.state⟩
  return [scheduled, kept, dropped, ⟨none, world.state⟩]

end PageWatch.Session
