import PageWatch.Proofs.Clock.Mirroring
import PageWatch.Session.Run

/-!
# A ledger of timers and waits

To tell whose timer is whose, a session keeps a ledger beside its state.  It numbers the waits as
they begin, says which of them have run their callbacks and which were dropped, and lists the
timers that have been scheduled and not been cancelled since: the bare ones, and those that poll,
each with the wait that has asked for it.

The routines below are those of a session, which write into the ledger what happens.  Nobody reads
the ledger but they, so keeping it changes nothing else.
-/

namespace PageWatch.Session

/-- Timers and waits so far. -/
structure Ledger where
  /-- How many waits have begun.  A wait is known by its number in that order. -/
  begun : Nat
  /-- The waits whose callbacks have been started. -/
  ran : List Nat
  /-- The waits that an error has ended. -/
  dropped : List Nat
  /-- The bare timers that have been scheduled and not been cancelled since. -/
  bare : List Handle
  /-- The same for the timers of waits, each with its wait. -/
  polls : List (Handle × Nat)
  deriving DecidableEq, Repr

namespace Ledger

/-- Nothing has happened. -/
def empty : Ledger := ⟨0, [], [], [], []⟩

/-- A wait has run its callback, or an error has ended it. -/
def Resolved (ledger : Ledger) (wait : Nat) : Prop := wait ∈ ledger.ran ∨ wait ∈ ledger.dropped

instance (ledger : Ledger) (wait : Nat) : Decidable (ledger.Resolved wait) :=
  inferInstanceAs (Decidable (_ ∨ _))

/-- The waits that have begun and have not been resolved. -/
def unresolved (ledger : Ledger) : List Nat :=
  (List.range ledger.begun).filter fun wait => ¬ledger.Resolved wait

/-- The wait that polls with a timer, if one does. -/
def pollOf? (handle : Handle) (ledger : Ledger) : Option Nat := ledger.polls.lookup handle

/-- Notes what is asked of the timers, by a wait or by nobody in particular. -/
def note (wait? : Option Nat) (ledger : Ledger) : TimerRequest Task → Ledger
  | .schedule _ handle _ =>
    match wait? with
    | none => { ledger with bare := ledger.bare ++ [handle] }
    | some wait => { ledger with polls := ledger.polls ++ [(handle, wait)] }
  | .cancel handle =>
    { ledger with
      bare := ledger.bare.filter (· != handle)
      polls := ledger.polls.filter fun poll => poll.1 != handle }
  | .clear => { ledger with bare := [], polls := [] }

/-- Notes that another wait begins. -/
def begin (ledger : Ledger) : Ledger := { ledger with begun := ledger.begun + 1 }

/-- Notes what a wait has come to. -/
def settle (wait? : Option Nat) (progress : Wait.Progress Callback) (ledger : Ledger) : Ledger :=
  match wait?, progress with
  | some wait, .met _ => { ledger with ran := ledger.ran ++ [wait] }
  | some wait, .dropped => { ledger with dropped := ledger.dropped ++ [wait] }
  | _, _ => ledger

end Ledger

namespace Work

/-- A routine of a session with a ledger. -/
abbrev Noted := Routine Task (State × Ledger)

/-- A routine of a session, with its requests noted for a wait or for nobody in particular. -/
def noted {α : Type} (wait? : Option Nat) (work : Work α) : Noted α :=
  work.beside.watched fun request _ ledger => ledger.note wait? request

/-- Starts a wait, and notes that it begins and what it comes to. -/
def awaitNoted (setup : Setup) (label : String) (target : Target) (interval : Option Span)
    (next : List Action) : Noted (Wait.Progress Callback) :=
  .look fun _ state =>
    let waiter : Waiter Condition Callback :=
      ⟨.callback ⟨label, next⟩, interval.getD (usualInterval setup target)⟩
    let wait? := some state.2.begun
    (Routine.annotate fun _ => Ledger.begin).bind fun _ =>
      (noted wait? (waiter.awaitAll (host setup) (conditions label target))).bind fun progress =>
        (Routine.annotate fun _ => Ledger.settle wait? progress).bind fun _ => .done progress

/-- Polls a wait at a tick of its timer, and notes what it comes to. -/
def pollNoted (setup : Setup) (handle : Handle)
    (wait : Wait Condition (Sequel Condition Callback)) :
    Noted (Wait Condition (Sequel Condition Callback) × Wait.Progress Callback) :=
  .look fun _ state =>
    let wait? := state.2.pollOf? handle
    (noted wait? (wait.tick (host setup) (Sequel.run (host setup)))).bind fun polled =>
      (Routine.annotate fun _ => Ledger.settle wait? polled.2).bind fun _ => .done polled

mutual

/-- Carries out an action with a ledger. -/
def performNoted (setup : Setup) : Action → Noted Outcome
  | .wait label target interval next => do
    match ← awaitNoted setup label target interval next with
    | .met _ =>
      noted none (record (.fire label))
      performAllNoted setup next
    | _ => pure ()
    return .nothing
  | action => noted none (simple setup action)

/-- Carries out actions in order with a ledger. -/
def performAllNoted (setup : Setup) : List Action → Noted Unit
  | [] => pure ()
  | action :: more => do
    let outcome ← performNoted setup action
    if outcome ≠ .nothing then noted none (record (.result outcome))
    performAllNoted setup more

end

/-- What the timers of a session with a ledger do at a tick. -/
def tickNoted (setup : Setup) : Behaviour Task (State × Ledger)
  | _, .bare name ticks => do
    noted none (record (.tick name))
    match ticks with
    | [] => return .bare name []
    | actions :: more =>
      performAllNoted setup actions
      return .bare name more
  | handle, .wait wait => do
    let (wait, progress) ← pollNoted setup handle wait
    match progress with
    | .met callback =>
      noted none (record (.fire callback.label))
      performAllNoted setup callback.next
    | _ => pure ()
    return .wait wait

end Work

/-- What is seen after an action, with the timers that are live then and the ledger. -/
structure Account where
  step : ClockStep
  live : List Handle
  ledger : Ledger

def runNoted (setup : Setup) (ticks : Nat) :
    List Action → World.Clocked Task (State × Ledger) → Option (List Account)
  | [], _ => some []
  | action :: more, world => do
    let (outcome, world) ← world.perform Clock.service (Work.tickNoted setup) ticks
      (Work.performNoted setup action)
    let (log, state) := takeLog world.state.1
    let clock := world.timers
    let step : ClockStep :=
      ⟨⟨outcome, log, clock.now, clock.active⟩, clock.scheduled, clock.nextDeadline?⟩
    return ⟨step, clock.timers.map Prod.fst, world.state.2⟩ ::
      (← runNoted setup ticks more ⟨clock, state, world.state.2⟩)

/-! ## Keeping a ledger changes nothing else -/

section Mirrors

open Routine

variable (setup : Setup)

theorem mirrors_noted {α : Type} (wait? : Option Nat) (work : Work α) :
    (Work.noted wait? work).Mirrors work :=
  mirrors_beside _ work

theorem mirrors_awaitNoted (label : String) (target : Target) (interval : Option Span)
    (next : List Action) :
    (Work.awaitNoted setup label target interval next).Mirrors
      (Waiter.awaitAll (Work.host setup)
        ⟨.callback ⟨label, next⟩, interval.getD (Work.usualInterval setup target)⟩
        (Work.conditions label target)) := by
  apply Mirrors.look
  intro _ state
  apply Mirrors.annotate
  apply (mirrors_noted _ _).followed
  intro progress
  exact .annotate (.done progress)

theorem mirrors_pollNoted (handle : Handle)
    (wait : Wait Condition (Sequel Condition Callback)) :
    (Work.pollNoted setup handle wait).Mirrors
      (wait.tick (Work.host setup) (Sequel.run (Work.host setup))) := by
  apply Mirrors.look
  intro _ state
  apply (mirrors_noted _ _).followed
  intro polled
  exact .annotate (.done polled)

mutual

theorem mirrors_performNoted : ∀ action : Action,
    (Work.performNoted setup action).Mirrors (Work.perform setup action)
  | .wait label target interval next => by
      apply (mirrors_awaitNoted setup label target interval next).bind
      intro progress
      cases progress with
      | met callback =>
          exact (mirrors_noted _ _).bind fun _ =>
            (mirrors_performAllNoted next).bind fun _ => .done _
      | waiting | dropped => exact .done _
  | .mark _ | .advance _ | .sleep _ | .jump _ | .clear | .schedule _ _ _ | .cancel _ | .load _
  | .set _ _ | .reply _ _ | .select _ | .unknown => mirrors_noted none _

theorem mirrors_performAllNoted : ∀ actions : List Action,
    (Work.performAllNoted setup actions).Mirrors (Work.performAll setup actions)
  | [] => .done ()
  | action :: more => by
      apply (mirrors_performNoted action).bind
      intro outcome
      by_cases telling : outcome ≠ .nothing
      · simp only [if_pos telling]
        exact (mirrors_noted _ _).bind fun _ => mirrors_performAllNoted more
      · simp only [if_neg telling]
        exact mirrors_performAllNoted more

end

theorem mirrors_tickNoted : (Work.tickNoted setup).Mirrors (Work.tick setup) := by
  intro handle task
  cases task with
  | bare name ticks =>
      apply (mirrors_noted _ _).bind
      intro _
      cases ticks with
      | nil => exact .done _
      | cons actions more => exact (mirrors_performAllNoted setup actions).bind fun _ => .done _
  | wait wait =>
      apply (mirrors_pollNoted setup handle wait).bind
      intro polled
      obtain ⟨wait, progress⟩ := polled
      cases progress with
      | met callback =>
          exact (mirrors_noted _ _).bind fun _ =>
            (mirrors_performAllNoted setup callback.next).bind fun _ => .done _
      | waiting | dropped => exact .done _

/-- A session with a ledger shows what the session shows. -/
theorem steps_runNoted (ticks : Nat) (actions : List Action)
    (world : World.Clocked Task (State × Ledger)) :
    (runNoted setup ticks actions world).map (List.map Account.step) =
      runOnClock setup Clock.service ticks actions world.forget := by
  induction actions generalizing world with
  | nil => rfl
  | cons action more ih =>
      rw [runNoted, runOnClock, ← World.perform_mirrors Clock.service (mirrors_tickNoted setup)
        ticks (mirrors_performNoted setup action) world]
      cases World.perform Clock.service (Work.tickNoted setup) ticks
          (Work.performNoted setup action) world with
      | none => rfl
      | some ended =>
          obtain ⟨outcome, clock, state, ledger⟩ := ended
          have rest := ih ⟨clock, (takeLog state).2, ledger⟩
          simp only [World.forget] at rest
          simp only [Option.map_some, Option.bind_eq_bind, Option.bind_some, World.forgetEnd,
            World.forget, ← rest]
          cases runNoted setup ticks more ⟨clock, (takeLog state).2, ledger⟩ <;> rfl

end Mirrors

end PageWatch.Session
