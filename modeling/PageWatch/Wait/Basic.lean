import PageWatch.Clock.Routine
import PageWatch.Notice

/-!
# Waiting for conditions

A wait runs its callback once its condition holds. The first check happens at once; if it
fails, a timer polls the condition until it holds. A check that cannot be made ends the
wait without the callback.

Several conditions are awaited one after the other, by waits whose callbacks start other
waits. The callback at the end of such a row is not run here: it is reported that it is
to run now, and whoever started or polled the wait goes on with it.
-/

namespace PageWatch

/-- A wait that a timer polls. -/
structure Wait (χ β : Type) where
  condition : χ
  /-- The callback, until it has run or is given up. A tick without one does nothing. -/
  callback : Option β
  /-- The timer that polls, until it is cancelled. -/
  slot : Option Handle
  deriving Repr

namespace Wait

/-- What a wait comes to. -/
inductive Progress (κ : Type) where
  /-- It goes on, or it was over before. -/
  | waiting
  /-- The conditions have been met, and this callback is to run now. -/
  | met (callback : κ)
  /-- Its callback never runs. -/
  | dropped
  deriving DecidableEq, Repr, Inhabited

/-- What waits need from their surroundings: how a condition is checked, where notices
go, and how a wait becomes the task of a timer. -/
structure Host (χ β τ σ : Type) where
  check : χ → Routine τ σ (Except QueryError Bool × χ)
  report : Notice → Routine τ σ Unit
  task : Wait χ β → τ

variable {χ β κ τ σ : Type}

/-- Starts a wait. `fire` is what its callback does. -/
def start (host : Host χ β τ σ) (interval : Span) (callback : β)
    (fire : Routine τ σ (Progress κ)) (condition : χ) : Routine τ σ (Progress κ) := do
  let (answer, condition) ← host.check condition
  match answer with
  | .ok true => fire
  | .ok false =>
    host.report (.polling interval.wholeMs)
    Routine.schedule interval
      (fun handle => host.task ⟨condition, some callback, some handle⟩)
      fun _ => pure .waiting
  | .error error =>
    host.report (.waitDropped error)
    pure .dropped

/-- Polls a wait at a tick of its timer. When the wait is done with its condition, it
cancels that timer before anything else happens. -/
def tick (host : Host χ β τ σ) (fire : β → Routine τ σ (Progress κ)) (wait : Wait χ β) :
    Routine τ σ (Wait χ β × Progress κ) :=
  match wait.callback with
  | none => pure (wait, .waiting)
  | some callback => do
    let (answer, condition) ← host.check wait.condition
    match answer with
    | .ok false => pure ({ wait with condition }, .waiting)
    | .ok true =>
      Routine.cancelSlot wait.slot
      host.report .conditionMet
      let progress ← fire callback
      pure (⟨condition, none, none⟩, progress)
    | .error error =>
      Routine.cancelSlot wait.slot
      host.report (.waitDropped error)
      pure (⟨condition, none, none⟩, .dropped)

end Wait

/-- What follows when a condition holds. -/
inductive Sequel (χ κ : Type) where
  /-- The callback of whoever waits. -/
  | callback (callback : κ)
  /-- A wait for another condition, with a sequel of its own. -/
  | wait (condition : χ) (interval : Span) (sequel : Sequel χ κ)
  deriving Repr

namespace Sequel

variable {χ κ τ σ : Type}

/-- Goes on with what follows. -/
def run (host : Wait.Host χ (Sequel χ κ) τ σ) :
    Sequel χ κ → Routine τ σ (Wait.Progress κ)
  | .callback value => pure (.met value)
  | .wait condition interval sequel =>
    Wait.start host interval sequel (sequel.run host) condition

end Sequel

/-- What follows a condition, and the interval at which the condition is checked. -/
structure Waiter (χ κ : Type) where
  sequel : Sequel χ κ
  interval : Span
  deriving Repr

namespace Waiter

variable {χ κ τ σ : Type}

/-- Goes on once a condition holds. -/
def await (host : Wait.Host χ (Sequel χ κ) τ σ) (waiter : Waiter χ κ) (condition : χ) :
    Routine τ σ (Wait.Progress κ) :=
  Wait.start host waiter.interval waiter.sequel (waiter.sequel.run host) condition

/-- The same waiter, but with a wait for a condition before its sequel. -/
def after (condition : χ) (waiter : Waiter χ κ) : Waiter χ κ :=
  ⟨.wait condition waiter.interval waiter.sequel, waiter.interval⟩

/-- Awaits conditions that are listed from the last to the first. The wait for the last
one becomes the sequel of the wait for the others. -/
def awaitReversed (host : Wait.Host χ (Sequel χ κ) τ σ) :
    Waiter χ κ → List χ → Routine τ σ (Wait.Progress κ)
  | waiter, [] => waiter.sequel.run host
  | waiter, [only] => waiter.await host only
  | waiter, last :: previous :: others =>
    awaitReversed host (waiter.after last) (previous :: others)

/-- Goes on once conditions have held one after the other. The wait for a condition does
not begin before all others in front of it have held. -/
def awaitAll (host : Wait.Host χ (Sequel χ κ) τ σ) (waiter : Waiter χ κ)
    (conditions : List χ) : Routine τ σ (Wait.Progress κ) :=
  awaitReversed host waiter conditions.reverse

end Waiter

end PageWatch
