import PageWatch.Clock.Basic
import PageWatch.Page.Scripted

/-!
# Actions of a session

A session is a list of actions on one timer and one page. Timers and waits that an
action starts carry the actions that run at their ticks or when they fire.
-/

namespace PageWatch.Session

/-- What an outcome of a prepared check is. -/
inductive CheckReply where
  | answer (holds : Bool)
  /-- The page fails with this text. -/
  | failure (text : String)
  deriving DecidableEq, Repr, Inhabited

/-- What a wait of a session waits for. -/
inductive Target where
  /-- A node that matches a selector. -/
  | element (selector : String)
  /-- Nodes that match each of the selectors. -/
  | all (selectors : List String)
  /-- A form control with a value. -/
  | value (selector value : String)
  /-- Prepared checks. A check that is not fallible takes a failure for "does not hold". -/
  | checks (replies : List CheckReply) (fallible : Bool)
  deriving Inhabited

inductive Action where
  | mark (text : String)
  /-- Moves the clock. -/
  | advance (span : Span)
  /-- Lets the wall clock go on. -/
  | sleep (span : Span)
  /-- Sets the wall clock forward at once. -/
  | jump (span : Span)
  | clear
  /-- A bare timer; its k-th tick runs the k-th list of actions. -/
  | schedule (name : String) (interval : Span) (ticks : List (List Action))
  | cancel (name : String)
  /-- A wait; without an interval of its own it has the usual one. -/
  | wait (label : String) (target : Target) (interval : Option Span) (next : List Action)
  | load (html : String)
  | set (selector value : String)
  | reply (selector : String) (replies : Replies)
  | select (selector : String)
  | unknown
  deriving Inhabited

/-- How much an action can do: the number of timers it can start, and the time by which
it can move the clock, in whole milliseconds. -/
structure Weight where
  timers : Nat
  spanMs : Nat
  deriving Repr, Inhabited

/-- What two actions can do together. -/
def Weight.add (first second : Weight) : Weight :=
  ⟨first.timers + second.timers, first.spanMs + second.spanMs⟩

/-- How many ticks the timers can make in the time. -/
def Weight.ticks (weight : Weight) : Nat :=
  (weight.timers + 1) * (weight.spanMs + 2)

mutual

/-- How much an action can do, everything that it can set off included. -/
def Action.weight : Action → Weight
  | .advance span | .sleep span | .jump span => ⟨0, span.wholeMs + 1⟩
  | .schedule _ _ ticks => (weightOfLists ticks).add ⟨1, 0⟩
  | .wait _ (.all selectors) _ next => (weightOfList next).add ⟨selectors.length, 0⟩
  | .wait _ _ _ next => (weightOfList next).add ⟨1, 0⟩
  | _ => ⟨0, 0⟩

def weightOfList : List Action → Weight
  | [] => ⟨0, 0⟩
  | action :: more => action.weight.add (weightOfList more)

/-- How much the actions of the ticks of a timer can do. -/
def weightOfLists : List (List Action) → Weight
  | [] => ⟨0, 0⟩
  | actions :: more => (weightOfList actions).add (weightOfLists more)

end

end PageWatch.Session
