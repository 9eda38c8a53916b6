import PageWatch.Clock.Wall
import PageWatch.Page.Basic
import PageWatch.Session.Action
import PageWatch.Wait.Basic
import PageWatch.Wait.Condition

/-!
# Sessions

What a session keeps besides its timer, and the routines that carry out its actions.
-/

namespace PageWatch.Session

/-- The result of an action. -/
inductive Outcome where
  | nothing
  | unsupported
  | noSuchName
  | unknownAction
  | count (controls : Nat)
  | nodes (found : List Match)
  | failed (error : QueryError)
  deriving DecidableEq, Repr, Inhabited

/-- Something that happened in a session. -/
inductive Event where
  | mark (text : String)
  | tick (name : String)
  | fire (label : String)
  | check (label : String)
  | query (selector : String)
  | result (outcome : Outcome)
  | notice (notice : Notice)
  deriving DecidableEq, Repr, Inhabited

/-- What a session is set up with. -/
structure Setup where
  /-- Whether queries are recorded. -/
  queries : Bool
  /-- The interval of waits that have none of their own. -/
  interval : Span
  /-- Whether the clock is moved by hand. -/
  byHand : Bool
  deriving Repr, Inhabited

/-- The interval of waits where nothing else is said. -/
def standardInterval : Span := Span.ofMs 10

/-- The state that the actions of a session share. -/
structure State where
  page : Page
  /-- The timers that can be cancelled by name. -/
  names : List (String × Handle)
  /-- What happened, the latest first. -/
  log : List (Instant × Event)
  deriving Inhabited

/-- A condition of a session's wait. -/
inductive Condition where
  | page (condition : PageCondition)
  | prepared (label : String) (replies : List CheckReply) (fallible : Bool)
  deriving Inhabited

/-- What runs when a wait fires. -/
structure Callback where
  label : String
  next : List Action
  deriving Inhabited

/-- The task of a timer in a session. -/
inductive Task where
  | bare (name : String) (ticks : List (List Action))
  | wait (wait : Wait Condition (Sequel Condition Callback))

/-- A routine of a session. -/
abbrev Work := Routine Task State

namespace Work

def record (event : Event) : Work Unit :=
  Routine.modify fun now state => { state with log := (now, event) :: state.log }

def report (notice : Notice) : Work Unit := record (.notice notice)

/-- Asks the page for the nodes that match a selector. -/
def query (setup : Setup) (selector : String) : Work (Except QueryError (List Match)) := do
  if setup.queries then record (.query selector)
  Routine.update fun state =>
    let (answer, page) := state.page.select selector
    (answer, { state with page })

/-- The next of some prepared replies, and those left; the last one stays. -/
def nextReply : List CheckReply → CheckReply × List CheckReply
  | [] => (.answer false, [])
  | [last] => (last, [last])
  | first :: more => (first, more)

def check (setup : Setup) : Condition → Work (Except QueryError Bool × Condition)
  | .page condition => do
    let (answer, condition) ← condition.check (query setup)
    return (answer, .page condition)
  | .prepared label replies fallible => do
    record (.check label)
    let (reply, left) := nextReply replies
    let answer := match reply with
      | .answer holds => .ok holds
      | .failure text => if fallible then .error (.page text) else .ok false
    return (answer, .prepared label left fallible)

/-- The surroundings of a session's waits. -/
def host (setup : Setup) :
    Wait.Host Condition (Sequel Condition Callback) Task State where
  check := check setup
  report := report
  task := .wait

/-- The conditions of a target, in the order in which they have to hold. -/
def conditions (label : String) : Target → List Condition
  | .element selector => [.page (.element selector)]
  | .all selectors => selectors.map fun selector => .page (.element selector)
  | .value selector value => [.page (.value selector value)]
  | .checks replies fallible => [.prepared label replies fallible]

/-- The interval of a wait that has none of its own. Prepared checks do not follow the
session's. -/
def usualInterval (setup : Setup) : Target → Span
  | .checks _ _ => standardInterval
  | _ => setup.interval

def setValue (selector value : String) : Work Outcome := do
  let outcome ← Routine.update fun state =>
    match state.page with
    | .scripted _ => (.unsupported, state)
    | .snapshot document =>
      match document.setValue selector value with
      | .error error => (.failed error, state)
      | .ok (controls, document) => (.count controls, { state with page := .snapshot document })
  match outcome with
  | .count controls => report (.valueSet controls selector)
  | _ => pure ()
  return outcome

/-- Carries out an action that sets nothing else off. -/
def simple (setup : Setup) : Action → Work Outcome
  | .mark text => do
    record (.mark text)
    return .nothing
  | .advance span =>
    if setup.byHand then Routine.advance span (pure .nothing) else pure .unsupported
  | .clear => if setup.byHand then Routine.clear (pure .nothing) else pure .unsupported
  | .schedule name interval ticks =>
    Routine.schedule interval (fun _ => .bare name ticks) fun handle => do
      Routine.modify fun _ state =>
        { state with
          names := (name, handle) :: state.names.filter fun entry => entry.1 != name }
      return .nothing
  | .cancel name => do
    let state ← Routine.state
    match state.names.lookup name with
    | none => return .noSuchName
    | some handle => Routine.cancel handle (pure .nothing)
  | .load html =>
    Routine.update fun state =>
      match state.page with
      | .scripted _ => (.unsupported, state)
      | .snapshot _ => (.nothing, { state with page := .snapshot (Snapshot.parse html) })
  | .set selector value => setValue selector value
  | .reply selector replies =>
    Routine.update fun state =>
      match state.page with
      | .snapshot _ => (.unsupported, state)
      | .scripted page =>
        (.nothing, { state with page := .scripted (page.prepare selector replies) })
  | .select selector => do
    match ← query setup selector with
    | .ok found => return .nodes found
    | .error error => return .failed error
  | _ => pure .unknownAction

mutual

/-- Carries out an action. A wait that is met at once fires before the action ends. -/
def perform (setup : Setup) : Action → Work Outcome
  | .wait label target interval next => do
    let waiter : Waiter Condition Callback :=
      ⟨.callback ⟨label, next⟩, interval.getD (usualInterval setup target)⟩
    match ← waiter.awaitAll (host setup) (conditions label target) with
    | .met _ =>
      record (.fire label)
      performAll setup next
    | _ => pure ()
    return .nothing
  | action => simple setup action

/-- Carries out actions in order inside a tick or a callback, where the results that say
something are recorded. -/
def performAll (setup : Setup) : List Action → Work Unit
  | [] => pure ()
  | action :: more => do
    let outcome ← perform setup action
    if outcome ≠ .nothing then record (.result outcome)
    performAll setup more

end

/-- What the timers of a session do at a tick. -/
def tick (setup : Setup) : Behaviour Task State
  | _, .bare name ticks => do
    record (.tick name)
    match ticks with
    | [] => return .bare name []
    | actions :: more =>
      performAll setup actions
      return .bare name more
  | _, .wait wait => do
    let (wait, progress) ← wait.tick (host setup) (Sequel.run (host setup))
    match progress with
    | .met callback =>
      record (.fire callback.label)
      performAll setup callback.next
    | _ => pure ()
    return .wait wait

end Work

end PageWatch.Session
