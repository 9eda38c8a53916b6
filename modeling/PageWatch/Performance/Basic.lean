import PageWatch.Clock.Advance
import PageWatch.Page.Basic
import PageWatch.Script.Dialogue
import PageWatch.Settings.Basic
import PageWatch.Wait.Basic
import PageWatch.Wait.Condition

/-!
# Performances of scripts

A script is performed on a page, with a clock that is moved by hand. What it asks for is
answered at once: waits and timeouts become timers, lines are written down, the document
changes. A tick never runs any part of the script; it only makes a callback ready, so
that all ticks of one instant see the same document.
-/

namespace PageWatch.Performance

open Script

/-- The task of a timer: a wait that polls its condition, or a callback that is due after
some time, until it has been. -/
inductive Task where
  | wait (wait : Wait PageCondition (Sequel PageCondition ObjectId))
  | timeout (slot : Option Handle) (callback : Option ObjectId)

/-- What ticks and answers share. -/
structure State where
  page : Page
  /-- The callbacks that ticks made ready, in order. -/
  ready : List ObjectId
  /-- The lines that were printed, the latest first. -/
  printed : List String
  /-- What was reported, the latest first. -/
  notices : List Notice
  deriving Inhabited

/-- The state in which a performance begins. -/
def State.start (page : Page) : State := ⟨page, [], [], []⟩

/-- A routine of a performance. -/
abbrev Work := Routine Task State

/-- The clock and the state of a performance. -/
abbrev Scene := World.Clocked Task State

/-- The scene in which a performance begins. -/
def Scene.start (page : Page) : Scene := ⟨Clock.start, State.start page⟩

namespace Work

def report (notice : Notice) : Work Unit :=
  Routine.modify fun _ state => { state with notices := notice :: state.notices }

/-- Asks the page for the nodes that match a selector. -/
def query (selector : String) : Work (Except QueryError (List Match)) :=
  Routine.update fun state =>
    let (answer, page) := state.page.select selector
    (answer, { state with page })

/-- The surroundings of a performance's waits. -/
def host : Wait.Host PageCondition (Sequel PageCondition ObjectId) Task State where
  check := PageCondition.check query
  report := report
  task := .wait

def enqueue (callback : ObjectId) : Work Unit :=
  Routine.modify fun _ state => { state with ready := state.ready ++ [callback] }

/-- What a timer does at a tick. -/
def tick : Behaviour Task State
  | _, .wait wait => do
    let (wait, progress) ← wait.tick host (Sequel.run host)
    match progress with
    | .met callback => enqueue callback
    | _ => pure ()
    return .wait wait
  | _, .timeout slot callback => do
    Routine.cancelSlot slot
    match callback with
    | some callback => enqueue callback
    | none => pure ()
    return .timeout none none

/-! ## Answers -/

/-- Writes a line down. -/
def print (line : String) : Work Unit := do
  report (.printed line)
  Routine.modify fun _ state => { state with printed := line :: state.printed }

/-- Replaces the document, if the page is a snapshot. -/
def load (source : String) : Work Unit :=
  Routine.modify fun _ state =>
    match state.page with
    | .snapshot document => { state with page := .snapshot (document.load source) }
    | .scripted _ => state

/-- Types a text into form controls, if the page is a snapshot. -/
def setValue (selector text : String) : Work Reply := do
  let answer ← Routine.update fun state =>
    match state.page with
    | .scripted _ => (.ok 0, state)
    | .snapshot document =>
      match document.setValue selector text with
      | .error error => (.error error, state)
      | .ok (controls, document) => (.ok controls, { state with page := .snapshot document })
  match (answer : Except QueryError Nat) with
  | .ok controls =>
    report (.valueSet controls selector)
    return .counted controls
  | .error error => return .refused error.message

/-- Answers what a script asks for. Waits check their conditions at the given
interval. -/
def answer (interval : Span) : Request → Work Reply
  | .wait conditions callback => do
    let waiter : Waiter PageCondition ObjectId := ⟨.callback callback, interval⟩
    match ← waiter.awaitAll host conditions with
    | .met _ => return .due
    | _ => return .done
  | .timeout delayMs callback =>
    Routine.schedule (Span.ofMs delayMs) (fun handle => .timeout (some handle) (some callback))
      fun _ => pure .done
  | .print line => do
    print line
    return .done
  | .load source => do
    load source
    return .done
  | .setValue selector text => setValue selector text

end Work

namespace Scene

/-- Does some work that does not move the clock. -/
def act {α : Type} (work : Work α) (scene : Scene) : α × Scene :=
  World.act Clock.service work scene

variable {σ : Type}

/-- Holds a dialogue up to its end. -/
def converse (interval : Span) : Dialogue σ → Scene → (Option String × σ) × Scene
  | .finished failure state, scene => ((failure, state), scene)
  | .asks request next, scene =>
    let (reply, scene) := scene.act (Work.answer interval request)
    converse interval (next reply) scene

end Scene

end PageWatch.Performance
