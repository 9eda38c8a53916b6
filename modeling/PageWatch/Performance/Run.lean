import PageWatch.Performance.Basic
import PageWatch.Report

/-!
# Running a performance

The script runs first, and what it made ready is called. Then the clock moves from
deadline to deadline, and after each move the callbacks that it made ready are called, in
order. This goes on until nothing is scheduled any more, until the next deadline lies
beyond the budget, or until something fails. Every move takes at least a millisecond, so
the budget bounds their number.

In real time, a move is slept through before it is made. A performance keeps its sleeps with
their places among its notices, so that whoever shows it can sleep where it did.
-/

namespace PageWatch.Performance

open Script

variable {σ : Type}

/-- A sleep of a performance. -/
structure Sleep where
  span : Span
  /-- How many notices had been reported when it began. -/
  reported : Nat
  deriving DecidableEq, Repr

/-- A performance between two moves of the clock. -/
structure Progress (σ : Type) where
  /-- The failure that ended the performance. -/
  failure : Option String
  /-- The script. -/
  script : σ
  scene : Scene
  /-- The sleeps so far, the latest first. -/
  sleeps : List Sleep

namespace Progress

/-- Goes on with the script, unless something has failed. -/
def speak (interval : Span) (dialogue : σ → Dialogue σ) (progress : Progress σ) : Progress σ :=
  match progress.failure with
  | some _ => progress
  | none =>
    let ((failure, script), scene) :=
      Scene.converse interval (dialogue progress.script) progress.scene
    { progress with failure, script, scene }

/-- Calls callbacks in order, up to the first that fails. -/
def callAll (performer : Performer σ) (interval : Span) (callbacks : List ObjectId)
    (progress : Progress σ) : Progress σ :=
  callbacks.foldl
    (fun progress callback =>
      progress.speak interval fun script => performer.call script callback)
    progress

/-- Calls the callbacks that are ready. Nothing becomes ready meanwhile, as the clock
stands still. -/
def callReady (performer : Performer σ) (interval : Span) (progress : Progress σ) :
    Progress σ :=
  let scene := progress.scene
  callAll performer interval scene.state.ready
    { progress with scene := { scene with state := { scene.state with ready := [] } } }

/-- The next deadline within the budget, unless something has failed. -/
def nextStop? (budget : Span) (progress : Progress σ) : Option Instant :=
  match progress.failure with
  | some _ => none
  | none => progress.scene.timers.nextDeadline?.filter (· ≤ budget)

/-- The sleep up to a deadline. It is left out if the deadline is jumped to or is now. -/
def sleep? (realtime : Bool) (deadline : Instant) (progress : Progress σ) : Option Sleep :=
  let span := deadline - progress.scene.timers.now
  if realtime ∧ 0 < span then some ⟨span, progress.scene.state.notices.length⟩ else none

/-- Sleeps up to a deadline. -/
def pause (realtime : Bool) (deadline : Instant) (progress : Progress σ) : Progress σ :=
  { progress with sleeps := (progress.sleep? realtime deadline).toList ++ progress.sleeps }

/-- Sleeps up to a deadline and moves the clock there. Every timer ticks at most once on the
way. -/
def moveTo (realtime : Bool) (deadline : Instant) (progress : Progress σ) :
    Option (Progress σ) :=
  let progress := progress.pause realtime deadline
  let scene := progress.scene
  let span := deadline - scene.timers.now
  (World.advance Clock.service Work.tick (scene.timers.active + 1) span scene).map fun scene =>
    { progress with scene }

/-- Moves the clock from deadline to deadline within the budget and calls what becomes
ready. The number bounds the moves. -/
def drive (performer : Performer σ) (settings : Settings) : Nat → Progress σ → Progress σ
  | 0, progress => progress
  | moves + 1, progress =>
    match progress.nextStop? (Span.ofMs settings.budgetMs) with
    | none => progress
    | some deadline =>
      match progress.moveTo settings.realtime deadline with
      | none => progress
      | some progress =>
        drive performer settings moves
          (progress.callReady performer (Span.ofMs settings.checkIntervalMs))

end Progress

def perform (performer : Performer σ) (page : Page) (settings : Settings) : Progress σ :=
  let interval := Span.ofMs settings.checkIntervalMs
  let ((failure, script), scene) :=
    Scene.converse interval performer.start (Scene.start page)
  let progress : Progress σ := ⟨failure, script, scene, []⟩
  Progress.drive performer settings (settings.budgetMs + 1)
    (progress.callReady performer interval)

/-! ## What is left of a performance -/

/-- What can be seen of a run from outside. -/
inductive Sign where
  | reported (notice : Notice)
  | slept (span : Span)
  deriving DecidableEq, Repr

namespace Sign

def notice? : Sign → Option Notice
  | reported notice => some notice
  | slept _ => none

def span? : Sign → Option Span
  | reported _ => none
  | slept span => some span

/-- Notices with sleeps at their places among them. So many others were reported before the
first of these notices. -/
def woven (others : Nat) (notices : List Notice) : List Sleep → List Sign
  | [] => notices.map reported
  | sleep :: sleeps =>
    let ahead := sleep.reported - others
    (notices.take ahead).map reported ++
      slept sleep.span :: woven sleep.reported (notices.drop ahead) sleeps

theorem notices_map_reported (notices : List Notice) :
    (notices.map reported).filterMap notice? = notices := by
  rw [List.filterMap_map]
  exact List.filterMap_some

theorem spans_map_reported (notices : List Notice) :
    (notices.map reported).filterMap span? = [] := by
  simp [List.filterMap_map, span?, Function.comp_def]

theorem notices_woven (others : Nat) (notices : List Notice) (sleeps : List Sleep) :
    (woven others notices sleeps).filterMap notice? = notices := by
  induction sleeps generalizing others notices with
  | nil => exact notices_map_reported notices
  | cons sleep sleeps ih =>
    simp only [woven, List.filterMap_append, notices_map_reported, List.filterMap_cons, notice?,
      ih, List.take_append_drop]

theorem spans_woven (others : Nat) (notices : List Notice) (sleeps : List Sleep) :
    (woven others notices sleeps).filterMap span? = sleeps.map Sleep.span := by
  induction sleeps generalizing others notices with
  | nil => exact spans_map_reported notices
  | cons sleep sleeps ih =>
    simp only [woven, List.filterMap_append, spans_map_reported, List.filterMap_cons, span?, ih,
      List.nil_append, List.map_cons]

end Sign

/-- What has been seen of a performance. -/
def Progress.signs (progress : Progress σ) : List Sign :=
  Sign.woven 0 progress.scene.state.notices.reverse progress.sleeps.reverse

theorem Progress.notices_signs (progress : Progress σ) :
    progress.signs.filterMap Sign.notice? = progress.scene.state.notices.reverse :=
  Sign.notices_woven _ _ _

theorem Progress.spans_signs (progress : Progress σ) :
    progress.signs.filterMap Sign.span? = progress.sleeps.reverse.map Sleep.span :=
  Sign.spans_woven _ _ _

/-- What is known of a performance when it is over. -/
structure Outcome where
  report : Report
  /-- What was reported and slept through, in order. -/
  signs : List Sign

namespace Outcome

def notices (outcome : Outcome) : List Notice := outcome.signs.filterMap Sign.notice?

def sleeps (outcome : Outcome) : List Span := outcome.signs.filterMap Sign.span?

end Outcome

/-- The outcome of a performance that is over. Waits that are left are worth a notice. -/
def Progress.outcome (progress : Progress σ) : Outcome :=
  let scene := progress.scene
  let pending := scene.timers.active
  let signs := progress.signs
  { report :=
      { success := progress.failure.isNone
        output := "\n".intercalate scene.state.printed.reverse
        error := progress.failure
        virtualMs := Span.wholeMs scene.timers.now
        elapsedMs := 0
        pending }
    signs := if 0 < pending then signs ++ [.reported (.stopped pending)] else signs }

theorem Progress.notices_outcome (progress : Progress σ) :
    progress.outcome.notices =
      if 0 < progress.scene.timers.active then
        progress.scene.state.notices.reverse ++ [.stopped progress.scene.timers.active]
      else progress.scene.state.notices.reverse := by
  simp only [outcome, Outcome.notices]
  split
  · rw [List.filterMap_append, notices_signs]
    rfl
  · exact progress.notices_signs

theorem Progress.sleeps_outcome (progress : Progress σ) :
    progress.outcome.sleeps = progress.sleeps.reverse.map Sleep.span := by
  simp only [outcome, Outcome.sleeps]
  split
  · rw [List.filterMap_append, spans_signs]
    exact List.append_nil _
  · exact progress.spans_signs

end PageWatch.Performance
