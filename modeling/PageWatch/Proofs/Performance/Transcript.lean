import PageWatch.Proofs.Performance.Resting

/-!
# Transcripts of performances

A transcript lists what happens in a performance, each entry with the time on the clock:
timers tick, the script begins and its callbacks are called, something is asked for and
answered, and what was started ends.  It is read off the performance itself, stretch by
stretch.

A performance is also a run of a machine that takes one small step after the other.  Every
step adds at most one entry to the transcript, so what each step preserves holds of every
performance and of everything in its transcript.
-/

namespace PageWatch.Performance

open Script

variable {σ : Type}

/-- What happens in a performance. -/
inductive Event where
  /-- A timer ticks, and its tick may make a callback ready. -/
  | ticked (handle : Handle) (readied : Option ObjectId)
  /-- A callback is called, or the script itself begins. -/
  | started (callback : Option ObjectId)
  | asked (request : Request) (reply : Reply)
  /-- What was started is over, with or without a failure. -/
  | ended (failure : Option String)

/-- What happened, and when, in order. -/
abbrev Transcript := List (Instant × Event)

/-! ## Transcripts of parts of a performance -/

def Scene.converseTranscript (interval : Span) : Dialogue σ → Scene → Transcript
  | .finished failure _, scene => [(scene.timers.now, .ended failure)]
  | .asks request next, scene =>
    let (reply, after) := scene.act (Work.answer interval request)
    (scene.timers.now, .asked request reply) :: after.converseTranscript interval (next reply)

/-- The callback that has become ready from one scene to another. -/
def Scene.readied? (before after : Scene) : Option ObjectId :=
  (after.state.ready.drop before.state.ready.length).head?

/-- The transcript of a move of the clock to a deadline. -/
def Scene.moveTranscript : Nat → Instant → Scene → Transcript
  | 0, _, _ => []
  | ticks + 1, target, scene =>
    match scene.timers.nextDue? target with
    | none => []
    | some due =>
      let after := scene.beat Work.tick due
      (due.deadline, .ticked due.handle (scene.readied? after)) ::
        moveTranscript ticks target after

namespace Progress

/-- The transcript of calls of callbacks, up to the first that fails. -/
def callTranscript (performer : Performer σ) (interval : Span) :
    List ObjectId → Progress σ → Transcript
  | [], _ => []
  | callback :: callbacks, progress =>
    match progress.failure with
    | some _ => []
    | none =>
      let dialogue := performer.call progress.script callback
      (progress.scene.timers.now, .started (some callback)) ::
        (progress.scene.converseTranscript interval dialogue ++
          callTranscript performer interval callbacks
            (progress.speak interval fun script => performer.call script callback))

/-- The transcript of calling the callbacks that are ready. -/
def readyTranscript (performer : Performer σ) (interval : Span) (progress : Progress σ) :
    Transcript :=
  progress.emptied.callTranscript performer interval progress.scene.state.ready

/-- The transcript of all moves of the clock and the calls after each. -/
def driveTranscript (performer : Performer σ) (settings : Settings) :
    Nat → Progress σ → Transcript
  | 0, _ => []
  | moves + 1, progress =>
    match progress.nextStop? (Span.ofMs settings.budgetMs) with
    | none => []
    | some deadline =>
      match progress.moveTo settings.realtime deadline with
      | none => []
      | some moved =>
        let interval := Span.ofMs settings.checkIntervalMs
        progress.scene.moveTranscript (progress.scene.timers.active + 1) deadline ++
          moved.readyTranscript performer interval ++
          driveTranscript performer settings moves (moved.callReady performer interval)

end Progress

/-- A performance up to the first move of the clock: the script has run, and what it made ready
has been called. -/
def opening (performer : Performer σ) (page : Page) (interval : Span) : Progress σ :=
  let ((failure, script), scene) := Scene.converse interval performer.start (Scene.start page)
  Progress.callReady performer interval ⟨failure, script, scene, []⟩

/-- The transcript up to the first move of the clock. -/
def openingTranscript (performer : Performer σ) (page : Page) (interval : Span) : Transcript :=
  let ((failure, script), scene) := Scene.converse interval performer.start (Scene.start page)
  (0, .started none) :: ((Scene.start page).converseTranscript interval performer.start ++
    Progress.readyTranscript performer interval ⟨failure, script, scene, []⟩)

def transcript (performer : Performer σ) (page : Page) (settings : Settings) : Transcript :=
  let interval := Span.ofMs settings.checkIntervalMs
  openingTranscript performer page interval ++
    (opening performer page interval).driveTranscript performer settings (settings.budgetMs + 1)

/-! ## Steps -/

/-- What runs at some moment. -/
inductive Mode (σ : Type) where
  /-- The script has not begun yet. -/
  | fresh
  | speaking (dialogue : Dialogue σ)
  /-- Nothing runs, and nothing will if something has failed. -/
  | idle (failure : Option String) (script : σ)

/-- A moment of a performance. -/
structure Moment (σ : Type) where
  mode : Mode σ
  scene : Scene
  /-- The callbacks that are called next. -/
  calling : List ObjectId

/-- A step of a performance, and what it adds to the transcript.  Timers tick only at the
present time as long as callbacks are ready. -/
inductive Step (performer : Performer σ) (interval : Span) :
    Moment σ → Option (Instant × Event) → Moment σ → Prop
  | begin (scene : Scene) :
      Step performer interval ⟨.fresh, scene, []⟩ (some (scene.timers.now, .started none))
        ⟨.speaking performer.start, scene, []⟩
  | answer (request : Request) (next : Reply → Dialogue σ) (scene : Scene)
      (calling : List ObjectId) :
      Step performer interval ⟨.speaking (.asks request next), scene, calling⟩
        (some (scene.timers.now,
          .asked request (scene.act (Work.answer interval request)).1))
        ⟨.speaking (next (scene.act (Work.answer interval request)).1),
          (scene.act (Work.answer interval request)).2, calling⟩
  | finish (failure : Option String) (script : σ) (scene : Scene) (calling : List ObjectId) :
      Step performer interval ⟨.speaking (.finished failure script), scene, calling⟩
        (some (scene.timers.now, .ended failure)) ⟨.idle failure script, scene, calling⟩
  | call (script : σ) (scene : Scene) (callback : ObjectId) (calling : List ObjectId) :
      Step performer interval ⟨.idle none script, scene, callback :: calling⟩
        (some (scene.timers.now, .started (some callback)))
        ⟨.speaking (performer.call script callback), scene, calling⟩
  | take (failure : Option String) (script : σ) (timers : Clock Task) (state : State) :
      Step performer interval ⟨.idle failure script, ⟨timers, state⟩, []⟩ none
        ⟨.idle failure script, ⟨timers, { state with ready := [] }⟩, state.ready⟩
  | tick (script : σ) (scene : Scene) (due : Clock.Due Task) :
      scene.timers.nextDue? due.deadline = some due →
      scene.state.ready = [] ∨ due.deadline = scene.timers.now →
      Step performer interval ⟨.idle none script, scene, []⟩
        (some (due.deadline,
          .ticked due.handle (scene.readied? (scene.beat Work.tick due))))
        ⟨.idle none script, scene.beat Work.tick due, []⟩
  | arrive (script : σ) (scene : Scene) (target : Instant) :
      scene.timers.nextDue? target = none → Span.Whole target → scene.timers.now ≤ target →
      scene.state.ready = [] ∨ target = scene.timers.now →
      Step performer interval ⟨.idle none script, scene, []⟩ none
        ⟨.idle none script, scene.arrive target, []⟩

/-- Steps in a row, and what they add to the transcript. -/
inductive Steps (performer : Performer σ) (interval : Span) :
    Moment σ → Transcript → Moment σ → Prop
  | refl (moment : Moment σ) : Steps performer interval moment [] moment
  | head {first second last : Moment σ} {entry : Option (Instant × Event)} {rest : Transcript} :
      Step performer interval first entry second → Steps performer interval second rest last →
      Steps performer interval first (entry.toList ++ rest) last

namespace Steps

variable {performer : Performer σ} {interval : Span} {first second last : Moment σ}

theorem single {entry : Option (Instant × Event)}
    (step : Step performer interval first entry second) :
    Steps performer interval first entry.toList second := by
  rw [← List.append_nil entry.toList]
  exact .head step (.refl second)

theorem trans {one other : Transcript} (steps : Steps performer interval first one second)
    (more : Steps performer interval second other last) :
    Steps performer interval first (one ++ other) last := by
  induction steps with
  | refl moment => exact more
  | head step rest ih =>
      rw [List.append_assoc]
      exact .head step (ih more)

/-- What each step preserves holds after any number of steps. -/
theorem keeps (holds : Transcript → Moment σ → Prop)
    (step : ∀ past first entry second, holds past first →
      Step performer interval first entry second → holds (past ++ entry.toList) second)
    {past added : Transcript} (start : holds past first)
    (steps : Steps performer interval first added last) : holds (past ++ added) last := by
  induction steps generalizing past with
  | refl moment =>
      rw [List.append_nil]
      exact start
  | head taken rest ih =>
      rw [← List.append_assoc]
      exact ih (step _ _ _ _ start taken)

end Steps

/-! ## A performance takes such steps -/

section Performs

variable {performer : Performer σ} {interval : Span}

theorem steps_converse (dialogue : Dialogue σ) (scene : Scene) (calling : List ObjectId) :
    let ended := Scene.converse interval dialogue scene
    Steps performer interval ⟨.speaking dialogue, scene, calling⟩
      (scene.converseTranscript interval dialogue)
      ⟨.idle ended.1.1 ended.1.2, ended.2, calling⟩ := by
  induction dialogue generalizing scene with
  | finished failure script => exact .single (.finish failure script scene calling)
  | asks request next ih =>
      exact .head (.answer request next scene calling)
        (ih (scene.act (Work.answer interval request)).1
          (scene.act (Work.answer interval request)).2)

/-- The moment at which a performance is, with callbacks to be called next. -/
def Progress.moment (progress : Progress σ) (calling : List ObjectId) : Moment σ :=
  ⟨.idle progress.failure progress.script, progress.scene, calling⟩

theorem Progress.callAll_failed {progress : Progress σ} {text : String}
    (failed : progress.failure = some text) (callbacks : List ObjectId) :
    progress.callAll performer interval callbacks = progress := by
  induction callbacks with
  | nil => rfl
  | cons callback callbacks ih =>
      have unmoved : (progress.speak interval fun script => performer.call script callback) =
          progress := by
        rw [speak, failed]
      rw [callAll, List.foldl_cons, unmoved]
      exact ih

/-- Callbacks are called one after the other.  If one fails, those after it are left. -/
theorem steps_callAll (performer : Performer σ) (callbacks : List ObjectId)
    (progress : Progress σ) :
    ∃ left, Steps performer interval (progress.moment callbacks)
        (progress.callTranscript performer interval callbacks)
        ((progress.callAll performer interval callbacks).moment left) ∧
      ((progress.callAll performer interval callbacks).failure = none → left = []) := by
  induction callbacks generalizing progress with
  | nil => exact ⟨[], .refl _, fun _ => rfl⟩
  | cons callback callbacks ih =>
      obtain ⟨failure, script, scene, sleeps⟩ := progress
      cases failure with
      | some text =>
          have stays : Progress.callAll performer interval (callback :: callbacks)
              ⟨some text, script, scene, sleeps⟩ = ⟨some text, script, scene, sleeps⟩ :=
            Progress.callAll_failed rfl _
          rw [stays]
          exact ⟨callback :: callbacks, .refl _, fun succeeded => by simp at succeeded⟩
      | none =>
          obtain ⟨left, steps, empty⟩ := ih (Progress.speak interval
            (fun script => performer.call script callback) ⟨none, script, scene, sleeps⟩)
          refine ⟨left, ?_, empty⟩
          exact .head (.call script scene callback callbacks)
            ((steps_converse _ scene callbacks).trans steps)

theorem steps_callReady (performer : Performer σ) (progress : Progress σ) :
    ∃ left, Steps performer interval (progress.moment [])
        (progress.readyTranscript performer interval)
        ((progress.callReady performer interval).moment left) ∧
      ((progress.callReady performer interval).failure = none → left = []) := by
  obtain ⟨left, steps, empty⟩ :=
    steps_callAll performer progress.scene.state.ready progress.emptied
  exact ⟨left, .head (.take progress.failure progress.script progress.scene.timers
    progress.scene.state) steps, empty⟩

theorem steps_move {ticks : Nat} {target : Instant} {scene after : Scene} (script : σ)
    (arriving : Arriving target scene.timers) (early : scene.timers.now ≤ target)
    (alone : scene.state.ready = [] ∨ target = scene.timers.now)
    (drained : World.drain Clock.service Work.tick ticks target scene = some after) :
    Steps performer interval ⟨.idle none script, scene, []⟩ (scene.moveTranscript ticks target)
      ⟨.idle none script, after, []⟩ := by
  induction ticks generalizing scene with
  | zero => simp [World.drain] at drained
  | succ ticks ih =>
      rw [World.drain_succ still_tick] at drained
      rw [Scene.moveTranscript]
      cases next : scene.timers.nextDue? target with
      | none =>
          simp only [next, Option.some.injEq] at drained
          rw [← drained]
          exact .single (.arrive script scene target next arriving.there early alone)
      | some due =>
          simp only [next] at drained
          obtain ⟨deadline_eq, arrivingNext, now, -⟩ := arriving.beat next
          have rest := ih arrivingNext (Nat.le_of_eq now) (.inr now.symm) drained
          rw [← deadline_eq] at next alone
          exact .head (.tick script scene due next alone) rest

namespace Progress

theorem drive_stop (performer : Performer σ) (settings : Settings) {progress : Progress σ}
    (stop : progress.nextStop? (Span.ofMs settings.budgetMs) = none) (moves : Nat) :
    progress.drive performer settings moves = progress ∧
      progress.driveTranscript performer settings moves = [] := by
  cases moves with
  | zero => exact ⟨rfl, rfl⟩
  | succ moves => simp only [drive, driveTranscript, stop, and_self]

/-- A round of a performance: the clock is moved to a deadline, and what has become ready is
called.  The budget plays no part in it. -/
structure Round (performer : Performer σ) (interval : Span) (realtime : Bool)
    (deadline : Instant) (before after : Progress σ) (added : Transcript) : Prop where
  atRest : after.AtRest
  now_eq : after.scene.timers.now = deadline
  ahead : before.scene.timers.now + Span.ofMs 1 ≤ deadline
  steps : ∃ left, Steps performer interval (before.moment []) added (after.moment left) ∧
    (after.failure = none → left = [])
  drive_eq : ∀ (settings : Settings) (moves : Nat),
    settings.realtime = realtime → Span.ofMs settings.checkIntervalMs = interval →
    deadline ≤ Span.ofMs settings.budgetMs →
    before.drive performer settings (moves + 1) = after.drive performer settings moves ∧
      before.driveTranscript performer settings (moves + 1) =
        added ++ after.driveTranscript performer settings moves

/-- As long as nothing has failed, a performance at rest can go on with its next round. -/
theorem AtRest.round {progress : Progress σ} {deadline : Instant} (atRest : progress.AtRest)
    (performer : Performer σ) (whole : interval.Whole) (succeeds : progress.failure = none)
    (next : progress.scene.timers.nextDeadline? = some deadline) (realtime : Bool) :
    ∃ after added, Round performer interval realtime deadline progress after added := by
  obtain ⟨failure, script, before, sleeps⟩ := progress
  obtain rfl : failure = none := succeeds
  obtain ⟨scene, moveTo_eq, drained, arriving, rests, now, ahead⟩ :=
    exists_moveTo atRest.clock next realtime
  let moved : Progress σ := { pause realtime deadline ⟨none, script, before, sleeps⟩ with scene }
  have movedRests : Resting moved.scene.timers := rests
  obtain ⟨afterRest, afterNow⟩ := atRest_callReady performer movedRests whole
  have early : before.timers.now ≤ deadline := Nat.le_of_add_right_le ahead
  refine ⟨moved.callReady performer interval,
    before.moveTranscript (before.timers.active + 1) deadline ++
      moved.readyTranscript performer interval,
    afterRest, afterNow.trans now, ahead, ?_,
    fun settings rounds sameTime sameInterval within => ?_⟩
  · obtain ⟨left, calls, empty⟩ := steps_callReady performer moved
    exact ⟨left, (steps_move script arriving early (.inl atRest.ready_eq) drained).trans calls,
      empty⟩
  · have stop : nextStop? (Span.ofMs settings.budgetMs) ⟨none, script, before, sleeps⟩ =
        some deadline := nextStop?_eq_some.mpr ⟨rfl, next, within⟩
    simp only [drive, driveTranscript, stop, sameTime, moveTo_eq, sameInterval,
      List.append_assoc]
    exact ⟨rfl, rfl⟩

/-- Wherever a performance stops, it is at rest. -/
theorem AtRest.drive (performer : Performer σ) (settings : Settings) (moves : Nat)
    {progress : Progress σ} (atRest : progress.AtRest) :
    (progress.drive performer settings moves).AtRest := by
  induction moves generalizing progress with
  | zero => exact atRest
  | succ moves ih =>
      cases stop : progress.nextStop? (Span.ofMs settings.budgetMs) with
      | none =>
          rw [(drive_stop performer settings stop (moves + 1)).1]
          exact atRest
      | some deadline =>
          obtain ⟨succeeds, next, within⟩ := nextStop?_eq_some.mp stop
          obtain ⟨after, added, round⟩ :=
            atRest.round performer (Span.whole_ofMs settings.checkIntervalMs) succeeds next
              settings.realtime
          rw [(round.drive_eq settings moves rfl rfl within).1]
          exact ih round.atRest

/-- A performance goes on round by round, as long as nothing has failed. -/
theorem AtRest.steps_drive (performer : Performer σ) (settings : Settings) (moves : Nat)
    {progress : Progress σ} (atRest : progress.AtRest) {left : List ObjectId}
    (empty : progress.failure = none → left = []) :
    ∃ last, Steps performer (Span.ofMs settings.checkIntervalMs) (progress.moment left)
        (progress.driveTranscript performer settings moves)
        ((progress.drive performer settings moves).moment last) ∧
      ((progress.drive performer settings moves).failure = none → last = []) := by
  induction moves generalizing progress left with
  | zero => exact ⟨left, .refl _, empty⟩
  | succ moves ih =>
      cases stop : progress.nextStop? (Span.ofMs settings.budgetMs) with
      | none =>
          obtain ⟨drive_eq, transcript_eq⟩ := drive_stop performer settings stop (moves + 1)
          rw [drive_eq, transcript_eq]
          exact ⟨left, .refl _, empty⟩
      | some deadline =>
          obtain ⟨succeeds, next, within⟩ := nextStop?_eq_some.mp stop
          obtain ⟨after, added, round⟩ :=
            atRest.round performer (Span.whole_ofMs settings.checkIntervalMs) succeeds next
              settings.realtime
          obtain ⟨drive_eq, transcript_eq⟩ := round.drive_eq settings moves rfl rfl within
          obtain ⟨middle, steps, emptyMiddle⟩ := round.steps
          obtain ⟨last, more, emptyLast⟩ := ih round.atRest emptyMiddle
          rw [drive_eq, transcript_eq, empty succeeds]
          exact ⟨last, steps.trans more, emptyLast⟩

end Progress

theorem atRest_opening (performer : Performer σ) (page : Page) (whole : interval.Whole) :
    (opening performer page interval).AtRest := by
  have start : Resting (Scene.start page).timers := resting_start
  exact (Progress.atRest_callReady performer (start.converse whole performer.start).1 whole).1

theorem atRest_perform (performer : Performer σ) (page : Page) (settings : Settings) :
    (perform performer page settings).AtRest := by
  have opened := atRest_opening performer page (Span.whole_ofMs settings.checkIntervalMs)
  exact opened.drive performer settings (settings.budgetMs + 1)

/-- The moment before a script begins. -/
def Moment.start (page : Page) : Moment σ := ⟨.fresh, Scene.start page, []⟩

theorem steps_opening (performer : Performer σ) (page : Page) (interval : Span) :
    ∃ left, Steps performer interval (.start page) (openingTranscript performer page interval)
        ((opening performer page interval).moment left) ∧
      ((opening performer page interval).failure = none → left = []) := by
  let ended := Scene.converse interval performer.start (Scene.start page)
  let spoken : Progress σ := ⟨ended.1.1, ended.1.2, ended.2, []⟩
  have speaks : Steps performer interval ⟨.speaking performer.start, Scene.start page, []⟩
      ((Scene.start page).converseTranscript interval performer.start) (spoken.moment []) :=
    steps_converse performer.start (Scene.start page) []
  obtain ⟨left, calls, empty⟩ : ∃ left, Steps performer interval (spoken.moment [])
      (spoken.readyTranscript performer interval)
      ((spoken.callReady performer interval).moment left) ∧ _ := steps_callReady performer spoken
  exact ⟨left, .head (.begin (Scene.start page)) (speaks.trans calls), empty⟩

/-- A performance takes such steps from before the script begins up to its end, and its
transcript is what they add. -/
theorem steps_perform (performer : Performer σ) (page : Page) (settings : Settings) :
    ∃ left, Steps performer (Span.ofMs settings.checkIntervalMs) (.start page)
        (transcript performer page settings)
        ((perform performer page settings).moment left) ∧
      ((perform performer page settings).failure = none → left = []) := by
  have whole := Span.whole_ofMs settings.checkIntervalMs
  obtain ⟨left, opens, empty⟩ :=
    steps_opening performer page (Span.ofMs settings.checkIntervalMs)
  obtain ⟨last, drives, emptyLast⟩ := (atRest_opening performer page whole).steps_drive
    performer settings (settings.budgetMs + 1) empty
  exact ⟨last, opens.trans drives, emptyLast⟩

end Performs

/-! ## What every step keeps -/

section Steps

variable {performer : Performer σ} {interval : Span} {first second : Moment σ}
  {entry : Option (Instant × Event)}

theorem Step.tidy (step : Step performer interval first entry second) (whole : interval.Whole)
    (tidy : Tidy first.scene.timers) : Tidy second.scene.timers := by
  cases step with
  | answer request => exact tidy.answer whole request
  | begin | finish | call | take => exact tidy
  | tick script scene due next alone => exact tidy.beat next
  | arrive script scene target rung there early alone => exact (tidy.arrive there rung).toTidy

/-- The lines that are printed in the course of a transcript. -/
def Transcript.lines (transcript : Transcript) : List String :=
  transcript.filterMap fun entry =>
    match entry.2 with
    | .asked request _ => line? request
    | _ => none

theorem Step.printed_eq (step : Step performer interval first entry second)
    (whole : interval.Whole) (tidy : Tidy first.scene.timers) :
    second.scene.state.printed.reverse =
      first.scene.state.printed.reverse ++ Transcript.lines entry.toList := by
  cases step with
  | answer request next scene calling =>
      rw [(effect_answer whole request scene).printed_eq]
      cases line : line? request <;> simp [Transcript.lines, line]
  | begin | finish | call | take | arrive => exact (List.append_nil _).symm
  | tick script scene due next alone =>
      obtain ⟨timer, takes⟩ := Clock.takes_of_nextDue? tidy.orderly next
      rw [(effect_beat takes tidy.whole).2.1]
      exact (List.append_nil _).symm

end Steps

/-- The lines that a script has printed are those in the transcript. -/
theorem lines_transcript (performer : Performer σ) (page : Page) (settings : Settings) :
    (perform performer page settings).scene.state.printed.reverse =
      (transcript performer page settings).lines := by
  obtain ⟨left, steps, -⟩ := steps_perform performer page settings
  have whole := Span.whole_ofMs settings.checkIntervalMs
  have start : Tidy (Scene.start page).timers ∧
      (Scene.start page).state.printed.reverse = Transcript.lines [] :=
    ⟨resting_start.toTidy, rfl⟩
  refine (steps.keeps (fun past moment => Tidy moment.scene.timers ∧
    moment.scene.state.printed.reverse = Transcript.lines past) ?_ start).2
  intro past first entry second ⟨tidy, same⟩ step
  refine ⟨step.tidy whole tidy, ?_⟩
  rw [step.printed_eq whole tidy, same]
  exact List.filterMap_append.symm

end PageWatch.Performance
