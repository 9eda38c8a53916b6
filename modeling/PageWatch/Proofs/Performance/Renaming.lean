import PageWatch.Performance.Run
import PageWatch.Proofs.Clock.Retasking
import PageWatch.Proofs.Wait.Chain

/-!
# Callbacks by other names

A host keeps the callbacks of a script and hands them back, but never looks at them.  So if
all callbacks are renamed, everything happens as before, with the new names in the places of
the old ones.
-/

namespace PageWatch

open Script

variable {τ κ χ σ α β : Type}

/-! ## Renamed things -/

def Sequel.rename (name : κ → κ) : Sequel χ κ → Sequel χ κ
  | .callback value => .callback (name value)
  | .wait condition interval sequel => .wait condition interval (sequel.rename name)

theorem Sequel.rename_row (name : κ → κ) (interval : Span) (last : Sequel χ κ)
    (conditions : List χ) :
    (row interval last conditions).rename name = row interval (last.rename name) conditions := by
  induction conditions with
  | nil => rfl
  | cons condition conditions ih => exact congrArg (Sequel.wait condition interval) ih

def Wait.Progress.rename (name : κ → κ) : Progress κ → Progress κ
  | .met callback => .met (name callback)
  | .waiting => .waiting
  | .dropped => .dropped

namespace Performance

variable (name : ObjectId → ObjectId)

def Task.rename : Task → Task
  | .wait polled => .wait { polled with callback := polled.callback.map (Sequel.rename name) }
  | .timeout slot callback => .timeout slot (callback.map name)

def State.rename (state : State) : State := { state with ready := state.ready.map name }

def Scene.rename (scene : Scene) : Scene :=
  ⟨scene.timers.retask (Task.rename name), scene.state.rename name⟩

/-! ## Work that only passes callbacks on -/

/-- In a scene with renamed callbacks, work does what other work does in the scene itself. -/
def Follows (result : α → β) (work : Work α) (renamed : Work β) : Prop :=
  ∀ scene : Scene, (scene.rename name).act renamed =
    (result (scene.act work).1, (scene.act work).2.rename name)

variable {name}

namespace Follows

theorem done (result : α → β) (value : α) :
    Follows name result (.done value) (.done (result value)) :=
  fun _ => rfl

theorem bind {γ δ : Type} {result : α → β} {next : γ → δ} {work : Work α} {renamed : Work β}
    {rest : α → Work γ} {renamedRest : β → Work δ} (first : Follows name result work renamed)
    (second : ∀ value, Follows name next (rest value) (renamedRest (result value))) :
    Follows name next (work.bind rest) (renamed.bind renamedRest) := by
  intro scene
  rw [Scene.act, Scene.act, World.act_bind, World.act_bind]
  have one := first scene
  rw [Scene.act, Scene.act] at one
  rw [one]
  exact second _ _

theorem modify {change renamed : Instant → State → State}
    (same : ∀ now state, renamed now (state.rename name) = (change now state).rename name) :
    Follows name id (Routine.modify change) (Routine.modify renamed) := by
  intro scene
  exact congrArg (fun state => ((), (⟨_, state⟩ : Scene))) (same scene.timers.now scene.state)

theorem update {change : State → α × State} {renamed : State → β × State} {result : α → β}
    (same : ∀ state, renamed (state.rename name) =
      (result (change state).1, (change state).2.rename name)) :
    Follows name result (Routine.update change) (Routine.update renamed) := by
  intro scene
  exact congrArg (fun changed => (changed.1, (⟨_, changed.2⟩ : Scene))) (same scene.state)

theorem cancelSlot (slot : Option Handle) :
    Follows name id (Routine.cancelSlot slot) (Routine.cancelSlot slot) := by
  cases slot with
  | none => exact fun _ => rfl
  | some handle =>
      intro scene
      exact congrArg (fun clock => ((), (⟨clock, _⟩ : Scene)))
        (Clock.cancel_retask (Task.rename name) handle scene.timers)

theorem schedule (interval : Span) {task renamed : Handle → Task}
    (same : ∀ handle, renamed handle = (task handle).rename name) (result : α → β) (value : α) :
    Follows name result (.schedule interval task fun _ => .done value)
      (.schedule interval renamed fun _ => .done (result value)) := by
  intro scene
  exact congrArg (fun clock => (result value, (⟨clock, _⟩ : Scene)))
    (Clock.schedule_retask (Task.rename name) interval same scene.timers)

end Follows

/-! ## The work of a host -/

theorem follows_query (selector : String) :
    Follows name id (Work.query selector) (Work.query selector) :=
  .update fun _ => rfl

theorem follows_report (notice : Notice) :
    Follows name id (Work.report notice) (Work.report notice) :=
  .modify fun _ _ => rfl

theorem follows_check (condition : PageCondition) :
    Follows name id (Work.host.check condition) (Work.host.check condition) :=
  (follows_query condition.selector).bind fun _ => .done id _

/-- Starting a wait, if what follows it is renamed. -/
theorem follows_start (interval : Span) (sequel : Sequel PageCondition ObjectId)
    {fire renamed : Work (Wait.Progress ObjectId)}
    (fires : Follows name (Wait.Progress.rename name) fire renamed) (condition : PageCondition) :
    Follows name (Wait.Progress.rename name)
      (Wait.start Work.host interval sequel fire condition)
      (Wait.start Work.host interval (sequel.rename name) renamed condition) := by
  refine (follows_check condition).bind fun checked => ?_
  obtain ⟨answer, condition⟩ := checked
  rcases answer with error | _ | _
  · exact (follows_report _).bind fun _ => .done _ Wait.Progress.dropped
  · exact (follows_report _).bind fun _ => .schedule interval (fun _ => rfl) _ Wait.Progress.waiting
  · exact fires

theorem follows_run (sequel : Sequel PageCondition ObjectId) :
    Follows name (Wait.Progress.rename name) (sequel.run Work.host)
      ((sequel.rename name).run Work.host) := by
  induction sequel with
  | callback value => exact .done _ (Wait.Progress.met value)
  | wait condition interval sequel ih => exact follows_start interval sequel ih condition

theorem follows_enqueue (callback : ObjectId) :
    Follows name id (Work.enqueue callback) (Work.enqueue (name callback)) :=
  .modify fun _ _ => by simp [State.rename]

/-- What a poll makes of a wait, and what the wait comes to. -/
def renamedPoll (name : ObjectId → ObjectId) :
    Wait PageCondition (Sequel PageCondition ObjectId) × Wait.Progress ObjectId →
      Wait PageCondition (Sequel PageCondition ObjectId) × Wait.Progress ObjectId
  | (polled, progress) =>
    ({ polled with callback := polled.callback.map (Sequel.rename name) }, progress.rename name)

theorem follows_poll (polled : Wait PageCondition (Sequel PageCondition ObjectId)) :
    Follows name (renamedPoll name) (polled.tick Work.host (Sequel.run Work.host))
      (Wait.tick Work.host (Sequel.run Work.host)
        { polled with callback := polled.callback.map (Sequel.rename name) }) := by
  obtain ⟨condition, callback, slot⟩ := polled
  cases callback with
  | none => exact fun _ => rfl
  | some sequel =>
      refine (follows_check condition).bind fun checked => ?_
      obtain ⟨answer, condition⟩ := checked
      rcases answer with error | _ | _
      · exact (Follows.cancelSlot slot).bind fun _ => (follows_report _).bind fun _ => fun _ => rfl
      · exact fun _ => rfl
      · exact (Follows.cancelSlot slot).bind fun _ => (follows_report _).bind fun _ =>
          (follows_run sequel).bind fun _ => fun _ => rfl

theorem follows_tick (handle : Handle) (task : Task) :
    Follows name (Task.rename name) (Work.tick handle task)
      (Work.tick handle (task.rename name)) := by
  cases task with
  | wait polled =>
      refine (follows_poll polled).bind fun ticked => ?_
      obtain ⟨polled, progress⟩ := ticked
      cases progress with
      | met callback => exact (follows_enqueue callback).bind fun _ => fun _ => rfl
      | waiting | dropped => exact fun _ => rfl
  | timeout slot callback =>
      refine (Follows.cancelSlot slot).bind fun _ => ?_
      cases callback with
      | none => exact fun _ => rfl
      | some callback => exact (follows_enqueue callback).bind fun _ => fun _ => rfl

/-- A request with its callback renamed. -/
def renamedRequest (name : ObjectId → ObjectId) : Request → Request
  | .wait conditions callback => .wait conditions (name callback)
  | .timeout delayMs callback => .timeout delayMs (name callback)
  | other => other

theorem follows_print (line : String) : Follows name id (Work.print line) (Work.print line) :=
  (follows_report _).bind fun _ => .modify fun _ _ => rfl

theorem follows_load (source : String) :
    Follows name id (Work.load source) (Work.load source) := by
  refine .modify fun _ state => ?_
  obtain ⟨page, ready, printed, notices⟩ := state
  cases page <;> rfl

/-- What setting a value makes of the state. -/
def setting (selector text : String) (state : State) : Except QueryError Nat × State :=
  match state.page with
  | .scripted _ => (.ok 0, state)
  | .snapshot document =>
    match document.setValue selector text with
    | .error error => (.error error, state)
    | .ok (controls, document) => (.ok controls, { state with page := .snapshot document })

theorem setValue_eq (selector text : String) :
    Work.setValue selector text =
      (Routine.update (setting selector text)).bind fun answer =>
        match answer with
        | .ok controls =>
          (Work.report (.valueSet controls selector)).bind fun _ => .done (.counted controls)
        | .error error => .done (.refused error.message) := rfl

theorem follows_setValue (selector text : String) :
    Follows name id (Work.setValue selector text) (Work.setValue selector text) := by
  have updated : Follows name id
      (Routine.update (setting selector text)) (Routine.update (setting selector text)) := by
    refine .update fun state => ?_
    obtain ⟨page, ready, printed, notices⟩ := state
    cases page with
    | scripted source => rfl
    | snapshot document =>
        simp only [setting, State.rename]
        cases document.setValue selector text <;> rfl
  rw [setValue_eq]
  refine updated.bind fun answer => ?_
  cases answer with
  | ok controls => exact (follows_report _).bind fun _ => .done id _
  | error error => exact .done id _

/-- A host answers the same, whatever callbacks are called. -/
theorem follows_answer (interval : Span) (request : Request) :
    Follows name id (Work.answer interval request)
      (Work.answer interval (renamedRequest name request)) := by
  cases request with
  | wait conditions callback =>
      simp only [Work.answer, renamedRequest, Waiter.awaitAll_eq]
      have row : Follows name (Wait.Progress.rename name)
          ((Sequel.row interval (.callback callback) conditions).run Work.host) _ :=
        follows_run _
      rw [Sequel.rename_row] at row
      refine row.bind fun progress => ?_
      cases progress with
      | met callback => exact .done id Reply.due
      | waiting | dropped => exact .done id Reply.done
  | timeout delayMs callback => exact .schedule _ (fun _ => rfl) id Reply.done
  | print line => exact (follows_print line).bind fun _ => .done id Reply.done
  | load source => exact (follows_load source).bind fun _ => .done id Reply.done
  | setValue selector text => exact follows_setValue selector text

/-! ## Moves of the clock -/

theorem still_host : Work.host.Still where
  check _ := fun _ _ => trivial
  report _ := fun _ _ => trivial

theorem still_tick (handle : Handle) (task : Task) : (Work.tick handle task).Still := by
  cases task with
  | wait polled =>
      refine (Wait.still_tick still_host (Sequel.still_run still_host) polled).bind fun ticked => ?_
      obtain ⟨polled, progress⟩ := ticked
      cases progress with
      | met callback => exact fun _ _ => trivial
      | waiting | dropped => trivial
  | timeout slot callback =>
      have cancels : (Routine.cancelSlot slot : Work Unit).Still := by
        cases slot <;> trivial
      refine cancels.bind fun _ => ?_
      cases callback with
      | none => trivial
      | some callback => exact fun _ _ => trivial

/-- A tick in a scene with renamed callbacks. -/
theorem beat_rename (due : Clock.Due Task) (scene : Scene) :
    (scene.rename name).beat Work.tick (due.retask (Task.rename name)) =
      Scene.rename name (scene.beat Work.tick due) := by
  have taken : (scene.rename name).timers.taking (due.retask (Task.rename name)) =
      (scene.timers.taking due).retask (Task.rename name) :=
    Clock.taking_retask _ due scene.timers
  have ticked : World.act Clock.service
      (Work.tick (due.retask (Task.rename name)).handle (due.retask (Task.rename name)).task)
      ⟨(scene.timers.taking due).retask (Task.rename name), scene.state.rename name⟩ = _ :=
    follows_tick due.handle due.task { scene with timers := scene.timers.taking due }
  rw [World.beat, taken]
  simp only [Scene.rename] at ticked ⊢
  rw [ticked]
  exact congrArg (fun clock => (⟨clock, _⟩ : Scene)) (Clock.putBack_retask _ _ _ _)

theorem drain_rename (ticks : Nat) (target : Instant) (scene : Scene) :
    World.drain Clock.service Work.tick ticks target (scene.rename name) =
      (World.drain Clock.service Work.tick ticks target scene).map (Scene.rename name) := by
  induction ticks generalizing scene with
  | zero => rfl
  | succ ticks ih =>
      have next : (scene.rename name).timers.nextDue? target = _ :=
        Clock.nextDue?_retask (Task.rename name) target scene.timers
      rw [World.drain_succ still_tick, World.drain_succ still_tick, next]
      cases scene.timers.nextDue? target with
      | none => rfl
      | some due =>
          simp only [Option.map_some]
          rw [beat_rename, ih]

end Performance

end PageWatch
