import PageWatch.Proofs.Performance.Renaming

/-!
# Where callbacks are carried

A callback that is registered goes along a row of waits.  It gets to the end of the row, or a
timer holds it on the way, or its wait is dropped.  A tick of the timer that holds it carries
it on from there; a timer that lets go of its callback is cancelled in the same tick.
-/

namespace PageWatch

open Script

/-- Whether a notice says that a wait was dropped. -/
def Notice.isDrop : Notice → Bool
  | .waitDropped _ => true
  | _ => false

namespace Performance

/-- How many waits were dropped. -/
def drops (scene : Scene) : Nat := scene.state.notices.countP Notice.isDrop

/-- The callback that a task holds between two ticks of its timer. -/
def Task.held? (handle : Handle) : Task → Option ObjectId
  | .wait ⟨_, some sequel, some owner⟩ => if owner = handle then some sequel.final else none
  | .timeout (some owner) (some callback) => if owner = handle then some callback else none
  | _ => none

theorem Task.held?_wait (handle : Handle) (condition : PageCondition)
    (sequel : Sequel PageCondition ObjectId) :
    (Task.wait ⟨condition, some sequel, some handle⟩).held? handle = some sequel.final :=
  if_pos rfl

/-- A task that holds a callback polls a wait that ends with it, or lets some time pass. -/
theorem Task.held?_eq_some {handle : Handle} {task : Task} {callback : ObjectId}
    (holds : task.held? handle = some callback) :
    (∃ condition sequel, task = .wait ⟨condition, some sequel, some handle⟩ ∧
        sequel.final = callback) ∨
      task = .timeout (some handle) (some callback) := by
  unfold held? at holds
  split at holds
  next condition sequel owner =>
      split at holds
      next own => exact .inl ⟨condition, sequel, by rw [own], Option.some.inj holds⟩
      next => simp at holds
  next owner callback =>
      split at holds
      next own => exact .inr (by rw [own, Option.some.inj holds])
      next => simp at holds
  next => simp at holds

/-! ## What routines of the host do with callbacks -/

theorem act_bind {α β : Type} (work : Work α) (rest : α → Work β) (scene : Scene) :
    scene.act (work.bind rest) = (scene.act work).2.act (rest (scene.act work).1) :=
  World.act_bind work rest scene

theorem act_done {α : Type} (value : α) (scene : Scene) :
    scene.act (.done value) = (value, scene) := rfl

theorem host_report (notice : Notice) : Work.host.report notice = Work.report notice := rfl

/-- Nothing has happened to timers and callbacks. -/
structure Kept (before after : Scene) : Prop where
  timers_eq : after.timers = before.timers
  ready_eq : after.state.ready = before.state.ready
  drops_eq : drops after = drops before

theorem Kept.refl (scene : Scene) : Kept scene scene := ⟨rfl, rfl, rfl⟩

theorem Kept.trans {first second third : Scene} (left : Kept first second)
    (right : Kept second third) : Kept first third :=
  ⟨right.timers_eq.trans left.timers_eq, right.ready_eq.trans left.ready_eq,
    right.drops_eq.trans left.drops_eq⟩

/-- What has become of a callback that was carried along a row of waits. -/
inductive Carried (before : Scene) (callback : ObjectId) :
    Wait.Progress ObjectId → Scene → Prop
  | met {after : Scene} : Kept before after → Carried before callback (.met callback) after
  /-- A new timer holds it. -/
  | waiting {after : Scene} (interval : Span) (task : Handle → Task) :
      (∀ handle, (task handle).held? handle = some callback) →
      after.timers = (before.timers.schedule interval task).2 →
      after.state.ready = before.state.ready → drops after = drops before →
      Carried before callback .waiting after
  | dropped {after : Scene} :
      after.timers = before.timers → after.state.ready = before.state.ready →
      drops after = drops before + 1 → Carried before callback .dropped after

theorem Carried.of_kept {before middle after : Scene} {callback : ObjectId}
    {progress : Wait.Progress ObjectId} (kept : Kept before middle)
    (carried : Carried middle callback progress after) :
    Carried before callback progress after := by
  cases carried with
  | met same => exact .met (kept.trans same)
  | waiting interval task holds timers_eq ready_eq drops_eq =>
      exact .waiting interval task holds (kept.timers_eq ▸ timers_eq)
        (ready_eq.trans kept.ready_eq) (drops_eq.trans kept.drops_eq)
  | dropped timers_eq ready_eq drops_eq =>
      exact .dropped (timers_eq.trans kept.timers_eq) (ready_eq.trans kept.ready_eq)
        (kept.drops_eq ▸ drops_eq)

theorem act_check (condition : PageCondition) (scene : Scene) :
    ∃ answer checked after,
      scene.act (Work.host.check condition) = ((answer, checked), after) ∧ Kept scene after :=
  ⟨_, _, _, rfl, ⟨rfl, rfl, rfl⟩⟩

theorem act_report (notice : Notice) (scene : Scene) :
    ∃ after, scene.act (Work.report notice) = ((), after) ∧ after.timers = scene.timers ∧
      after.state.ready = scene.state.ready ∧
      drops after = drops scene + if notice.isDrop then 1 else 0 :=
  ⟨_, rfl, rfl, rfl, List.countP_cons⟩

/-- Along a row of waits a callback gets to its end, stays at a timer, or is dropped. -/
theorem act_run (sequel : Sequel PageCondition ObjectId) (scene : Scene) :
    ∃ progress after, scene.act (sequel.run Work.host) = (progress, after) ∧
      Carried scene sequel.final progress after := by
  induction sequel generalizing scene with
  | callback value => exact ⟨.met value, scene, rfl, .met (.refl scene)⟩
  | wait condition interval sequel ih =>
      obtain ⟨answer, checked, after, made, kept⟩ := act_check condition scene
      simp only [Sequel.run, Wait.start, Routine.bind_eq, act_bind, made]
      rcases answer with error | _ | _
      · obtain ⟨reported, report_eq, timers_eq, ready_eq, drops_eq⟩ :=
          act_report (.waitDropped error) after
        refine ⟨.dropped, reported, ?_, .of_kept kept (.dropped timers_eq ready_eq drops_eq)⟩
        simp only [act_bind, host_report, report_eq]
        rfl
      · obtain ⟨reported, report_eq, timers_eq, ready_eq, drops_eq⟩ :=
          act_report (.polling interval.wholeMs) after
        let task (handle : Handle) : Task := .wait ⟨checked, some sequel, some handle⟩
        refine ⟨.waiting, ⟨(after.timers.schedule interval task).2, reported.state⟩, ?_,
          .of_kept kept (.waiting interval task
            (fun handle => Task.held?_wait handle checked sequel) rfl ready_eq drops_eq)⟩
        simp only [act_bind, host_report, report_eq, ← timers_eq]
        rfl
      · obtain ⟨progress, last, ran, carried⟩ := ih after
        exact ⟨progress, last, ran, .of_kept kept carried⟩

/-- The reply to a registration whose wait has come to something. -/
def replyTo : Wait.Progress ObjectId → Reply
  | .met _ => .due
  | .waiting | .dropped => .done

/-- What becomes of a registration at once.  If the wait is over, its callback is due, and
neither a timer nor the queue gets hold of it. -/
theorem answer_wait (interval : Span) (conditions : List PageCondition) (callback : ObjectId)
    (scene : Scene) :
    ∃ progress after, scene.act (Work.answer interval (.wait conditions callback)) =
        (replyTo progress, after) ∧
      Carried scene callback progress after := by
  obtain ⟨progress, after, ran, carried⟩ :=
    act_run (Sequel.row interval (.callback callback) conditions) scene
  rw [Sequel.final_row] at carried
  refine ⟨progress, after, ?_, carried⟩
  simp only [Work.answer, Waiter.awaitAll_eq, Routine.bind_eq, act_bind, ran]
  cases progress <;> rfl

/-- What has become of the callback of a timer at a tick, and of the timer's task. -/
inductive Ticked (before : Scene) (handle : Handle) (callback : ObjectId) :
    Task → Scene → Prop
  /-- The timer goes on holding it. -/
  | held {task : Task} {after : Scene} :
      task.held? handle = some callback → Kept before after →
      Ticked before handle callback task after
  | readied {task : Task} {after : Scene} :
      after.timers = before.timers.cancel handle →
      after.state.ready = before.state.ready ++ [callback] → drops after = drops before →
      Ticked before handle callback task after
  /-- Another timer holds it. -/
  | passed {task : Task} {after : Scene} (interval : Span) (next : Handle → Task) :
      (∀ handle, (next handle).held? handle = some callback) →
      after.timers = ((before.timers.cancel handle).schedule interval next).2 →
      after.state.ready = before.state.ready → drops after = drops before →
      Ticked before handle callback task after
  | dropped {task : Task} {after : Scene} :
      after.timers = before.timers.cancel handle → after.state.ready = before.state.ready →
      drops after = drops before + 1 → Ticked before handle callback task after

theorem act_cancelSlot (handle : Handle) (scene : Scene) :
    scene.act (Routine.cancelSlot (some handle)) =
      ((), { scene with timers := scene.timers.cancel handle }) := rfl

theorem act_enqueue (callback : ObjectId) (scene : Scene) :
    ∃ after, scene.act (Work.enqueue callback) = ((), after) ∧ after.timers = scene.timers ∧
      after.state.ready = scene.state.ready ++ [callback] ∧ drops after = drops scene :=
  ⟨_, rfl, rfl, rfl, rfl⟩

/-- A tick keeps the callback of its timer, or carries it on and cancels the timer. -/
theorem act_tick {handle : Handle} {task : Task} {callback : ObjectId}
    (holds : task.held? handle = some callback) (scene : Scene) :
    ∃ left after, scene.act (Work.tick handle task) = (left, after) ∧
      Ticked scene handle callback left after := by
  rcases Task.held?_eq_some holds with ⟨condition, sequel, rfl, rfl⟩ | rfl
  · obtain ⟨answer, checked, middle, made, kept⟩ := act_check condition scene
    simp only [Work.tick, Wait.tick, Routine.bind_eq, act_bind, made]
    rcases answer with error | _ | _
    · obtain ⟨after, report_eq, timers_eq, ready_eq, drops_eq⟩ := act_report
        (.waitDropped error) { middle with timers := middle.timers.cancel handle }
      refine ⟨.wait ⟨checked, none, none⟩, after, ?_, .dropped (kept.timers_eq ▸ timers_eq)
        (ready_eq.trans kept.ready_eq) (kept.drops_eq ▸ drops_eq)⟩
      simp only [act_bind, act_cancelSlot, host_report, report_eq]
      rfl
    · exact ⟨_, _, rfl, .held (Task.held?_wait handle checked sequel) kept⟩
    · obtain ⟨reported, report_eq, timers_eq, ready_eq, drops_eq⟩ := act_report
        .conditionMet { middle with timers := middle.timers.cancel handle }
      obtain ⟨progress, last, ran, carried⟩ := act_run sequel reported
      have cancelled : reported.timers = scene.timers.cancel handle :=
        timers_eq.trans (kept.timers_eq ▸ rfl)
      have readySame : reported.state.ready = scene.state.ready := ready_eq.trans kept.ready_eq
      have dropsSame : drops reported = drops scene := drops_eq.trans kept.drops_eq
      simp only [act_bind, act_cancelSlot, host_report, report_eq, ran, Routine.pure_eq, act_done]
      cases carried with
      | met rest =>
          obtain ⟨after, enqueue_eq, timers_eq, ready_eq, drops_eq⟩ :=
            act_enqueue sequel.final last
          refine ⟨.wait ⟨checked, none, none⟩, after, ?_, .readied ?_ ?_ ?_⟩
          · simp only [act_bind, enqueue_eq, act_done]
          · rw [timers_eq, rest.timers_eq, cancelled]
          · rw [ready_eq, rest.ready_eq, readySame]
          · rw [drops_eq, rest.drops_eq, dropsSame]
      | waiting interval task holds timers_eq ready_eq drops_eq =>
          exact ⟨_, last, rfl, .passed interval task holds (cancelled ▸ timers_eq)
            (ready_eq.trans readySame) (drops_eq.trans dropsSame)⟩
      | dropped timers_eq ready_eq drops_eq =>
          exact ⟨_, last, rfl, .dropped (timers_eq.trans cancelled) (ready_eq.trans readySame)
            (dropsSame ▸ drops_eq)⟩
  · obtain ⟨after, enqueue_eq, timers_eq, ready_eq, drops_eq⟩ := act_enqueue callback
      { scene with timers := scene.timers.cancel handle }
    refine ⟨.timeout none none, after, ?_, .readied timers_eq ready_eq drops_eq⟩
    simp only [Work.tick, Routine.bind_eq, act_bind, act_cancelSlot, enqueue_eq]
    rfl

/-! ## Answers without callbacks -/

theorem kept_print (line : String) (scene : Scene) :
    Kept scene (scene.act (Work.print line)).2 := ⟨rfl, rfl, rfl⟩

theorem kept_load (source : String) (scene : Scene) :
    Kept scene (scene.act (Work.load source)).2 := by
  obtain ⟨clock, page, ready, printed, notices⟩ := scene
  cases page <;> exact ⟨rfl, rfl, rfl⟩

theorem setting_eq (selector text : String) (state : State) :
    ∃ page, (setting selector text state).2 = { state with page } := by
  obtain ⟨page, ready, printed, notices⟩ := state
  cases page with
  | scripted source => exact ⟨.scripted source, rfl⟩
  | snapshot document =>
      simp only [setting]
      cases document.setValue selector text with
      | error error => exact ⟨.snapshot document, rfl⟩
      | ok changed => exact ⟨.snapshot changed.2, rfl⟩

theorem kept_setValue (selector text : String) (scene : Scene) :
    Kept scene (scene.act (Work.setValue selector text)).2 := by
  obtain ⟨page, changed⟩ := setting_eq selector text scene.state
  have first : scene.act (Routine.update (setting selector text)) =
      ((setting selector text scene.state).1, { scene with state := { scene.state with page } }) :=
    congrArg (fun state => (_, { scene with state })) changed
  rw [setValue_eq, act_bind, first]
  cases (setting selector text scene.state).1 with
  | ok controls => exact ⟨rfl, rfl, rfl⟩
  | error error => exact ⟨rfl, rfl, rfl⟩

end Performance

end PageWatch
