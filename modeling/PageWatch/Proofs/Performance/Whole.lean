import PageWatch.Proofs.Performance.Renaming

/-!
# Whole milliseconds

Everything that a script waits for is counted in milliseconds, and polls are as many
milliseconds apart as the settings say.  So all deadlines are whole milliseconds, and two that
differ are at least a millisecond apart.

On the way this finds out what else ticks and answers do.  A tick prints nothing and makes at
most one callback ready; an answer makes none ready and prints what it was asked to print.
-/

namespace PageWatch

open Script

variable {χ κ α β : Type}

namespace Span

/-- A length of time in whole milliseconds. -/
def Whole (span : Span) : Prop := ofMs 1 ∣ span

theorem whole_ofMs (ms : Nat) : (ofMs ms).Whole := ⟨ms, by simp [ofMs, Nat.mul_comm]⟩

theorem Whole.add {first second : Span} (whole : first.Whole) (other : second.Whole) :
    Whole (first + second) :=
  Nat.dvd_add whole other

theorem Whole.clamp {span : Span} (whole : span.Whole) : span.clamp.Whole := by
  rw [Span.clamp]
  rcases Nat.le_total span (ofMs 1) with short | long
  · rw [Nat.max_eq_right short]
    exact whole_ofMs 1
  · rw [Nat.max_eq_left long]
    exact whole

/-- A later time is at least a millisecond later. -/
theorem Whole.add_le {first second : Span} (whole : first.Whole) (other : second.Whole)
    (less : first < second) : first + ofMs 1 ≤ second := by
  obtain ⟨earlier, rfl⟩ := whole
  obtain ⟨later, rfl⟩ := other
  rw [← Nat.mul_succ]
  exact Nat.mul_le_mul_left _ (Nat.lt_of_mul_lt_mul_left less)

end Span

/-- Every wait of a row polls at a whole interval. -/
def Sequel.Whole : Sequel χ κ → Prop
  | .callback _ => True
  | .wait _ interval sequel => interval.Whole ∧ sequel.Whole

theorem Sequel.whole_callback (value : κ) : (callback value : Sequel χ κ).Whole := trivial

theorem Sequel.whole_row {interval : Span} (whole : interval.Whole) {last : Sequel χ κ}
    (lastWhole : last.Whole) (conditions : List χ) : (row interval last conditions).Whole := by
  induction conditions with
  | nil => exact lastWhole
  | cons condition conditions ih => exact ⟨whole, ih⟩

namespace Performance

/-- Whatever a task waits for next, it waits for at whole intervals. -/
def Task.Whole : Task → Prop
  | .wait polled => ∀ sequel, polled.callback = some sequel → sequel.Whole
  | .timeout _ _ => True

theorem Task.whole_wait {polled : Wait PageCondition (Sequel PageCondition ObjectId)}
    (whole : ∀ sequel, polled.callback = some sequel → sequel.Whole) : (wait polled).Whole :=
  whole

theorem Task.whole_timeout (slot : Option Handle) (callback : Option ObjectId) :
    (timeout slot callback).Whole := trivial

/-- The times of a timer and of its task are whole. -/
structure WholeTimer (timer : Timer Task) : Prop where
  interval : timer.interval.Whole
  due : Span.Whole timer.due
  task : ∀ task, timer.task = some task → task.Whole

/-- All times of a clock are whole. -/
structure WholeClock (clock : Clock Task) : Prop where
  now : Span.Whole clock.now
  timers : ∀ entry ∈ clock.timers, WholeTimer entry.2

namespace WholeClock

variable {clock : Clock Task}

theorem schedule (whole : WholeClock clock) {interval : Span} (wholeInterval : interval.Whole)
    {task : Handle → Task} (wholeTask : ∀ handle, (task handle).Whole) :
    WholeClock (clock.schedule interval task).2 where
  now := whole.now
  timers entry member := by
    rcases List.mem_append.mp member with member | member
    · exact whole.timers entry member
    · rw [List.mem_singleton.mp member]
      exact ⟨wholeInterval.clamp, whole.now.add wholeInterval.clamp,
        fun task eq => Option.some.inj eq ▸ wholeTask _⟩

theorem cancel (whole : WholeClock clock) (handle : Handle) :
    WholeClock (clock.cancel handle) where
  now := whole.now
  timers entry member := whole.timers entry (Clock.mem_timers_cancel.mp member).1

theorem arrive (whole : WholeClock clock) {instant : Instant} (there : Span.Whole instant) :
    WholeClock { clock with now := instant } :=
  ⟨there, whole.timers⟩

/-- What is true of a timer before a change and of the changed timer is true of all timers. -/
theorem update (whole : WholeClock clock) (handle : Handle) {change : Timer Task → Timer Task}
    (changed : ∀ timer, WholeTimer timer → WholeTimer (change timer)) :
    WholeClock (clock.update handle change) where
  now := whole.now
  timers entry member := by
    obtain ⟨former, formerMem, rfl⟩ := Clock.mem_timers_update.mp member
    split
    · exact changed _ (whole.timers former formerMem)
    · exact whole.timers former formerMem

theorem taking (whole : WholeClock clock) {target : Instant} {due : Clock.Due Task}
    {timer : Timer Task} (takes : clock.Takes target due timer) :
    WholeClock (clock.taking due) ∧ due.task.Whole := by
  have own := whole.timers _ takes.member
  have there : Span.Whole due.deadline := takes.due_eq ▸ own.due
  refine ⟨(whole.arrive there).update due.handle fun timer wholeTimer => ?_,
    own.task _ takes.task_eq⟩
  exact ⟨wholeTimer.interval, there.add wholeTimer.interval,
    fun task eq => absurd eq.symm (Option.some_ne_none task)⟩

theorem putBack (whole : WholeClock clock) (handle : Handle) {task : Task}
    (wholeTask : task.Whole) : WholeClock (clock.putBack handle task) :=
  whole.update handle fun _ wholeTimer =>
    ⟨wholeTimer.interval, wholeTimer.due, fun _ eq => Option.some.inj eq ▸ wholeTask⟩

end WholeClock

/-! ## What waits do on the side -/

/-- Times stay whole, no callback becomes ready and no line is printed.  What was reported stays
reported. -/
structure Quiet (before after : Scene) : Prop where
  whole : WholeClock before.timers → WholeClock after.timers
  ready_eq : after.state.ready = before.state.ready
  printed_eq : after.state.printed = before.state.printed
  reported : before.state.notices <:+ after.state.notices

/-- In any scene, some work is quiet and ends with a result of some kind. -/
def Quietly (kind : α → Prop) (work : Work α) : Prop :=
  ∀ scene : Scene, kind (scene.act work).1 ∧ Quiet scene (scene.act work).2

namespace Quietly

variable {kind : α → Prop} {work : Work α}

theorem done {value : α} (holds : kind value) : Quietly kind (.done value) :=
  fun _ => ⟨holds, id, rfl, rfl, List.suffix_rfl⟩

theorem bind {next : β → Prop} {rest : α → Work β} (first : Quietly kind work)
    (second : ∀ value, kind value → Quietly next (rest value)) :
    Quietly next (work.bind rest) := by
  intro scene
  obtain ⟨holds, whole, ready_eq, printed_eq, reported⟩ := first scene
  obtain ⟨nextHolds, nextWhole, nextReady, nextPrinted, nextReported⟩ :=
    second _ holds (scene.act work).2
  rw [Scene.act, World.act_bind]
  exact ⟨nextHolds, fun start => nextWhole (whole start), nextReady.trans ready_eq,
    nextPrinted.trans printed_eq, reported.trans nextReported⟩

theorem cancelSlot (slot : Option Handle) :
    Quietly (fun _ => True) (Routine.cancelSlot slot : Work Unit) := by
  cases slot with
  | none => exact done trivial
  | some handle =>
      exact fun _ => ⟨trivial, fun whole => whole.cancel handle, rfl, rfl, List.suffix_rfl⟩

theorem schedule {interval : Span} (whole : interval.Whole) {task : Handle → Task}
    (wholeTask : ∀ handle, (task handle).Whole) {value : α} (holds : kind value) :
    Quietly kind (.schedule interval task fun _ => .done value) :=
  fun _ => ⟨holds, fun start => start.schedule whole wholeTask, rfl, rfl, List.suffix_rfl⟩

end Quietly

theorem quiet_check (condition : PageCondition) :
    Quietly (fun _ => True) (Work.host.check condition) :=
  fun _ => ⟨trivial, id, rfl, rfl, List.suffix_rfl⟩

theorem quiet_report (notice : Notice) : Quietly (fun _ => True) (Work.report notice) :=
  fun _ => ⟨trivial, id, rfl, rfl, List.suffix_cons _ _⟩

theorem quiet_start {interval : Span} (whole : interval.Whole)
    {sequel : Sequel PageCondition ObjectId} (sequelWhole : sequel.Whole)
    {fire : Work (Wait.Progress ObjectId)} (fires : Quietly (fun _ => True) fire)
    (condition : PageCondition) :
    Quietly (fun _ => True) (Wait.start Work.host interval sequel fire condition) := by
  refine (quiet_check condition).bind fun checked _ => ?_
  obtain ⟨answer, condition⟩ := checked
  rcases answer with error | _ | _
  · exact (quiet_report _).bind fun _ _ => .done trivial
  · have follower : ∀ next, some sequel = some next → next.Whole :=
      fun _ eq => Option.some.inj eq ▸ sequelWhole
    exact (quiet_report _).bind fun _ _ =>
      .schedule whole (fun _ => Task.whole_wait follower) trivial
  · exact fires

theorem quiet_run {sequel : Sequel PageCondition ObjectId} (whole : sequel.Whole) :
    Quietly (fun _ => True) (sequel.run Work.host) := by
  induction sequel with
  | callback value => exact .done trivial
  | wait condition interval sequel ih => exact quiet_start whole.1 whole.2 (ih whole.2) condition

theorem quiet_poll {polled : Wait PageCondition (Sequel PageCondition ObjectId)}
    (whole : ∀ sequel, polled.callback = some sequel → sequel.Whole) :
    Quietly (fun ended => ∀ sequel, ended.1.callback = some sequel → sequel.Whole)
      (polled.tick Work.host (Sequel.run Work.host)) := by
  obtain ⟨condition, callback, slot⟩ := polled
  have gone : ∀ sequel : Sequel PageCondition ObjectId, none = some sequel → sequel.Whole :=
    fun _ eq => by simp at eq
  cases callback with
  | none => exact .done whole
  | some callback =>
      refine (quiet_check condition).bind fun checked _ => ?_
      obtain ⟨answer, condition⟩ := checked
      rcases answer with error | _ | _
      · exact (Quietly.cancelSlot slot).bind fun _ _ => (quiet_report _).bind fun _ _ => .done gone
      · exact .done whole
      · exact (Quietly.cancelSlot slot).bind fun _ _ => (quiet_report _).bind fun _ _ =>
          (quiet_run (whole callback rfl)).bind fun _ _ => .done gone

/-! ## Ticks -/

/-- What a tick does: times stay whole, nothing is printed, and a callback may become ready. -/
structure TickEffect (before : Scene) (left : Task) (after : Scene) : Prop where
  left_whole : left.Whole
  whole : WholeClock before.timers → WholeClock after.timers
  printed_eq : after.state.printed = before.state.printed
  ready_eq : ∃ readied : Option ObjectId, after.state.ready = before.state.ready ++ readied.toList
  reported : before.state.notices <:+ after.state.notices

theorem TickEffect.of_quiet {before after : Scene} {left : Task} (whole : left.Whole)
    (quiet : Quiet before after) : TickEffect before left after :=
  ⟨whole, quiet.whole, quiet.printed_eq, ⟨none, by simp [quiet.ready_eq]⟩, quiet.reported⟩

/-- Making a callback ready ends a tick. -/
theorem TickEffect.enqueue {before middle : Scene} {left : Task} (whole : left.Whole)
    (quiet : Quiet before middle) (callback : ObjectId) :
    TickEffect before left (middle.act (Work.enqueue callback)).2 :=
  ⟨whole, quiet.whole, quiet.printed_eq,
    ⟨some callback, congrArg (· ++ [callback]) quiet.ready_eq⟩, quiet.reported⟩

theorem effect_tick (handle : Handle) {task : Task} (whole : task.Whole) (scene : Scene) :
    TickEffect scene (scene.act (Work.tick handle task)).1
      (scene.act (Work.tick handle task)).2 := by
  cases task with
  | wait polled =>
      obtain ⟨ended, quiet⟩ := quiet_poll whole scene
      simp only [Work.tick, Routine.bind_eq, Scene.act, World.act_bind]
      simp only [Scene.act] at ended quiet
      generalize World.act Clock.service (polled.tick Work.host (Sequel.run Work.host)) scene =
        polling at ended quiet
      obtain ⟨⟨next, progress⟩, after⟩ := polling
      cases progress with
      | met callback => exact .enqueue (Task.whole_wait ended) quiet callback
      | waiting | dropped => exact .of_quiet (Task.whole_wait ended) quiet
  | timeout slot callback =>
      have quiet := (Quietly.cancelSlot slot scene).2
      simp only [Work.tick, Routine.bind_eq, Scene.act, World.act_bind]
      cases callback with
      | some callback => exact .enqueue (Task.whole_timeout _ _) quiet callback
      | none => exact .of_quiet (Task.whole_timeout _ _) quiet

/-- What a due timer's tick does. -/
theorem effect_beat {scene : Scene} {target : Instant} {due : Clock.Due Task}
    {timer : Timer Task} (takes : scene.timers.Takes target due timer)
    (whole : WholeClock scene.timers) :
    WholeClock (scene.beat Work.tick due).timers ∧
      (scene.beat Work.tick due).state.printed = scene.state.printed ∧
      scene.state.notices <:+ (scene.beat Work.tick due).state.notices ∧
      ∃ readied : Option ObjectId,
        (scene.beat Work.tick due).state.ready = scene.state.ready ++ readied.toList := by
  obtain ⟨takenWhole, taskWhole⟩ := whole.taking takes
  have effect := effect_tick due.handle taskWhole { scene with timers := scene.timers.taking due }
  exact ⟨(effect.whole takenWhole).putBack due.handle effect.left_whole, effect.printed_eq,
    effect.reported, effect.ready_eq⟩

/-! ## Answers -/

/-- The line that a request asks to be printed. -/
def line? : Request → Option String
  | .print line => some line
  | _ => none

/-- What an answer does: times stay whole, nothing becomes ready, and a line is printed if that
is what was asked for. -/
structure AnswerEffect (request : Request) (before after : Scene) : Prop where
  whole : WholeClock before.timers → WholeClock after.timers
  ready_eq : after.state.ready = before.state.ready
  printed_eq : after.state.printed = (line? request).toList ++ before.state.printed
  reported : before.state.notices <:+ after.state.notices

theorem AnswerEffect.of_quiet {request : Request} (silent : line? request = none)
    {before after : Scene} (quiet : Quiet before after) :
    AnswerEffect request before after :=
  ⟨quiet.whole, quiet.ready_eq, by simp [silent, quiet.printed_eq], quiet.reported⟩

theorem quiet_setValue (selector text : String) :
    Quietly (fun _ => True) (Work.setValue selector text) := by
  have first : Quietly (fun _ => True) (Routine.update (setting selector text) : Work _) := by
    intro scene
    obtain ⟨clock, page, ready, printed, notices⟩ := scene
    cases page with
    | scripted source => exact ⟨trivial, id, rfl, rfl, List.suffix_rfl⟩
    | snapshot document =>
        simp only [Scene.act, Routine.update, World.act_look, World.act_put, setting]
        cases document.setValue selector text <;>
          exact ⟨trivial, id, rfl, rfl, List.suffix_rfl⟩
  rw [setValue_eq]
  refine first.bind fun answer _ => ?_
  cases answer with
  | ok controls => exact (quiet_report _).bind fun _ _ => .done trivial
  | error error => exact .done trivial

theorem effect_answer {interval : Span} (whole : interval.Whole) (request : Request)
    (scene : Scene) : AnswerEffect request scene (scene.act (Work.answer interval request)).2 := by
  cases request with
  | wait conditions callback =>
      have quiet : Quietly (fun _ => True) (Work.answer interval (.wait conditions callback)) := by
        simp only [Work.answer, Waiter.awaitAll_eq]
        have row := Sequel.whole_row whole (Sequel.whole_callback callback) conditions
        refine (quiet_run row).bind fun progress _ => ?_
        cases progress <;> exact .done trivial
      exact .of_quiet rfl (quiet scene).2
  | timeout delayMs callback =>
      have quiet : Quietly (fun _ => True) (Work.answer interval (.timeout delayMs callback)) :=
        .schedule (Span.whole_ofMs delayMs) (fun _ => Task.whole_timeout _ _) trivial
      exact .of_quiet rfl (quiet scene).2
  | print line => exact ⟨id, rfl, rfl, List.suffix_cons _ _⟩
  | load source =>
      obtain ⟨clock, page, ready, printed, notices⟩ := scene
      cases page <;> exact ⟨id, rfl, rfl, List.suffix_rfl⟩
  | setValue selector text => exact .of_quiet rfl (quiet_setValue selector text scene).2

end Performance

end PageWatch
