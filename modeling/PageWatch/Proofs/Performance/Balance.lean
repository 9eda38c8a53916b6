import PageWatch.Performance.Scripted
import PageWatch.Proofs.Performance.Carrying
import PageWatch.Proofs.Performance.Numbering
import PageWatch.Proofs.Script.Ways

/-!
# No callback is lost

At any time, every registration that was accepted is in exactly one place: its callback has
been invoked or is taken to be called next, its wait has been dropped, its callback is ready,
or a timer holds it.  Ticks, answers and calls move registrations from one place to another.
When a performance has succeeded, nothing is taken or ready any more, so the registrations are
those that were invoked, those that were dropped, and one for each timer that is left.
-/

namespace PageWatch.Performance

open Script

variable {σ : Type} {taken : List ObjectId} {ledger : Ledger} {scene after : Scene}

/-- The callback that a timer holds. -/
def holding? (entry : Handle × Timer Task) : Option ObjectId :=
  entry.2.task.bind (Task.held? entry.1)

/-- The callbacks that the timers of a clock hold. -/
def held (clock : Clock Task) : List ObjectId := clock.timers.filterMap holding?

/-- Every timer holds a callback. -/
def Holding (clock : Clock Task) : Prop := ∀ entry ∈ clock.timers, (holding? entry).isSome

/-- Every accepted registration is in exactly one place; those that are taken are called next. -/
structure Balanced (taken : List ObjectId) (ledger : Ledger) (scene : Scene) : Prop where
  orderly : scene.timers.Orderly
  holding : Holding scene.timers
  numbered : ledger.Numbered
  balance : ∃ dropped, dropped.length = drops scene ∧
    ledger.accepted.Perm
      (ledger.invoked ++ taken ++ dropped ++ scene.state.ready ++ held scene.timers)

/-! ## Clocks that hold callbacks -/

theorem Holding.settled {clock : Clock Task} (holding : Holding clock) : clock.Settled := by
  intro entry member
  obtain ⟨callback, held⟩ := Option.isSome_iff_exists.mp (holding entry member)
  obtain ⟨task, task_eq, -⟩ := Option.bind_eq_some_iff.mp held
  exact Option.isSome_iff_exists.mpr ⟨task, task_eq⟩

theorem Holding.length_held {clock : Clock Task} (holding : Holding clock) :
    (held clock).length = clock.active := by
  rw [held, List.length_filterMap_eq_countP, Clock.active, List.countP_eq_length]
  exact holding

section Schedule

variable {clock : Clock Task} {callback : ObjectId} {interval : Span} {task : Handle → Task}
  (holds : ∀ handle, (task handle).held? handle = some callback)
include holds

theorem held_schedule : held (clock.schedule interval task).2 = held clock ++ [callback] := by
  simp [held, holding?, holds]

theorem Holding.schedule (holding : Holding clock) :
    Holding (clock.schedule interval task).2 := by
  intro entry member
  rcases List.mem_append.mp member with member | member
  · exact holding entry member
  · rw [List.mem_singleton.mp member]
    exact Option.isSome_iff_exists.mpr ⟨callback, holds _⟩

end Schedule

/-! ## Ticks -/

/-- Where a callback that a timer held is after the tick of that timer.  The rest of the
callbacks are held as before. -/
inductive Landed (before : Scene) (callback : ObjectId) (rest : List ObjectId) (after : Scene) :
    Prop
  | dropped : drops after = drops before + 1 → after.state.ready = before.state.ready →
      held after.timers = rest → Landed before callback rest after
  | ready : drops after = drops before →
      after.state.ready = before.state.ready ++ [callback] → held after.timers = rest →
      Landed before callback rest after
  | held : drops after = drops before → after.state.ready = before.state.ready →
      (held after.timers).Perm (callback :: rest) → Landed before callback rest after

theorem Balanced.land (balanced : Balanced taken ledger scene)
    (orderly : after.timers.Orderly) (holding : Holding after.timers) {callback : ObjectId}
    {rest : List ObjectId} (before : (held scene.timers).Perm (callback :: rest))
    (landed : Landed scene callback rest after) : Balanced taken ledger after := by
  obtain ⟨dropped, length_eq, balance⟩ := balanced.balance
  refine ⟨orderly, holding, balanced.numbered, ?_⟩
  have counts := List.perm_iff_count.mp balance
  have countsBefore := List.perm_iff_count.mp before
  simp only [List.count_append, List.count_cons] at counts countsBefore
  cases landed with
  | dropped drops_eq ready_eq held_eq =>
      refine ⟨callback :: dropped, by rw [drops_eq, List.length_cons, length_eq], ?_⟩
      refine List.perm_iff_count.mpr fun tag => ?_
      rw [ready_eq, held_eq, counts, countsBefore]
      simp only [List.count_append, List.count_cons]
      lia
  | ready drops_eq ready_eq held_eq =>
      refine ⟨dropped, by rw [drops_eq, length_eq], List.perm_iff_count.mpr fun tag => ?_⟩
      rw [ready_eq, held_eq, counts, countsBefore]
      simp only [List.count_append, List.count_cons, List.count_nil]
      lia
  | held drops_eq ready_eq held_perm =>
      refine ⟨dropped, by rw [drops_eq, length_eq], ?_⟩
      rw [ready_eq]
      exact balance.trans ((before.trans held_perm.symm).append_left _)

/-- The callback of the timer that is taken, and all others: those are held whether this timer
is cancelled or gets a task back. -/
theorem Holding.taking {clock : Clock Task} (holding : Holding clock) (orderly : clock.Orderly)
    {due : Clock.Due Task} {target : Instant} {timer : Timer Task}
    (takes : clock.Takes target due timer) :
    ∃ callback rest, due.task.held? due.handle = some callback ∧
      (held clock).Perm (callback :: rest) ∧
      Holding ((clock.taking due).cancel due.handle) ∧
      held ((clock.taking due).cancel due.handle) = rest ∧
      (∀ entry ∈ ((clock.taking due).cancel due.handle).timers, entry.1 ≠ due.handle) ∧
      ∀ task, task.held? due.handle = some callback →
        Holding ((clock.taking due).putBack due.handle task) ∧
        held ((clock.taking due).putBack due.handle task) = held clock := by
  obtain ⟨front, back, split, others, cancelled, putBack⟩ := takes.split orderly
  rw [Holding, split, List.forall_mem_append, List.forall_mem_cons] at holding
  obtain ⟨frontHolding, own, backHolding⟩ := holding
  obtain ⟨callback, holds⟩ := Option.isSome_iff_exists.mp own
  have heldHolds : due.task.held? due.handle = some callback := by
    rw [holding?, takes.task_eq] at holds
    exact holds
  refine ⟨callback, (front ++ back).filterMap holding?, heldHolds, ?_, ?_, ?_, ?_, ?_⟩
  · rw [held, split, List.filterMap_append, List.filterMap_cons, holds, List.filterMap_append]
    exact List.perm_middle
  · rw [Holding, cancelled, List.forall_mem_append]
    exact ⟨frontHolding, backHolding⟩
  · rw [held, cancelled]
  · rw [cancelled]
    exact others
  · intro task taskHolds
    constructor
    · rw [Holding, putBack, List.forall_mem_append, List.forall_mem_cons]
      exact ⟨frontHolding, Option.isSome_iff_exists.mpr ⟨callback, taskHolds⟩, backHolding⟩
    · have again : holding? (due.handle, ⟨timer.interval, due.deadline + timer.interval,
          some task⟩) = some callback := taskHolds
      simp only [held, putBack, split, List.filterMap_append, List.filterMap_cons, holds, again]

/-- A tick moves the callback of its timer to at most one other place. -/
theorem Balanced.beat {due : Clock.Due Task} {target : Instant}
    (balanced : Balanced taken ledger scene) (next : scene.timers.nextDue? target = some due) :
    Balanced taken ledger (scene.beat Work.tick due) := by
  obtain ⟨timer, takes⟩ := Clock.takes_of_nextDue? balanced.orderly next
  have below : due.handle.number < scene.timers.next :=
    balanced.orderly.below_next _ takes.member
  obtain ⟨callback, rest, holds, before, restHolding, restHeld, gone, putBack⟩ :=
    balanced.holding.taking balanced.orderly takes
  obtain ⟨left, after, ticked_eq, ticked⟩ :=
    act_tick holds { scene with timers := scene.timers.taking due }
  have orderly : (scene.beat Work.tick due).timers.Orderly :=
    World.orderly_beat takes balanced.orderly balanced.holding.settled
  have beat_eq : scene.beat Work.tick due =
      { after with timers := after.timers.putBack due.handle left } :=
    congrArg (fun ended : Task × Scene =>
      { ended.2 with timers := ended.2.timers.putBack due.handle ended.1 }) ticked_eq
  rw [beat_eq] at orderly ⊢
  cases ticked with
  | held holdsStill kept =>
      obtain ⟨holding, held_eq⟩ := putBack left holdsStill
      refine balanced.land orderly ?_ before (.held kept.drops_eq kept.ready_eq ?_)
      · rw [kept.timers_eq]
        exact holding
      · rw [kept.timers_eq]
        exact (List.Perm.of_eq held_eq).trans before
  | readied timers_eq ready_eq drops_eq =>
      rw [Clock.putBack_gone left (timers_eq ▸ gone)] at orderly ⊢
      refine balanced.land orderly ?_ before (.ready drops_eq ready_eq ?_)
      · rw [timers_eq]
        exact restHolding
      · rw [timers_eq]
        exact restHeld
  | passed interval next nextHolds timers_eq ready_eq drops_eq =>
      have goneStill : ∀ entry ∈ after.timers.timers, entry.1 ≠ due.handle := by
        rw [timers_eq, Clock.timers_schedule, List.forall_mem_append, List.forall_mem_singleton]
        exact ⟨gone, fun same => Nat.ne_of_gt below (congrArg Handle.number same)⟩
      rw [Clock.putBack_gone left goneStill] at orderly ⊢
      refine balanced.land orderly ?_ before (.held drops_eq ready_eq ?_)
      · rw [timers_eq]
        exact restHolding.schedule nextHolds
      · rw [timers_eq, held_schedule nextHolds, restHeld]
        exact List.perm_append_singleton callback rest
  | dropped timers_eq ready_eq drops_eq =>
      rw [Clock.putBack_gone left (timers_eq ▸ gone)] at orderly ⊢
      refine balanced.land orderly ?_ before (.dropped drops_eq ready_eq ?_)
      · rw [timers_eq]
        exact restHolding
      · rw [timers_eq]
        exact restHeld

/-- Moving the clock loses no callback. -/
theorem Balanced.drain {ticks : Nat} {target : Instant} (balanced : Balanced taken ledger scene)
    (ended : World.drain Clock.service Work.tick ticks target scene = some after) :
    Balanced taken ledger after := by
  obtain ⟨last, lastBalanced, next, rfl⟩ := World.drain_keeps still_tick
    (fun _ _ balanced next => Balanced.beat balanced next) balanced ended
  have late := Clock.lt_due_of_nextDue? next
  exact { lastBalanced with
    orderly := { lastBalanced.orderly with
      now_le_due := fun entry member =>
        Nat.le_of_lt (late entry member (lastBalanced.holding.settled entry member)) } }

/-! ## Answers -/

theorem Balanced.of_kept (balanced : Balanced taken ledger scene) (kept : Kept scene after) :
    Balanced taken ledger after := by
  obtain ⟨orderly, holding, numbered, dropped, length_eq, balance⟩ := balanced
  rw [← kept.timers_eq] at orderly holding
  refine ⟨orderly, holding, numbered, dropped, length_eq.trans kept.drops_eq.symm, ?_⟩
  rw [kept.timers_eq, kept.ready_eq]
  exact balance

/-- An accepted registration is invoked, held by a new timer, or dropped. -/
theorem Balanced.acceptWait (balanced : Balanced taken ledger scene) {callback : ObjectId}
    {progress : Wait.Progress ObjectId}
    (carried : Carried scene (ledger.tag callback) progress after) :
    Balanced taken (ledger.acceptWait (ledger.tag callback) (replyTo progress)) after ∧
      after.state.ready = scene.state.ready := by
  obtain ⟨orderly, holding, numbered, dropped, length_eq, balance⟩ := balanced
  have counts := List.perm_iff_count.mp balance
  simp only [List.count_append] at counts
  cases carried with
  | met kept =>
      rw [← kept.timers_eq] at orderly holding counts
      refine ⟨⟨orderly, holding, numbered.acceptWait _ _, dropped,
        length_eq.trans kept.drops_eq.symm, List.perm_iff_count.mpr fun tag => ?_⟩, kept.ready_eq⟩
      simp only [replyTo, Ledger.acceptWait, Ledger.accept, Ledger.invoke, kept.ready_eq,
        List.count_append, counts]
      lia
  | waiting interval task holds timers_eq ready_eq drops_eq =>
      refine ⟨⟨timers_eq ▸ orderly.schedule interval task, timers_eq ▸ holding.schedule holds,
        numbered.acceptWait _ _, dropped, length_eq.trans drops_eq.symm,
        List.perm_iff_count.mpr fun tag => ?_⟩, ready_eq⟩
      simp only [replyTo, Ledger.acceptWait, Ledger.accept, timers_eq, held_schedule holds,
        ready_eq, List.count_append, counts]
      lia
  | dropped timers_eq ready_eq drops_eq =>
      rw [← timers_eq] at orderly holding counts
      refine ⟨⟨orderly, holding, numbered.acceptWait _ _, ledger.tag callback :: dropped,
        by rw [drops_eq, List.length_cons, length_eq],
        List.perm_iff_count.mpr fun tag => ?_⟩, ready_eq⟩
      simp only [replyTo, Ledger.acceptWait, Ledger.accept, ready_eq, List.count_append,
        List.count_cons, List.count_nil, counts]
      lia

/-- An answer moves the callback of its request, if that has one. -/
theorem Balanced.answer (balanced : Balanced taken ledger scene) (interval : Span)
    (request : Request) :
    ∃ reply after, scene.act (Work.answer interval (renamedRequest ledger.tag request)) =
        (reply, after) ∧
      Balanced taken (ledger.note request reply) after ∧
      after.state.ready = scene.state.ready := by
  cases request with
  | wait conditions callback =>
      obtain ⟨progress, after, answered, carried⟩ :=
        answer_wait interval conditions (ledger.tag callback) scene
      exact ⟨replyTo progress, after, answered, balanced.acceptWait carried⟩
  | timeout delayMs callback =>
      let task (handle : Handle) : Task := .timeout (some handle) (some (ledger.tag callback))
      have carried : Carried scene (ledger.tag callback) .waiting
          ⟨(scene.timers.schedule (Span.ofMs delayMs) task).2, scene.state⟩ :=
        .waiting (Span.ofMs delayMs) task (fun _ => if_pos rfl) rfl rfl rfl
      exact ⟨.done, _, rfl, balanced.acceptWait carried⟩
  | print line =>
      have kept := kept_print line scene
      exact ⟨.done, _, rfl, balanced.of_kept kept, kept.ready_eq⟩
  | load source =>
      have kept := kept_load source scene
      exact ⟨.done, _, rfl, balanced.of_kept kept, kept.ready_eq⟩
  | setValue selector text =>
      have kept := kept_setValue selector text scene
      exact ⟨_, _, rfl, balanced.of_kept kept, kept.ready_eq⟩

/-! ## Dialogues and calls -/

theorem Balanced.converse (balanced : Balanced taken ledger scene) (interval : Span)
    (dialogue : Dialogue σ) :
    let ended := Scene.converse interval (numberedDialogue dialogue ledger) scene
    Balanced taken ended.1.2.2 ended.2 ∧ ended.2.state.ready = scene.state.ready := by
  induction dialogue generalizing ledger scene with
  | finished failure state => exact ⟨balanced, rfl⟩
  | asks request next ih =>
      obtain ⟨reply, after, answered, afterBalanced, ready_eq⟩ := balanced.answer interval request
      obtain ⟨ended, sameReady⟩ := ih reply afterBalanced
      simp only [numberedDialogue, Scene.converse, answered]
      exact ⟨ended, sameReady.trans ready_eq⟩

namespace Progress

/-- Unless something has failed, the registrations balance and no callback is ready. -/
def Calling (taken : List ObjectId) (progress : Progress (σ × Ledger)) : Prop :=
  progress.failure = none →
    Balanced taken progress.script.2 progress.scene ∧ progress.scene.state.ready = []

theorem Calling.speak (performer : Performer σ) (interval : Span) {tag : ObjectId}
    {tags : List ObjectId} {progress : Progress (σ × Ledger)}
    (calling : progress.Calling (tag :: tags)) :
    (progress.speak interval fun script => (numbered performer).call script tag).Calling tags := by
  obtain ⟨failure, script, scene, sleeps⟩ := progress
  cases failure with
  | some text => exact fun succeeded => absurd succeeded (Option.some_ne_none text)
  | none =>
      intro _
      obtain ⟨⟨orderly, holding, numbered, dropped, length_eq, balance⟩, ready_eq⟩ := calling rfl
      have invoked : Balanced tags (script.2.invoke tag) scene := by
        refine ⟨orderly, holding, numbered, dropped, length_eq, ?_⟩
        simpa [Ledger.invoke] using balance
      obtain ⟨ended, sameReady⟩ := invoked.converse interval
        (performer.call script.1 (original tag))
      exact ⟨ended, sameReady.trans ready_eq⟩

theorem Calling.callAll (performer : Performer σ) (interval : Span) {tags : List ObjectId}
    {progress : Progress (σ × Ledger)} (calling : progress.Calling tags) :
    (progress.callAll (numbered performer) interval tags).Calling [] := by
  induction tags generalizing progress with
  | nil => exact calling
  | cons tag tags ih => exact ih (calling.speak performer interval)

/-- Calling the callbacks that are ready leaves none that is ready. -/
theorem calling_callReady (performer : Performer σ) (interval : Span)
    {progress : Progress (σ × Ledger)}
    (balanced : progress.failure = none → Balanced [] progress.script.2 progress.scene) :
    (progress.callReady (numbered performer) interval).Calling [] := by
  refine Calling.callAll performer interval fun succeeded => ⟨?_, rfl⟩
  obtain ⟨orderly, holding, numbered, dropped, length_eq, balance⟩ := balanced succeeded
  refine ⟨orderly, holding, numbered, dropped, length_eq, balance.trans ?_⟩
  refine List.perm_iff_count.mpr fun tag => ?_
  simp only [List.count_append, List.count_nil]
  lia

theorem Calling.drive (performer : Performer σ) (settings : Settings) (moves : Nat)
    {progress : Progress (σ × Ledger)} (calling : progress.Calling []) :
    (progress.drive (numbered performer) settings moves).Calling [] := by
  induction moves generalizing progress with
  | zero => exact calling
  | succ moves ih =>
      rw [Progress.drive]
      cases progress.nextStop? (Span.ofMs settings.budgetMs) with
      | none => exact calling
      | some deadline =>
          cases moved : progress.moveTo settings.realtime deadline with
          | none =>
              simp only [moved]
              exact calling
          | some next =>
              simp only [moved]
              refine ih (calling_callReady performer _ fun succeeded => ?_)
              obtain ⟨scene, drained, rfl⟩ := Option.map_eq_some_iff.mp moved
              exact (calling succeeded).1.drain drained

end Progress

theorem balanced_start (page : Page) : Balanced [] .empty (Scene.start page) where
  orderly := Clock.orderly_start
  holding _ member := absurd member List.not_mem_nil
  numbered := rfl
  balance := ⟨[], rfl, .refl _⟩

theorem calling_perform (performer : Performer σ) (page : Page) (settings : Settings) :
    (perform (numbered performer) page settings).Calling [] := by
  refine Progress.Calling.drive performer settings _ ?_
  refine Progress.calling_callReady performer _ fun _ => ?_
  exact ((balanced_start page).converse _ performer.start).1

/-- Of the notices in an outcome, those about dropped waits are the ones that were reported. -/
theorem countP_notices (progress : Progress σ) :
    progress.outcome.notices.countP Notice.isDrop = drops progress.scene := by
  rw [Progress.notices_outcome]
  split
  · rw [List.countP_append, List.countP_reverse]
    rfl
  · exact List.countP_reverse

/-- No callback is lost or called twice.  When a performance succeeds, numbering its
registrations shows that those it accepted are distinct, that each has its callback invoked at
most once, and that the others were dropped with a notice or still have a timer each.

A callback that is due when its wait is registered counts as invoked, as the function that
registers the wait calls it then, once and in full, and otherwise not at all; and the function that
registers timeouts never calls its callback, which is never due at once. -/
theorem registrations_accounted (performer : Performer σ) (page : Page) (settings : Settings)
    (succeeds : (perform performer page settings).outcome.report.success = true) :
    let outcome := (perform performer page settings).outcome
    let numberedEnd := perform (numbered performer) page settings
    let ledger := numberedEnd.script.2
    numberedEnd.forget = perform performer page settings ∧
      ledger.accepted.Nodup ∧ ledger.invoked.Nodup ∧ ledger.invoked ⊆ ledger.accepted ∧
      ledger.accepted.length =
        ledger.invoked.length + outcome.notices.countP Notice.isDrop + outcome.report.pending ∧
      (perform performer page settings).scene.state.ready = [] ∧
      (∀ interval delayMs callback scene,
        (Scene.act (Work.answer interval (.timeout delayMs callback)) scene).1 = .done) ∧
      ∀ name length function, (name, length, function) ∈ Library.waitingFunctions →
        (∃ arguments, (name, length, arguments) ∈ Library.registrations ∧
          Library.Registers arguments function) ∨
        ∃ arguments, (name, length, arguments) ∈ Library.deferrals ∧
          Library.Defers arguments function := by
  intro outcome numberedEnd ledger
  have forgotten : numberedEnd.forget = perform performer page settings :=
    perform_numbered performer page settings
  have succeeded : numberedEnd.failure = none := by
    rw [← forgotten] at succeeds
    exact Option.isNone_iff_eq_none.mp succeeds
  obtain ⟨⟨orderly, holding, isNumbered, dropped, length_eq, balance⟩, ready_eq⟩ :=
    calling_perform performer page settings succeeded
  have reported : outcome.notices.countP Notice.isDrop = drops numberedEnd.scene := by
    rw [countP_notices, ← forgotten]
    rfl
  have pending : outcome.report.pending = numberedEnd.scene.timers.active := by
    show (perform performer page settings).scene.timers.active = _
    rw [← forgotten]
    exact List.length_map _
  have distinct := isNumbered.nodup
  have places := balance.nodup_iff.mp distinct
  refine ⟨forgotten, distinct, ?_, ?_, ?_, ?_, fun _ _ _ _ => rfl,
    fun _ _ _ => Library.registers_or_defers⟩
  · simp only [List.append_assoc, List.nodup_append] at places
    exact places.1
  · intro tag member
    refine balance.mem_iff.mpr ?_
    simp only [List.append_assoc]
    exact List.mem_append_left _ member
  · rw [balance.length_eq, reported, pending, ready_eq, ← length_eq, ← holding.length_held]
    simp only [List.length_append, List.length_nil, Nat.add_zero]
    rfl
  · rw [← forgotten]
    exact congrArg (List.map original) ready_eq

/-- Every script has a performer, so the above holds of it on every target. -/
example (text : String) (target : Target) (settings : Settings) :
    runScript text target settings =
      (perform (Script.performer target.changeable text) target.page settings).outcome :=
  rfl

/-- A script that waits for an element and hands one callback to two timeouts. -/
def patient : Performer Unit where
  start :=
    .asks (.wait [.element "a"] 7) fun _ =>
      .asks (.timeout 1 7) fun _ => .asks (.timeout 9 7) fun _ => .finished none ()
  call _ _ := .finished none ()

/-- A page that does not answer. -/
def silent : Page := .scripted ⟨[("a", .cons (.error (.page "gone")) [])]⟩

theorem registrations_accounted_patient :
    (perform patient silent ⟨10, 4, false⟩).outcome.report.success = true ∧
      (perform (numbered patient) silent ⟨10, 4, false⟩).script.2.invoked.Nodup ∧
      (perform (numbered patient) silent ⟨10, 4, false⟩).script.2.accepted.length = 1 + 1 + 1 := by
  have succeeds : (perform patient silent ⟨10, 4, false⟩).outcome.report.success = true := by
    decide +kernel
  obtain ⟨-, -, once, -, total, -, -, -⟩ :=
    registrations_accounted patient silent ⟨10, 4, false⟩ succeeds
  refine ⟨succeeds, once, total.trans ?_⟩
  decide +kernel

end PageWatch.Performance
