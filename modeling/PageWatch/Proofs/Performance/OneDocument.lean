import PageWatch.Proofs.Performance.Reading
import PageWatch.Proofs.Performance.Turns

/-!
# One document for all polls of an instant

When the clock is moved to a deadline, each timer that is due there ticks once, and nothing else
happens.  All of these ticks see the document that the move began with, which is the one that
everything before that instant has left.  Only then are callbacks called, and what they make of
the document is seen by the waits that they register, and by all others at their next ticks.

A tick has no effect on other timers.  So what becomes ready at a deadline is told by the timers
that are due and the document, each timer for itself.
-/

namespace PageWatch

open Script

variable {τ σ : Type}

/-- The timers that are due at an instant, in the order in which they were scheduled. -/
def Clock.dueAt (instant : Instant) (clock : Clock τ) : List (Handle × Timer τ) :=
  clock.timers.filter fun entry => entry.2.due = instant

namespace Performance

/-! ## A tick leaves other timers alone -/

section Beat

variable {scene : Scene} {due : Clock.Due Task} {timer : Timer Task} {target : Instant}

/-- A timer that is due after an instant and holds a callback. -/
def HeldAfter (instant : Instant) (entry : Handle × Timer Task) : Prop :=
  instant < entry.2.due ∧ (holding? entry).isSome

/-- What becomes of the timers at a tick: the one that ticks is due again later or gone, one
that is due later may have been added, and all others are as they were. -/
theorem exists_split_beat (takes : scene.timers.Takes target due timer)
    (orderly : scene.timers.Orderly) (holding : Holding scene.timers) :
    ∃ front back own fresh,
      scene.timers.timers = front ++ (due.handle, timer) :: back ∧
      (scene.beat Work.tick due).timers.timers = front ++ own ++ back ++ fresh ∧
      ∀ entry ∈ own ++ fresh, HeldAfter due.deadline entry := by
  obtain ⟨front, back, split, others, cancelled, putBack⟩ := takes.split orderly
  have own : (holding? (due.handle, timer)).isSome := holding _ takes.member
  obtain ⟨callback, holds⟩ := Option.isSome_iff_exists.mp own
  have heldHolds : due.task.held? due.handle = some callback := by
    rw [holding?, takes.task_eq] at holds
    exact holds
  obtain ⟨left, after, ticked_eq, ticked⟩ :=
    act_tick heldHolds { scene with timers := scene.timers.taking due }
  have beat_eq : scene.beat Work.tick due =
      { after with timers := after.timers.putBack due.handle left } :=
    congrArg (fun ended : Task × Scene =>
      { ended.2 with timers := ended.2.timers.putBack due.handle ended.1 }) ticked_eq
  have gone : ∀ entry ∈ ((scene.timers.taking due).cancel due.handle).timers,
      entry.1 ≠ due.handle := by
    rw [cancelled]
    exact others
  have noneLeft (timers_eq : after.timers = (scene.timers.taking due).cancel due.handle) :
      (scene.beat Work.tick due).timers.timers = front ++ [] ++ back ++ [] := by
    rw [beat_eq, timers_eq]
    simp only [Clock.putBack_gone left gone, cancelled, List.append_nil]
  refine ⟨front, back, ?_⟩
  cases ticked with
  | held holdsStill kept =>
      refine ⟨[(due.handle, ⟨timer.interval, due.deadline + timer.interval, some left⟩)], [],
        split, ?_, ?_⟩
      · rw [beat_eq, kept.timers_eq]
        simp only [putBack, List.append_assoc, List.singleton_append, List.append_nil]
      · intro entry member
        rw [List.append_nil, List.mem_singleton] at member
        subst member
        exact ⟨Nat.lt_add_of_pos_right (orderly.interval_pos _ takes.member),
          Option.isSome_iff_exists.mpr ⟨callback, holdsStill⟩⟩
  | readied timers_eq ready_eq drops_eq =>
      exact ⟨[], [], split, noneLeft timers_eq, fun _ member => absurd member List.not_mem_nil⟩
  | dropped timers_eq ready_eq drops_eq =>
      exact ⟨[], [], split, noneLeft timers_eq, fun _ member => absurd member List.not_mem_nil⟩
  | passed interval next holdsNext timers_eq ready_eq drops_eq =>
      let entry : Handle × Timer Task :=
        (⟨scene.timers.next⟩,
          ⟨interval.clamp, due.deadline + interval.clamp, some (next ⟨scene.timers.next⟩)⟩)
      have scheduled : after.timers.timers = front ++ back ++ [entry] := by
        rw [timers_eq, Clock.timers_schedule, cancelled]
        rfl
      have fresh : ∀ known ∈ after.timers.timers, known.1 ≠ due.handle := by
        rw [scheduled]
        intro known member
        cases List.mem_append.mp member with
        | inl member => exact others known member
        | inr member =>
            rw [List.mem_singleton.mp member]
            intro same
            have below := orderly.below_next _ takes.member
            rw [← same] at below
            exact Nat.lt_irrefl _ below
      refine ⟨[], [entry], split, ?_, ?_⟩
      · rw [beat_eq]
        simp only [Clock.putBack_gone left fresh, scheduled, List.append_nil]
      · intro known member
        rw [List.nil_append, List.mem_singleton] at member
        subst member
        exact ⟨Nat.lt_add_of_pos_right (Span.clamp_pos interval),
          Option.isSome_iff_exists.mpr ⟨callback, holdsNext _⟩⟩

theorem Holding.beat (takes : scene.timers.Takes target due timer)
    (orderly : scene.timers.Orderly) (holding : Holding scene.timers) :
    Holding (scene.beat Work.tick due).timers := by
  obtain ⟨front, back, own, fresh, split, after_eq, later⟩ :=
    exists_split_beat takes orderly holding
  intro entry member
  simp only [after_eq, List.mem_append] at member
  have known : entry ∈ front ∨ entry ∈ back → (holding? entry).isSome := by
    intro member
    apply holding
    rw [split]
    cases member with
    | inl member => exact List.mem_append_left _ member
    | inr member => exact List.mem_append_right _ (.tail _ member)
  rcases member with ((member | member) | member) | member
  · exact known (.inl member)
  · exact (later entry (List.mem_append_left _ member)).2
  · exact known (.inr member)
  · exact (later entry (List.mem_append_right _ member)).2

/-- On the way to a deadline, the timer that ticks is the first of those due there, and the
others stay. -/
theorem dueAt_beat (arriving : Arriving target scene.timers) (holding : Holding scene.timers)
    (takes : scene.timers.Takes target due timer) :
    scene.timers.dueAt target =
      (due.handle, timer) :: (scene.beat Work.tick due).timers.dueAt target := by
  obtain ⟨front, back, own, fresh, split, after_eq, later⟩ :=
    exists_split_beat takes arriving.orderly holding
  have deadline_eq : due.deadline = target :=
    Nat.le_antisymm takes.deadline_le (takes.due_eq ▸ arriving.noEarlier _ takes.member)
  have none_due {entries : List (Handle × Timer Task)}
      (late : ∀ entry ∈ entries, target < entry.2.due) :
      entries.filter (fun entry => entry.2.due = target) = [] := by
    rw [List.filter_eq_nil_iff]
    intro entry member
    simpa using Nat.ne_of_gt (late entry member)
  have inFront : ∀ entry ∈ front, target < entry.2.due := by
    intro entry member
    have sorted := arriving.orderly.sorted
    rw [split, List.pairwise_append] at sorted
    have smaller : entry.1.number < due.handle.number :=
      sorted.2.2 entry member (due.handle, timer) (.head _)
    have known : entry ∈ scene.timers.timers := by
      rw [split]
      exact List.mem_append_left _ member
    have other : entry.1 ≠ due.handle := fun same => by
      rw [same] at smaller
      exact Nat.lt_irrefl _ smaller
    have before := takes.before arriving.settled known other
    unfold Before at before
    simp only [deadline_eq] at before
    lia
  have added : ∀ entry ∈ own ++ fresh, target < entry.2.due := fun entry member =>
    deadline_eq ▸ (later entry member).1
  have own_late := none_due fun entry member => added entry (List.mem_append_left _ member)
  have fresh_late := none_due fun entry member => added entry (List.mem_append_right _ member)
  have isDue : timer.due = target := takes.due_eq.trans deadline_eq
  simp only [Clock.dueAt, after_eq, split, List.filter_append, none_due inFront, own_late,
    fresh_late, List.filter_cons, isDue, decide_true, if_true, List.nil_append, List.append_nil]

end Beat

/-! ## Moves -/

/-- The callback that a timer's tick makes ready if all of its checks are made on one
document. -/
def firing? (document : Snapshot) (entry : Handle × Timer Task) : Option ObjectId :=
  entry.2.task.bind (Task.firesOn document)

/-- The states that ticks get to see while the clock is moved, in order. -/
def Scene.moveViews : Nat → Instant → Scene → List State
  | 0, _, _ => []
  | ticks + 1, target, scene =>
    match scene.timers.nextDue? target with
    | none => []
    | some due =>
      (Work.tick due.handle due.task).views Clock.service
          { scene with timers := scene.timers.taking due } ++
        moveViews ticks target (scene.beat Work.tick due)

/-- A move of the clock to its next deadline.  Every timer that is due ticks once, the document
is the same for all of them, and each makes its callback ready if its own conditions hold. -/
structure MovesOn (document : Snapshot) (ticks : Nat) (target : Instant) (before after : Scene) :
    Prop where
  page_eq : after.state.page = .snapshot document
  ready_eq : after.state.ready =
    before.state.ready ++ (before.timers.dueAt target).filterMap (firing? document)
  ticks_eq : before.moveTranscript ticks target =
    (before.timers.dueAt target).map fun entry =>
      (target, .ticked entry.1 (firing? document entry))
  views : ∀ state ∈ before.moveViews ticks target, state.page = .snapshot document

theorem movesOn {document : Snapshot} {ticks : Nat} {target : Instant} {scene after : Scene}
    (arriving : Arriving target scene.timers) (holding : Holding scene.timers)
    (page : scene.state.page = .snapshot document)
    (drained : World.drain Clock.service Work.tick ticks target scene = some after) :
    MovesOn document ticks target scene after := by
  induction ticks generalizing scene with
  | zero => simp [World.drain] at drained
  | succ ticks ih =>
      rw [World.drain_succ still_tick] at drained
      cases next : scene.timers.nextDue? target with
      | none =>
          simp only [next, Option.some.injEq] at drained
          subst drained
          have none_due : scene.timers.dueAt target = [] := by
            rw [Clock.dueAt, List.filter_eq_nil_iff]
            intro entry member
            have late := Clock.lt_due_of_nextDue? next entry member
              (arriving.settled entry member)
            simpa using Nat.ne_of_gt late
          refine ⟨page, ?_, ?_, ?_⟩
          · rw [none_due]
            exact (List.append_nil _).symm
          · rw [none_due]
            simp [Scene.moveTranscript, next]
          · simp [Scene.moveViews, next]
      | some due =>
          simp only [next] at drained
          obtain ⟨timer, takes⟩ := Clock.takes_of_nextDue? arriving.orderly next
          obtain ⟨deadline_eq, arrivingNext, -, -⟩ := arriving.beat next
          obtain ⟨-, taskWhole⟩ := arriving.whole.taking takes
          obtain ⟨seen, kept⟩ := reads_tick due.handle due.task
            { scene with timers := scene.timers.taking due } page
          have readied : (scene.beat Work.tick due).state.ready =
              scene.state.ready ++ (firing? document (due.handle, timer)).toList := by
            have taken : ({ scene with timers := scene.timers.taking due } : Scene).state.page =
                .snapshot document := page
            rw [firing?, takes.task_eq]
            exact ready_tick taken due.handle taskWhole
          obtain ⟨pageAfter, readyAfter, ticksAfter, viewsAfter⟩ :=
            ih arrivingNext (holding.beat takes arriving.orderly) kept drained
          have all_due := dueAt_beat arriving holding takes
          refine ⟨pageAfter, ?_, ?_, ?_⟩
          · rw [readyAfter, readied, all_due, List.filterMap_cons, List.append_assoc]
            cases firing? document (due.handle, timer) <;> rfl
          · have found : scene.readied? (scene.beat Work.tick due) =
                firing? document (due.handle, timer) := by
              rw [Scene.readied?, readied, List.drop_left]
              cases firing? document (due.handle, timer) <;> rfl
            simp only [Scene.moveTranscript, next, found, ticksAfter, all_due, deadline_eq,
              List.map_cons]
          · intro state member
            simp only [Scene.moveViews, next, List.mem_append] at member
            cases member with
            | inl member => exact seen state member
            | inr member => exact viewsAfter state member

/-! ## What a script writes -/

/-- The document after something that a script asks for. -/
def Request.written (document : Snapshot) : Request → Snapshot
  | .load source => document.load source
  | .setValue selector text =>
    match document.setValue selector text with
    | .ok (_, changed) => changed
    | .error _ => document
  | _ => document

namespace Transcript

/-- The document after all that has happened. -/
def written (document : Snapshot) (transcript : Transcript) : Snapshot :=
  transcript.foldl
    (fun document entry =>
      match entry.2 with
      | .asked request _ => Request.written document request
      | _ => document)
    document

/-- What happens before an instant. -/
def before (instant : Instant) (transcript : Transcript) : Transcript :=
  transcript.takeWhile fun entry => entry.1 < instant

theorem written_append (document : Snapshot) (past added : Transcript) :
    written document (past ++ added) = written (written document past) added := by
  simp [written]

end Transcript

section Steps

variable {σ : Type} {performer : Performer σ} {interval : Span} {first second : Moment σ}
  {entry : Option (Instant × Event)} {past : Transcript} {document : Snapshot} {scene : Scene}

/-- An answer leaves the document that the request asks for. -/
theorem page_answer (page : scene.state.page = .snapshot document) (interval : Span)
    (request : Request) :
    (scene.act (Work.answer interval request)).2.state.page =
      .snapshot (Request.written document request) := by
  cases request with
  | wait conditions callback =>
      have reads : Reads document (Work.answer interval (.wait conditions callback)) := by
        simp only [Work.answer, Waiter.awaitAll_eq]
        apply (reads_run _).bind
        intro progress
        cases progress <;> exact .done _
      exact (reads scene page).2
  | timeout delayMs callback =>
      have reads : Reads document (Work.answer interval (.timeout delayMs callback)) :=
        .schedule _ _ _
      exact (reads scene page).2
  | print line => exact page
  | load source =>
      obtain ⟨timers, ⟨onPage, ready, printed, notices⟩⟩ := scene
      cases page
      rfl
  | setValue selector text =>
      obtain ⟨timers, ⟨onPage, ready, printed, notices⟩⟩ := scene
      cases page
      simp only [Work.answer, setValue_eq, act_bind, Request.written]
      simp only [Scene.act, Routine.update, World.act_look, World.act_put, World.act_done, setting]
      cases document.setValue selector text with
      | error error => rfl
      | ok changed => rfl

theorem Holding.answer (holding : Holding scene.timers) (interval : Span) (request : Request) :
    Holding (scene.act (Work.answer interval request)).2.timers := by
  cases request with
  | wait conditions callback =>
      obtain ⟨progress, after, answered, carried⟩ :=
        answer_wait interval conditions callback scene
      rw [answered]
      cases carried with
      | met kept => exact kept.timers_eq ▸ holding
      | waiting interval task holds timers_eq ready_eq drops_eq =>
          exact timers_eq ▸ holding.schedule holds
      | dropped timers_eq ready_eq drops_eq => exact timers_eq ▸ holding
  | timeout delayMs callback =>
      have holds : ∀ handle, (Task.timeout (some handle) (some callback)).held? handle =
          some callback := fun _ => if_pos rfl
      exact holding.schedule holds
  | print line => exact (kept_print line scene).timers_eq ▸ holding
  | load source => exact (kept_load source scene).timers_eq ▸ holding
  | setValue selector text => exact (kept_setValue selector text scene).timers_eq ▸ holding

/-- The document on the page is the one that was written, nothing that has happened is yet to
come, and every timer holds a callback. -/
structure Reflects (document : Snapshot) (past : Transcript) (scene : Scene) : Prop where
  tidy : Tidy scene.timers
  holding : Holding scene.timers
  page_eq : scene.state.page = .snapshot (past.written document)
  stamps : ∀ entry ∈ past, entry.1 ≤ scene.timers.now

/-- Something happens that leaves timers and document as they are. -/
theorem Reflects.snoc (reflects : Reflects document past scene) {event : Event}
    (silent : ∀ request reply, event ≠ .asked request reply) :
    Reflects document (past ++ [(scene.timers.now, event)]) scene := by
  obtain ⟨tidy, holding, page_eq, stamps⟩ := reflects
  refine ⟨tidy, holding, ?_, ?_⟩
  · rw [page_eq, Transcript.written_append]
    cases event with
    | asked request reply => exact absurd rfl (silent request reply)
    | ticked | started | ended => rfl
  · intro entry member
    cases List.mem_append.mp member with
    | inl member => exact stamps entry member
    | inr member => exact Nat.le_of_eq (congrArg Prod.fst (List.mem_singleton.mp member))

theorem Reflects.step (reflects : Reflects document past first.scene)
    (step : Step performer interval first entry second) (whole : interval.Whole) :
    Reflects document (past ++ entry.toList) second.scene := by
  cases step with
  | begin | finish | call => exact reflects.snoc nofun
  | take failure script timers state =>
      rw [Option.toList_none, List.append_nil]
      exact ⟨reflects.tidy, reflects.holding, reflects.page_eq, reflects.stamps⟩
  | answer request next scene calling =>
      obtain ⟨tidy, holding, page_eq, stamps⟩ := reflects
      refine ⟨tidy.answer whole request, holding.answer interval request, ?_, ?_⟩
      · rw [page_answer page_eq, Transcript.written_append]
        rfl
      · rw [now_answer]
        intro entry member
        cases List.mem_append.mp member with
        | inl member => exact stamps entry member
        | inr member => exact Nat.le_of_eq (congrArg Prod.fst (List.mem_singleton.mp member))
  | tick script scene due next alone =>
      obtain ⟨tidy, holding, page_eq, stamps⟩ := reflects
      obtain ⟨timer, takes⟩ := Clock.takes_of_nextDue? tidy.orderly next
      refine ⟨tidy.beat next, holding.beat takes tidy.orderly, ?_, ?_⟩
      · rw [Transcript.written_append]
        exact (reads_tick due.handle due.task
          { scene with timers := scene.timers.taking due } page_eq).2
      · rw [World.now_beat]
        intro entry member
        cases List.mem_append.mp member with
        | inl member => exact Nat.le_trans (stamps entry member) (takes.now_le tidy.orderly)
        | inr member => exact Nat.le_of_eq (congrArg Prod.fst (List.mem_singleton.mp member))
  | arrive script scene target rung there early alone =>
      obtain ⟨tidy, holding, page_eq, stamps⟩ := reflects
      rw [Option.toList_none, List.append_nil]
      exact ⟨(tidy.arrive there rung).toTidy, holding, page_eq,
        fun entry member => Nat.le_trans (stamps entry member) early⟩

theorem Steps.reflects {settings : Settings} {last : Moment σ}
    (steps : Steps performer (Span.ofMs settings.checkIntervalMs) (.start (.snapshot document))
      past last) : Reflects document past last.scene := by
  have start : Reflects document [] (Moment.start (σ := σ) (.snapshot document)).scene :=
    ⟨resting_start.toTidy, fun _ member => absurd member List.not_mem_nil, rfl,
      fun _ member => absurd member List.not_mem_nil⟩
  exact steps.keeps (fun past moment => Reflects document past moment.scene)
    (fun _ _ _ _ reflects step => reflects.step step (Span.whole_ofMs _)) start

/-- The step that has added an entry to a transcript. -/
theorem Steps.exists_step {added : Transcript} {last : Moment σ} {stamped : Instant × Event}
    {future : Transcript} (steps : Steps performer interval first added last)
    (split : added = past ++ stamped :: future) :
    ∃ middle next, Steps performer interval first past middle ∧
      Step performer interval middle (some stamped) next := by
  induction steps generalizing past with
  | refl moment => simp at split
  | @head first second last entry rest step steps ih =>
      cases entry with
      | none =>
          obtain ⟨middle, next, earlier, taken⟩ := ih split
          exact ⟨middle, next, .head step earlier, taken⟩
      | some entry =>
          cases past with
          | nil =>
              obtain ⟨rfl, -⟩ := List.cons.inj split
              exact ⟨first, second, .refl first, step⟩
          | cons known past =>
              obtain ⟨rfl, rest_eq⟩ := List.cons.inj split
              obtain ⟨middle, next, earlier, taken⟩ := ih rest_eq
              exact ⟨middle, next, .head step earlier, taken⟩

end Steps

/-! ## All ticks of a performance -/

section Ticks

variable {σ : Type} {performer : Performer σ} {interval : Span}

/-- No timer ticks while the script speaks. -/
theorem not_ticked_converse (dialogue : Dialogue σ) (scene : Scene) (now : Instant)
    (handle : Handle) (readied : Option ObjectId) :
    (now, .ticked handle readied) ∉ scene.converseTranscript interval dialogue := by
  induction dialogue generalizing scene with
  | finished failure script => simp [Scene.converseTranscript]
  | asks request next ih =>
      intro member
      cases member with
      | tail _ member => exact ih _ _ member

theorem not_ticked_calls (callbacks : List ObjectId) (progress : Progress σ) (now : Instant)
    (handle : Handle) (readied : Option ObjectId) :
    (now, .ticked handle readied) ∉ progress.callTranscript performer interval callbacks := by
  induction callbacks generalizing progress with
  | nil => simp [Progress.callTranscript]
  | cons callback callbacks ih =>
      rw [Progress.callTranscript]
      cases progress.failure with
      | some text => simp
      | none =>
          intro member
          cases member with
          | tail _ member =>
              cases List.mem_append.mp member with
              | inl member => exact not_ticked_converse _ _ _ _ _ member
              | inr member => exact ih _ member

theorem not_ticked_opening (page : Page) (now : Instant) (handle : Handle)
    (readied : Option ObjectId) :
    (now, .ticked handle readied) ∉ openingTranscript performer page interval := by
  intro member
  cases member with
  | tail _ member =>
      cases List.mem_append.mp member with
      | inl member => exact not_ticked_converse _ _ _ _ _ member
      | inr member => exact not_ticked_calls _ _ _ _ _ member

end Ticks

namespace Stands

variable {σ : Type} {performer : Performer σ} {document : Snapshot} {settings : Settings}
  {turns : Nat} {past : Transcript} {before : Progress σ} {deadline : Instant}

/-- A turn moves the clock on the document that everything before has left. -/
theorem movesOn (stands : Stands performer (.snapshot document) settings turns past before)
    (next : before.scene.timers.nextDeadline? = some deadline) :
    (∀ entry ∈ past, entry.1 < deadline) ∧
      before.scene.state.page = .snapshot (past.written document) ∧
      ∃ moved, before.moveTo settings.realtime deadline = some moved ∧
        MovesOn (past.written document) (before.scene.timers.active + 1) deadline before.scene
          moved.scene := by
  obtain ⟨left, steps, -⟩ := stands.steps
  have reflects : Reflects document past before.scene := steps.reflects
  obtain ⟨scene, moveTo_eq, drained, arriving, -, -, ahead⟩ :=
    Progress.exists_moveTo stands.atRest.clock next settings.realtime
  refine ⟨?_, reflects.page_eq, _, moveTo_eq, ?_⟩
  · intro entry member
    have soon : before.scene.timers.now < deadline :=
      Nat.lt_of_lt_of_le (Nat.lt_add_of_pos_right (by decide)) ahead
    exact Nat.lt_of_le_of_lt (reflects.stamps entry member) soon
  · exact Performance.movesOn arriving reflects.holding reflects.page_eq drained

/-- A tick belongs to a turn, and everything that happened before that instant to the turns
before. -/
theorem exists_of_ticked {now : Instant} {handle : Handle} {readied : Option ObjectId}
    (stands : Stands performer (.snapshot document) settings turns past before)
    (ticked : (now, .ticked handle readied) ∈ past) :
    ∃ earlier start move future, Stands performer (.snapshot document) settings earlier start move ∧
      move.nextStop? (Span.ofMs settings.budgetMs) = some now ∧
      past = start ++
        (move.scene.moveTranscript (move.scene.timers.active + 1) now ++ future) ∧
      (now, .ticked handle readied) ∈
        move.scene.moveTranscript (move.scene.timers.active + 1) now := by
  induction stands with
  | opened => exact absurd ticked (not_ticked_opening _ _ _ _)
  | @turned turns past before moved deadline stands stop moves ih =>
      rw [List.mem_append, List.mem_append] at ticked
      rcases ticked with ticked | ticked | ticked
      · obtain ⟨earlier, start, move, future, there, stops, past_eq, member⟩ := ih ticked
        refine ⟨earlier, start, move, future ++
          (before.scene.moveTranscript (before.scene.timers.active + 1) deadline ++
            moved.readyTranscript performer (Span.ofMs settings.checkIntervalMs)),
          there, stops, ?_, member⟩
        rw [past_eq]
        simp only [List.append_assoc]
      · obtain ⟨-, next, -⟩ := Progress.nextStop?_eq_some.mp stop
        obtain ⟨-, -, _, -, moving⟩ := stands.movesOn next
        have now_eq : now = deadline := by
          have member := ticked
          rw [moving.ticks_eq] at member
          obtain ⟨entry, -, same⟩ := List.mem_map.mp member
          exact (congrArg Prod.fst same).symm
        subst now_eq
        exact ⟨turns, past, before, _, stands, stop, rfl, ticked⟩
      · exact absurd ticked (not_ticked_calls _ _ _ _ _)

end Stands

/-- All polls of one instant see one document.  Whenever a timer ticks, its checks are made on the
document that everything before that instant has left, whatever else ticks or is called at the
same instant: in a turn each timer that is due ticks once, no tick sees any other document, and a
callback becomes ready if the conditions of its own wait hold of that document.  What a script has
written at that instant is seen by the waits that it registers from then on. -/
theorem polls_see_one_document {σ : Type} (performer : Performer σ) (document : Snapshot)
    (settings : Settings) :
    let events := transcript performer (.snapshot document) settings
    (∀ now handle readied, (now, .ticked handle readied) ∈ events →
      let seen := (events.before now).written document
      ∃ turns before timer,
        Stands performer (.snapshot document) settings turns (events.before now) before ∧
          before.nextStop? (Span.ofMs settings.budgetMs) = some now ∧
          before.scene.state.page = .snapshot seen ∧
          (handle, timer) ∈ before.scene.timers.dueAt now ∧
          readied = firing? seen (handle, timer)) ∧
      (∀ turns past before deadline,
        Stands performer (.snapshot document) settings turns past before →
        before.nextStop? (Span.ofMs settings.budgetMs) = some deadline →
        (∀ entry ∈ past, entry.1 < deadline) ∧
          before.scene.state.page = .snapshot (past.written document) ∧
          ∃ moved, before.moveTo settings.realtime deadline = some moved ∧
            MovesOn (past.written document) (before.scene.timers.active + 1) deadline
              before.scene moved.scene) ∧
      ∀ (past : Transcript) now conditions callback reply future,
        events = past ++ (now, .asked (.wait conditions callback) reply) :: future →
        (reply = .due ↔
          ∀ condition ∈ conditions, condition.holdsOn (past.written document) = true) := by
  intro events
  obtain ⟨-, all, stands⟩ := stands_perform performer (.snapshot document) settings
  refine ⟨?_, ?_, ?_⟩
  · intro now handle readied ticked seen
    obtain ⟨turns, start, before, future, there, stops, events_eq, member⟩ :=
      stands.exists_of_ticked ticked
    obtain ⟨-, next, -⟩ := Progress.nextStop?_eq_some.mp stops
    obtain ⟨stamps, page_eq, _, -, moving⟩ := there.movesOn next
    have before_eq : events.before now = start := by
      rw [Transcript.before, show events = _ from events_eq,
        List.takeWhile_append_of_pos fun entry known => by simpa using stamps entry known]
      rw [moving.ticks_eq] at member ⊢
      cases due : before.scene.timers.dueAt now with
      | nil => simp [due] at member
      | cons first others => simp
    obtain ⟨⟨owner, timer⟩, isDue, same⟩ := List.mem_map.mp (moving.ticks_eq ▸ member)
    obtain ⟨-, rfl, rfl⟩ : now = now ∧ owner = handle ∧ _ = readied := by
      simpa using same
    refine ⟨turns, before, timer, ?_, stops, ?_, isDue, ?_⟩
    · rw [before_eq]
      exact there
    · rw [page_eq, ← before_eq]
    · simp only [seen, before_eq]
  · intro turns past before deadline there stop
    exact there.movesOn (Progress.nextStop?_eq_some.mp stop).2.1
  · intro past now conditions callback reply future split
    obtain ⟨left, steps, -⟩ := steps_perform performer (.snapshot document) settings
    obtain ⟨middle, last, earlier, taken⟩ := steps.exists_step split
    have reflects : Reflects document past middle.scene := earlier.reflects
    cases taken with
    | answer request next scene calling =>
        exact reply_wait reflects.page_eq _ conditions callback

end Performance

end PageWatch
