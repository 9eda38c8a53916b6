import PageWatch.Proofs.Performance.Whole

/-!
# Between two moves of the clock

When the clock stands still, every timer is due at a later time.  The script may then ask for
whatever it wants: no timer becomes due by that.  So the clock can always be moved to its next
deadline, where each timer that is due ticks once, and all timers are due later again.
-/

namespace PageWatch

open Script

variable {τ σ : Type}

namespace Performance

/-- A clock whose timers are in order, each with its task, and whose times are whole. -/
structure Tidy (clock : Clock Task) : Prop where
  orderly : clock.Orderly
  settled : clock.Settled
  whole : WholeClock clock

/-- A clock on which every timer waits for a later time. -/
structure Resting (clock : Clock Task) : Prop extends Tidy clock where
  later : ∀ entry ∈ clock.timers, clock.now < entry.2.due

theorem resting_start : Resting Clock.start where
  orderly := Clock.orderly_start
  settled _ member := absurd member List.not_mem_nil
  whole := ⟨Nat.dvd_zero _, fun _ member => absurd member List.not_mem_nil⟩
  later _ member := absurd member List.not_mem_nil

variable {interval : Span} {scene : Scene} {due : Clock.Due Task} {target : Instant}

/-! ## Answers -/

theorem now_answer (interval : Span) (request : Request) (scene : Scene) :
    (scene.act (Work.answer interval request)).2.timers.now = scene.timers.now :=
  World.now_act scene _

theorem Tidy.answer (tidy : Tidy scene.timers) (whole : interval.Whole) (request : Request) :
    Tidy (scene.act (Work.answer interval request)).2.timers where
  orderly := World.orderly_act _ tidy.orderly
  settled := World.forall_timers_act _ (fun _ _ _ => rfl) tidy.settled
  whole := (effect_answer whole request scene).whole tidy.whole

theorem Resting.answer (resting : Resting scene.timers) (whole : interval.Whole)
    (request : Request) : Resting (scene.act (Work.answer interval request)).2.timers where
  toTidy := resting.toTidy.answer whole request
  later := by
    -- A timer that is scheduled now is due later, as no interval is empty.
    rw [now_answer]
    exact World.forall_timers_act _
      (fun _ interval _ => Nat.lt_add_of_pos_right (Span.clamp_pos interval)) resting.later

/-- A dialogue leaves the clock at rest, where it is. -/
theorem Resting.converse (resting : Resting scene.timers) (whole : interval.Whole)
    (dialogue : Dialogue σ) :
    let ended := (Scene.converse interval dialogue scene).2
    Resting ended.timers ∧ ended.timers.now = scene.timers.now ∧
      ended.state.ready = scene.state.ready := by
  induction dialogue generalizing scene with
  | finished failure state => exact ⟨resting, rfl, rfl⟩
  | asks request next ih =>
      obtain ⟨rests, now, ready⟩ :=
        ih (scene.act (Work.answer interval request)).1 (resting.answer whole request)
      exact ⟨rests, now.trans (now_answer interval request scene),
        ready.trans (effect_answer whole request scene).ready_eq⟩

/-! ## Moves -/

theorem Tidy.beat (tidy : Tidy scene.timers) (next : scene.timers.nextDue? target = some due) :
    Tidy (scene.beat Work.tick due).timers := by
  obtain ⟨timer, takes⟩ := Clock.takes_of_nextDue? tidy.orderly next
  exact ⟨World.orderly_beat takes tidy.orderly tidy.settled, World.settled_beat tidy.settled,
    (effect_beat takes tidy.whole).1⟩

/-- Once no timer is due any more, the clock comes to rest. -/
theorem Tidy.arrive (tidy : Tidy scene.timers) (there : Span.Whole target)
    (rung : scene.timers.nextDue? target = none) : Resting (scene.arrive target).timers := by
  have late : ∀ entry ∈ scene.timers.timers, target < entry.2.due := fun entry member =>
    Clock.lt_due_of_nextDue? rung entry member (tidy.settled entry member)
  refine ⟨⟨?_, tidy.settled, tidy.whole.arrive there⟩, late⟩
  exact { tidy.orderly with now_le_due := fun entry member => Nat.le_of_lt (late entry member) }

/-- A clock on its way to an instant before which no timer is due. -/
structure Arriving (target : Instant) (clock : Clock Task) : Prop extends Tidy clock where
  there : Span.Whole target
  noEarlier : ∀ entry ∈ clock.timers, target ≤ entry.2.due

/-- On the way there, timers tick at that instant only. -/
theorem Arriving.beat (arriving : Arriving target scene.timers)
    (next : scene.timers.nextDue? target = some due) :
    due.deadline = target ∧ Arriving target (scene.beat Work.tick due).timers ∧
      (scene.beat Work.tick due).timers.now = target ∧
      (scene.beat Work.tick due).timers.dueBy target < scene.timers.dueBy target := by
  obtain ⟨timer, takes⟩ := Clock.takes_of_nextDue? arriving.orderly next
  have deadline_eq : due.deadline = target :=
    Nat.le_antisymm takes.deadline_le (takes.due_eq ▸ arriving.noEarlier _ takes.member)
  have stands : (scene.beat Work.tick due).timers.now = target :=
    (World.now_beat _ due scene).trans deadline_eq
  have tidy : Tidy (scene.beat Work.tick due).timers := arriving.toTidy.beat next
  have fewer : (scene.beat Work.tick due).timers.dueBy due.deadline <
      scene.timers.dueBy due.deadline := World.dueBy_beat_lt takes arriving.orderly
  exact ⟨deadline_eq, ⟨tidy, arriving.there, fun entry member =>
    stands ▸ tidy.orderly.now_le_due entry member⟩, stands, deadline_eq ▸ fewer⟩

/-- The clock can be moved to its next deadline, where it comes to rest. -/
theorem drain_rests {ticks : Nat} (arriving : Arriving target scene.timers)
    (enough : scene.timers.dueBy target < ticks) :
    ∃ after, World.drain Clock.service Work.tick ticks target scene = some after ∧
      Resting after.timers ∧ after.timers.now = target := by
  induction ticks generalizing scene with
  | zero => exact absurd enough (Nat.not_lt_zero _)
  | succ ticks ih =>
      rw [World.drain_succ still_tick]
      cases next : scene.timers.nextDue? target with
      | none => exact ⟨scene.arrive target, rfl, arriving.toTidy.arrive arriving.there next, rfl⟩
      | some due =>
          obtain ⟨-, arrivingNext, -, fewer⟩ := arriving.beat next
          exact ih arrivingNext (Nat.lt_of_lt_of_le fewer (Nat.le_of_lt_succ enough))

/-! ## Performances between two moves -/

namespace Progress

variable {progress : Progress σ} {budget deadline : Instant}

/-- The clock is at rest, and every callback that was ready has been called. -/
structure AtRest (progress : Progress σ) : Prop where
  clock : Resting progress.scene.timers
  ready_eq : progress.scene.state.ready = []

/-- Going on with the script takes no time. -/
theorem AtRest.speak (atRest : progress.AtRest) (whole : interval.Whole)
    (dialogue : σ → Dialogue σ) :
    (progress.speak interval dialogue).AtRest ∧
      (progress.speak interval dialogue).scene.timers.now = progress.scene.timers.now := by
  obtain ⟨failure, script, scene, sleeps⟩ := progress
  cases failure with
  | some text => exact ⟨atRest, rfl⟩
  | none =>
      obtain ⟨rests, now, ready⟩ := atRest.clock.converse whole (dialogue script)
      exact ⟨⟨rests, ready.trans atRest.ready_eq⟩, now⟩

theorem AtRest.callAll (atRest : progress.AtRest) (performer : Performer σ)
    (whole : interval.Whole) (callbacks : List ObjectId) :
    (progress.callAll performer interval callbacks).AtRest ∧
      (progress.callAll performer interval callbacks).scene.timers.now =
        progress.scene.timers.now := by
  induction callbacks generalizing progress with
  | nil => exact ⟨atRest, rfl⟩
  | cons callback callbacks ih =>
      obtain ⟨rests, now⟩ := atRest.speak whole fun script => performer.call script callback
      obtain ⟨restsAll, nowAll⟩ := ih rests
      exact ⟨restsAll, nowAll.trans now⟩

/-- The performance with its ready callbacks taken away. -/
def emptied (progress : Progress σ) : Progress σ :=
  { progress with
    scene := { progress.scene with state := { progress.scene.state with ready := [] } } }

theorem atRest_callReady (performer : Performer σ) (resting : Resting progress.scene.timers)
    (whole : interval.Whole) :
    (progress.callReady performer interval).AtRest ∧
      (progress.callReady performer interval).scene.timers.now = progress.scene.timers.now :=
  have atRest : progress.emptied.AtRest := ⟨resting, rfl⟩
  atRest.callAll performer whole _

theorem nextStop?_eq_some :
    progress.nextStop? budget = some deadline ↔
      progress.failure = none ∧ progress.scene.timers.nextDeadline? = some deadline ∧
        deadline ≤ budget := by
  rw [nextStop?]
  cases progress.failure <;> simp [Option.filter_eq_some_iff]

/-- A performance stops when something has failed, or when every timer that is left is due
beyond the budget. -/
theorem nextStop?_eq_none :
    progress.nextStop? budget = none ↔
      progress.failure ≠ none ∨ ∀ entry ∈ progress.scene.timers.timers, budget < entry.2.due := by
  rw [nextStop?]
  cases progress.failure with
  | some text => simp
  | none =>
      cases next : progress.scene.timers.nextDeadline? with
      | none => simp [Clock.nextDeadline?_eq_none.mp next]
      | some deadline =>
          obtain ⟨⟨first, firstMem, due_eq⟩, least⟩ := Clock.nextDeadline?_eq_some.mp next
          simp only [Option.filter_eq_none_iff, Option.some.injEq, forall_eq', decide_eq_true_eq,
            Nat.not_le, ne_eq, not_true_eq_false, false_or]
          exact ⟨fun beyond entry member => Nat.lt_of_lt_of_le beyond (least entry member),
            fun beyond => due_eq ▸ beyond first firstMem⟩

/-- The clock can be moved to its next deadline, which is at least a millisecond away. -/
theorem exists_moveTo (resting : Resting progress.scene.timers)
    (next : progress.scene.timers.nextDeadline? = some deadline) (realtime : Bool) :
    ∃ scene, progress.moveTo realtime deadline =
        some { progress.pause realtime deadline with scene } ∧
      World.drain Clock.service Work.tick (progress.scene.timers.active + 1) deadline
        progress.scene = some scene ∧
      Arriving deadline progress.scene.timers ∧ Resting scene.timers ∧
      scene.timers.now = deadline ∧
      progress.scene.timers.now + Span.ofMs 1 ≤ deadline := by
  obtain ⟨⟨first, firstMem, due_eq⟩, least⟩ := Clock.nextDeadline?_eq_some.mp next
  have there : Span.Whole deadline := due_eq ▸ (resting.whole.timers first firstMem).due
  have ahead : progress.scene.timers.now < deadline := due_eq ▸ resting.later first firstMem
  have few : progress.scene.timers.dueBy deadline < progress.scene.timers.active + 1 :=
    Nat.lt_succ_of_le List.countP_le_length
  have arriving : Arriving deadline progress.scene.timers :=
    ⟨resting.toTidy, there, least⟩
  obtain ⟨scene, drained, rests, now⟩ := drain_rests arriving few
  refine ⟨scene, ?_, drained, arriving, rests, now, resting.whole.now.add_le there ahead⟩
  have arrives : progress.scene.timers.now + (deadline - progress.scene.timers.now) = deadline :=
    Nat.add_sub_cancel' (Nat.le_of_lt ahead)
  simp only [moveTo, pause, World.advance, arrives, drained, Option.map_some]

end Progress

end Performance

end PageWatch
