import PageWatch.Proofs.Clock.Nesting
import PageWatch.Proofs.Session.Actions

/-!
# Sessions come to an end

The ticks and callbacks of a session may move the clock themselves, but every list of actions is
carried out once at most.  So the time by which everything that is still to come can move the clock
is a budget for it, and a session comes to an end whatever its actions are.
-/

namespace PageWatch.Session

/-- By how much all that a task carries can move the clock. -/
def Task.reach : Task → Nat
  | .bare _ ticks => (weightOfLists ticks).spanMs
  | .wait polled =>
    match polled.callback with
    | some sequel => (weightOfList sequel.final.next).spanMs
    | none => 0

/-- What is owed to a callback that is to run now. -/
def owed (weighs : Callback → Nat) : Wait.Progress Callback → Nat
  | .met callback => weighs callback
  | _ => 0

namespace Work

open Routine (Within)

/-- A row of waits leaves to its callback what it costs, or gives it to a timer. -/
theorem within_run (setup : Setup) (weighs : Callback → Nat) (sequel : Sequel Condition Callback)
    (fits : weighs sequel.final = (weightOfList sequel.final.next).spanMs) :
    (sequel.run (host setup)).Within Task.reach (owed weighs)
      (weightOfList sequel.final.next).spanMs := by
  induction sequel with
  | callback value => exact Nat.le_of_eq fits
  | wait condition interval sequel ih =>
      apply Within.of_modest_bind (modest_check setup condition)
      intro checked
      obtain ⟨answer, condition⟩ := checked
      rcases answer with error | _ | _
      · exact Within.of_modest_bind (modest_record _) fun _ => Nat.zero_le _
      · apply Within.of_modest_bind (modest_record _)
        intro _
        exact ⟨_, 0, Nat.le_refl _, fun handle => ⟨Nat.le_refl _, Nat.le_refl _⟩⟩
      · exact ih fits

theorem within_awaitAll (setup : Setup) (waiter : Waiter Condition Callback)
    (conditions : List Condition) :
    (waiter.awaitAll (host setup) conditions).Within Task.reach
      (owed fun _ => (weightOfList waiter.sequel.final.next).spanMs)
      (weightOfList waiter.sequel.final.next).spanMs := by
  rw [Waiter.awaitAll_eq, ← Sequel.final_row waiter.interval waiter.sequel conditions]
  exact within_run setup _ _ rfl

theorem within_poll (setup : Setup) (wait : Wait Condition (Sequel Condition Callback)) :
    (wait.tick (host setup) (Sequel.run (host setup))).Within Task.reach
      (fun polled => owed (fun callback => (weightOfList callback.next).spanMs) polled.2 +
        (Task.wait polled.1).reach) (Task.wait wait).reach := by
  obtain ⟨condition, callback, slot⟩ := wait
  cases callback with
  | none => exact Nat.le_refl _
  | some sequel =>
      have stops : (Routine.cancelSlot slot : Work Unit).Modest False
          (fun task => task.reach = 0) fun _ => True := .cancelSlot slot
      apply Within.of_modest_bind (modest_check setup condition)
      intro checked
      obtain ⟨answer, condition⟩ := checked
      rcases answer with error | _ | _
      · exact Within.of_modest_bind stops fun _ =>
          Within.of_modest_bind (modest_record _) fun _ => Nat.zero_le _
      · exact Nat.le_of_eq (Nat.zero_add _)
      · exact Within.of_modest_bind stops fun _ =>
          Within.of_modest_bind (modest_record _) fun _ =>
            (within_run setup _ sequel rfl).bind fun _ => Nat.le_refl _

theorem within_simple (setup : Setup) (action : Action) :
    (simple setup action).Within Task.reach (fun _ => 0) action.weight.spanMs := by
  cases action with
  | mark text => exact Within.of_modest_bind (modest_record _) fun _ => Nat.zero_le _
  | advance span =>
      rw [simple]
      cases setup.byHand with
      | true => exact ⟨0, Nat.succ_pos _, Nat.le_refl 0⟩
      | false => exact Nat.zero_le _
  | clear =>
      rw [simple]
      cases setup.byHand <;> exact Nat.zero_le _
  | schedule name interval ticks =>
      exact ⟨_, 0, Nat.le_refl _, fun handle => ⟨Nat.le_refl _, fun _ _ => Nat.le_refl 0⟩⟩
  | cancel name =>
      intro _ state
      simp only [Routine.bind]
      cases state.names.lookup name <;> exact Nat.zero_le _
  | load html => exact fun _ _ => Nat.zero_le _
  | set selector value =>
      exact Within.of_modest (modest_setValue selector value) fun _ _ => Nat.zero_le _
  | reply selector replies => exact fun _ _ => Nat.zero_le _
  | select selector =>
      apply Within.of_modest_bind (modest_query setup selector)
      intro answer
      cases answer <;> exact Nat.zero_le _
  | sleep | jump | wait | unknown => exact Nat.zero_le _

/-- What a wait can set off is what its callback can. -/
theorem spanMs_wait (label : String) (target : Target) (interval : Option Span)
    (next : List Action) :
    (Action.wait label target interval next).weight.spanMs = (weightOfList next).spanMs := by
  cases target <;> rfl

mutual

/-- An action keeps within the time by which all that it can set off can move the clock. -/
theorem within_perform (setup : Setup) : ∀ action : Action,
    (perform setup action).Within Task.reach (fun _ => 0) action.weight.spanMs
  | .wait label target interval next => by
      let waiter : Waiter Condition Callback :=
        ⟨.callback ⟨label, next⟩, interval.getD (usualInterval setup target)⟩
      rw [spanMs_wait, perform]
      apply (within_awaitAll setup waiter (conditions label target)).bind
      intro progress
      cases progress with
      | met callback =>
          exact Within.of_modest_bind (modest_record _) fun _ =>
            (within_performAll setup next).bind fun _ => Nat.le_refl 0
      | waiting | dropped => exact Nat.le_refl 0
  | .mark _ | .advance _ | .sleep _ | .jump _ | .clear | .schedule _ _ _ | .cancel _ | .load _
  | .set _ _ | .reply _ _ | .select _ | .unknown => within_simple setup _

theorem within_performAll (setup : Setup) : ∀ actions : List Action,
    (performAll setup actions).Within Task.reach (fun _ => 0) (weightOfList actions).spanMs
  | [] => Nat.zero_le _
  | action :: more => by
      have total : (weightOfList more).spanMs + action.weight.spanMs ≤
          (weightOfList (action :: more)).spanMs := Nat.le_of_eq (Nat.add_comm _ _)
      rw [performAll]
      apply (((within_perform setup action).frame (weightOfList more).spanMs).mono total).bind
      intro outcome
      by_cases telling : outcome ≠ .nothing
      · simp only [if_pos telling]
        exact Within.of_modest_bind (modest_record _) fun _ => within_performAll setup more
      · simp only [if_neg telling]
        exact within_performAll setup more

end

/-- A tick keeps within the time by which all that its task carries can move the clock. -/
theorem within_tick (setup : Setup) (handle : Handle) (task : Task) :
    (tick setup handle task).Within Task.reach Task.reach task.reach := by
  cases task with
  | bare name ticks =>
      apply Within.of_modest_bind (modest_record _)
      intro _
      cases ticks with
      | nil => exact Nat.le_refl 0
      | cons actions more =>
          have total : (weightOfLists more).spanMs + (weightOfList actions).spanMs ≤
              (weightOfLists (actions :: more)).spanMs := Nat.le_of_eq (Nat.add_comm _ _)
          exact (((within_performAll setup actions).frame _).mono total).bind
            fun _ => Nat.le_refl _
  | wait polled =>
      apply (within_poll setup polled).bind
      intro ticked
      obtain ⟨polled, progress⟩ := ticked
      cases progress with
      | met callback =>
          apply Within.of_modest_bind (modest_record _)
          intro _
          have total : (Task.wait polled).reach + (weightOfList callback.next).spanMs ≤
              (weightOfList callback.next).spanMs + (Task.wait polled).reach :=
            Nat.le_of_eq (Nat.add_comm _ _)
          exact (((within_performAll setup callback.next).frame _).mono total).bind
            fun _ => Nat.le_refl _
      | waiting | dropped => exact Nat.le_add_left _ _

end Work

/-! ## Sessions -/

/-- The world in which the next action of a session starts. -/
def between {κ : Type} (world : World κ State) : World κ State :=
  ⟨world.timers, (takeLog world.state).2⟩

/-- What is seen after an action on a clock that is moved by hand. -/
def seenOnClock (outcome : Outcome) (world : World.Clocked Task State) : ClockStep :=
  ⟨⟨outcome, (takeLog world.state).1, world.timers.now, world.timers.active⟩,
    world.timers.scheduled, world.timers.nextDeadline?⟩

theorem runOnClock_cons (setup : Setup) (ticks : Nat) (action : Action) (more : List Action)
    (world : World.Clocked Task State) :
    runOnClock setup Clock.service ticks (action :: more) world =
      (world.perform Clock.service (Work.tick setup) ticks (Work.perform setup action)).bind
        fun ended => (runOnClock setup Clock.service ticks more (between ended.2)).map
          (seenOnClock ended.1 ended.2 :: ·) := by
  rw [runOnClock, Option.bind_eq_bind]
  congr 1
  funext ended
  exact (Option.map_eq_bind ..).symm

/-- Moving the clock of a session comes to an end. -/
theorem move_comesTo (setup : Setup) (span : Span) (world : World.Clocked Task State)
    (regular : world.timers.Regular) :
    ∃ after, ComesTo (fun ticks =>
        World.advance Clock.service (Work.tick setup) ticks span world) after ∧
      after.timers.Regular ∧ after.timers.weight Task.reach ≤ world.timers.weight Task.reach :=
  World.drain_comesTo (Work.within_tick setup) (world.timers.now + span) 0 world regular
    fun _ _ _ => Nat.zero_le _

/-- Every session comes to an end. -/
theorem runOnClock_comesTo (setup : Setup) (actions : List Action)
    (world : World.Clocked Task State) (regular : world.timers.Regular) :
    ∃ steps, ComesTo (fun ticks => runOnClock setup Clock.service ticks actions world) steps := by
  induction actions generalizing world with
  | nil => exact ⟨[], .always fun _ => rfl⟩
  | cons action more ih =>
      obtain ⟨ended, performs, spent⟩ := World.run_ends (Work.within_perform setup action) world
        regular fun span inner sound _ => move_comesTo setup span inner sound
      obtain ⟨steps, onward⟩ := ih (between ended.2) spent.regular
      refine ⟨seenOnClock ended.1 ended.2 :: steps, ?_⟩
      simp only [runOnClock_cons]
      apply ComesTo.bind performs
      exact onward.map _

end PageWatch.Session
