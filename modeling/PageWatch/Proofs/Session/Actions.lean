import PageWatch.Proofs.Wait.Chain
import PageWatch.Session.Run

/-!
# What actions set off

An action may start timers and waits, which carry further actions.  A property of actions that is
asked of everything that an action can set off is asked of the actions that are carried as well.

Most of what a session does leaves the clock alone: its checks, its notices, its waits up to their
callbacks, and all actions but those that ask for the clock to be moved.
-/

namespace PageWatch.Session

mutual

/-- Whether something holds of an action and of all that it can set off. -/
def Action.everywhere (holds : Action → Bool) : Action → Bool
  | .schedule name interval ticks =>
    holds (.schedule name interval ticks) && everywhereInLists holds ticks
  | .wait label target interval next =>
    holds (.wait label target interval next) && everywhereInList holds next
  | action => holds action

/-- The same for a list of actions. -/
def everywhereInList (holds : Action → Bool) : List Action → Bool
  | [] => true
  | action :: more => action.everywhere holds && everywhereInList holds more

/-- The same for the actions of the ticks of a timer. -/
def everywhereInLists (holds : Action → Bool) : List (List Action) → Bool
  | [] => true
  | actions :: more => everywhereInList holds actions && everywhereInLists holds more

end

theorem Action.holds_of_everywhere {holds : Action → Bool} {action : Action}
    (all : action.everywhere holds = true) : holds action = true := by
  cases action with
  | schedule name interval ticks =>
      rw [everywhere, Bool.and_eq_true] at all
      exact all.1
  | wait label target interval next =>
      rw [everywhere, Bool.and_eq_true] at all
      exact all.1
  | mark | advance | sleep | jump | clear | cancel | load | set | reply | select | unknown =>
      exact all

/-- Whether an action asks for the clock to be moved. -/
def Action.moves : Action → Bool
  | .advance _ => true
  | _ => false

theorem Action.exists_of_moves {action : Action} (moves : action.moves = true) :
    ∃ span, action = .advance span := by
  cases action with
  | advance span => exact ⟨span, rfl⟩
  | mark | sleep | jump | clear | schedule | cancel | wait | load | set | reply | select
  | unknown => exact absurd moves nofun

theorem Work.perform_advance (setup : Setup) (span : Span) :
    perform setup (.advance span) =
      if setup.byHand then .advance span (.done .nothing) else .done .unsupported := by
  simp [perform, simple]

/-- Whether an action clears the timers. -/
def Action.clears : Action → Bool
  | .clear => true
  | _ => false

/-- Something holds of everything that the actions carried by a task can set off. -/
def Task.Carries (holds : Action → Bool) : Task → Prop
  | .bare _ ticks => everywhereInLists holds ticks = true
  | .wait polled =>
    ∀ sequel, polled.callback = some sequel → everywhereInList holds sequel.final.next = true

/-- A wait that is to run its callback now has such a callback. -/
def Brings (holds : Action → Bool) (progress : Wait.Progress Callback) : Prop :=
  ∀ callback, progress = .met callback → everywhereInList holds callback.next = true

/-! ## What leaves the clock alone -/

namespace Work

variable {setup : Setup} {clears : Prop} {kind : Task → Prop} {holds : Action → Bool}

theorem modest_record (event : Event) :
    (record event).Modest clears kind fun _ => True := fun _ _ => trivial

theorem modest_query (setup : Setup) (selector : String) :
    (query setup selector).Modest clears kind fun _ => True := by
  rw [query]
  cases setup.queries with
  | true => exact (modest_record _).bind fun _ _ _ _ => trivial
  | false => exact fun _ _ => trivial

theorem modest_check (setup : Setup) (condition : Condition) :
    (check setup condition).Modest clears kind fun _ => True := by
  cases condition with
  | page condition =>
      have checked : (condition.check (query setup)).Modest clears kind fun _ => True :=
        (modest_query setup condition.selector).bind fun _ _ => trivial
      exact checked.bind fun _ _ => trivial
  | prepared label replies fallible => exact (modest_record _).bind fun _ _ => trivial

/-- A row of waits hands its callback on to its timers. -/
theorem modest_run (setup : Setup) {sequel : Sequel Condition Callback}
    (all : everywhereInList holds sequel.final.next = true) :
    (sequel.run (host setup)).Modest clears (Task.Carries holds) (Brings holds) := by
  induction sequel with
  | callback value =>
      intro callback met
      rw [Wait.Progress.met.inj met] at all
      exact all
  | wait condition interval sequel ih =>
      apply (modest_check setup condition).bind
      intro checked _
      obtain ⟨answer, condition⟩ := checked
      rcases answer with error | _ | _
      · exact (modest_record _).bind fun _ _ => nofun
      · apply (modest_record _).bind
        intro _ _
        refine ⟨?_, fun _ => nofun⟩
        intro handle other same
        rw [← Option.some.inj same]
        exact all
      · exact ih all

theorem modest_awaitAll (setup : Setup) {waiter : Waiter Condition Callback}
    (all : everywhereInList holds waiter.sequel.final.next = true) (conditions : List Condition) :
    (waiter.awaitAll (host setup) conditions).Modest clears (Task.Carries holds)
      (Brings holds) := by
  rw [Waiter.awaitAll_eq]
  apply modest_run
  rw [Sequel.final_row]
  exact all

theorem modest_poll (setup : Setup) {wait : Wait Condition (Sequel Condition Callback)}
    (all : Task.Carries holds (.wait wait)) :
    (wait.tick (host setup) (Sequel.run (host setup))).Modest clears (Task.Carries holds)
      fun polled => Task.Carries holds (.wait polled.1) ∧ Brings holds polled.2 := by
  obtain ⟨condition, callback, slot⟩ := wait
  cases callback with
  | none => exact ⟨all, nofun⟩
  | some sequel =>
      have stop : (Routine.cancelSlot slot : Work Unit).Modest clears (Task.Carries holds)
          fun _ => True := .cancelSlot slot
      apply (modest_check setup condition).bind
      intro checked _
      obtain ⟨answer, condition⟩ := checked
      rcases answer with error | _ | _
      · exact stop.bind fun _ _ => (modest_record _).bind fun _ _ => ⟨nofun, nofun⟩
      · exact ⟨all, nofun⟩
      · exact stop.bind fun _ _ => (modest_record _).bind fun _ _ =>
          (modest_run setup (all sequel rfl)).bind fun _ brings => ⟨nofun, brings⟩

theorem modest_setValue (selector value : String) :
    (setValue selector value).Modest clears kind fun _ => True := by
  have sets (change : State → Outcome × State) :
      (Routine.update change : Work Outcome).Modest clears kind fun _ => True :=
    fun _ _ => trivial
  apply (sets _).bind
  intro outcome _
  cases outcome with
  | count controls => exact (modest_record _).bind fun _ _ => trivial
  | nothing | unsupported | noSuchName | unknownAction | nodes | failed => trivial

theorem modest_simple (setup : Setup) {action : Action} (stays : action.moves = false)
    (clearing : action.clears = true → clears) (all : action.everywhere holds = true) :
    (simple setup action).Modest clears (Task.Carries holds) fun _ => True := by
  cases action with
  | advance span => simp [Action.moves] at stays
  | mark text => exact (modest_record _).bind fun _ _ => trivial
  | clear =>
      rw [simple]
      cases setup.byHand with
      | true => exact ⟨clearing rfl, trivial⟩
      | false => trivial
  | schedule name interval ticks =>
      rw [Action.everywhere, Bool.and_eq_true] at all
      exact ⟨fun _ => all.2, fun _ _ _ => trivial⟩
  | cancel name =>
      intro _ state
      simp only [Routine.bind]
      cases state.names.lookup name <;> trivial
  | load html => exact fun _ _ => trivial
  | set selector value => exact modest_setValue selector value
  | reply selector replies => exact fun _ _ => trivial
  | select selector =>
      apply (modest_query setup selector).bind
      intro answer _
      cases answer <;> trivial
  | sleep | jump | wait | unknown => trivial

mutual

/-- An action leaves the clock alone if none of what it can set off moves it. -/
theorem modest_perform (setup : Setup)
    (rests : ∀ action, holds action = true →
      action.moves = false ∧ (action.clears = true → clears)) :
    ∀ action : Action, action.everywhere holds = true →
      (perform setup action).Modest clears (Task.Carries holds) fun _ => True
  | .wait label target interval next, all => by
      rw [Action.everywhere, Bool.and_eq_true] at all
      rw [perform]
      apply (modest_awaitAll setup all.2 _).bind
      intro progress _
      cases progress with
      | met callback =>
          exact (modest_record _).bind fun _ _ =>
            (modest_performAll setup rests next all.2).bind fun _ _ => trivial
      | waiting | dropped => trivial
  | .mark _, all | .advance _, all | .sleep _, all | .jump _, all | .clear, all
  | .schedule _ _ _, all | .cancel _, all | .load _, all | .set _ _, all | .reply _ _, all
  | .select _, all | .unknown, all =>
      modest_simple setup (rests _ (Action.holds_of_everywhere all)).1
        (rests _ (Action.holds_of_everywhere all)).2 all

theorem modest_performAll (setup : Setup)
    (rests : ∀ action, holds action = true →
      action.moves = false ∧ (action.clears = true → clears)) :
    ∀ actions : List Action, everywhereInList holds actions = true →
      (performAll setup actions).Modest clears (Task.Carries holds) fun _ => True
  | [], _ => trivial
  | action :: more, all => by
      rw [everywhereInList, Bool.and_eq_true] at all
      rw [performAll]
      apply (modest_perform setup rests action all.1).bind
      intro outcome _
      by_cases telling : outcome ≠ .nothing
      · simp only [if_pos telling]
        exact (modest_record _).bind fun _ _ => modest_performAll setup rests more all.2
      · simp only [if_neg telling]
        exact modest_performAll setup rests more all.2

end

theorem modest_tick (setup : Setup)
    (rests : ∀ action, holds action = true →
      action.moves = false ∧ (action.clears = true → clears))
    (handle : Handle) (task : Task) (all : Task.Carries holds task) :
    (tick setup handle task).Modest clears (Task.Carries holds) (Task.Carries holds) := by
  cases task with
  | bare name ticks =>
      apply (modest_record _).bind
      intro _ _
      cases ticks with
      | nil => exact all
      | cons actions more =>
          rw [Task.Carries, everywhereInLists, Bool.and_eq_true] at all
          exact (modest_performAll setup rests actions all.1).bind fun _ _ => all.2
  | wait polled =>
      apply (modest_poll setup all).bind
      intro ticked carried
      obtain ⟨polled, progress⟩ := ticked
      cases progress with
      | met callback =>
          exact (modest_record _).bind fun _ _ =>
            (modest_performAll setup rests callback.next (carried.2 callback rfl)).bind
              fun _ _ => carried.1
      | waiting | dropped => exact carried.1

/-! ## Such routines are still -/

theorem still_record (event : Event) : (record event).Still := fun _ _ => trivial

theorem still_host (setup : Setup) : (host setup).Still where
  check condition := by
    have modest : (check setup condition).Modest True (fun _ => True) fun _ => True :=
      modest_check setup condition
    exact modest.still
  report notice := still_record (.notice notice)

theorem still_awaitAll (setup : Setup) (waiter : Waiter Condition Callback)
    (conditions : List Condition) : (waiter.awaitAll (host setup) conditions).Still := by
  rw [Waiter.awaitAll_eq]
  exact Sequel.still_run (still_host setup) _

theorem still_poll (setup : Setup) (wait : Wait Condition (Sequel Condition Callback)) :
    (wait.tick (host setup) (Sequel.run (host setup))).Still :=
  Wait.still_tick (still_host setup) (Sequel.still_run (still_host setup)) wait

end Work

end PageWatch.Session
