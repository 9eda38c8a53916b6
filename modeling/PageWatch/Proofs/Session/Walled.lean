import PageWatch.Proofs.Clock.Sleeping
import PageWatch.Proofs.Session.Ending

/-!
# Sessions on the wall clock

A session that sleeps on the wall clock shows what it shows on a clock that is moved by hand for as
long, unless it clears its timers, moves the clock from within a tick, or sets the wall clock.

The timers on the wall clock are tasks of their own, so the order of those that become due at one
instant is open.  As long as no two live timers are due together, it makes no difference.
-/

namespace PageWatch.Session

/-! ## Actions that suit either clock -/

/-- Whether an action does the same on either clock, all that it sets off apart. -/
def Action.timeless : Action → Bool
  | .advance _ | .sleep _ | .jump _ | .clear => false
  | _ => true

/-- Whether a session on either clock may contain an action: it lets time go by, or neither it nor
anything that it can set off touches the clock. -/
def Action.steady (action : Action) : Bool := action.moves || action.everywhere Action.timeless

/-- What lets as much time go by on the wall clock. -/
def Action.slept : Action → Action
  | .advance span => .sleep span
  | action => action

theorem Action.rests_of_timeless {clears : Prop} (action : Action)
    (timeless : action.timeless = true) :
    action.moves = false ∧ (action.clears = true → clears) := by
  cases action with
  | advance | clear => exact absurd timeless nofun
  | mark | sleep | jump | schedule | cancel | wait | load | set | reply | select | unknown =>
      exact ⟨rfl, nofun⟩

theorem Action.slept_of_timeless {action : Action} (timeless : action.timeless = true) :
    action.slept = action := by
  cases action with
  | advance => exact absurd timeless nofun
  | mark | sleep | jump | clear | schedule | cancel | wait | load | set | reply | select
  | unknown => rfl

namespace Work

variable (setup : Setup) (byHand : Bool)

mutual

/-- What clock there is makes no difference to actions that suit either. -/
theorem perform_byHand : ∀ action : Action, action.everywhere Action.timeless = true →
    perform { setup with byHand } action = perform setup action
  | .wait label target interval next, all => by
      rw [Action.everywhere, Bool.and_eq_true] at all
      rw [perform, perform, performAll_byHand next all.2]
      rfl
  | .mark _, _ | .schedule _ _ _, _ | .cancel _, _ | .load _, _ | .set _ _, _ | .reply _ _, _
  | .select _, _ | .unknown, _ => rfl

theorem performAll_byHand : ∀ actions : List Action,
    everywhereInList Action.timeless actions = true →
      performAll { setup with byHand } actions = performAll setup actions
  | [], _ => rfl
  | action :: more, all => by
      rw [everywhereInList, Bool.and_eq_true] at all
      rw [performAll, performAll, perform_byHand action all.1, performAll_byHand more all.2]

end

theorem tick_byHand (handle : Handle) (task : Task) (all : Task.Carries Action.timeless task) :
    tick { setup with byHand } handle task = tick setup handle task := by
  cases task with
  | bare name ticks =>
      cases ticks with
      | nil => rfl
      | cons actions more =>
          rw [Task.Carries, everywhereInLists, Bool.and_eq_true] at all
          rw [tick, tick, performAll_byHand setup byHand actions all.1]
  | wait polled =>
      have carried : (polled.tick (host setup) (Sequel.run (host setup))).Modest False
          (Task.Carries Action.timeless) _ := modest_poll setup all
      apply carried.bind_congr
      intro ticked carries
      obtain ⟨polled, progress⟩ := ticked
      cases progress with
      | met callback =>
          simp only [performAll_byHand setup byHand callback.next (carries.2 callback rfl)]
      | waiting | dropped => rfl

/-- Ticks that set off only what suits either clock do the same on both. -/
theorem alike_tick : Behaviour.Alike (Task.Carries Action.timeless)
    (tick { setup with byHand := true }) (tick { setup with byHand := false }) where
  same handle task all := by rw [tick_byHand setup true _ _ all, tick_byHand setup false _ _ all]
  modest := modest_tick _ Action.rests_of_timeless

end Work

/-! ## Steps of a session -/

/-- What is seen after an action among timers on the wall clock. -/
def seenOnWall (outcome : Outcome) (world : World.Walled Task State) : Step :=
  ⟨outcome, (takeLog world.state).1, world.timers.now, world.timers.active⟩

theorem runOnWall_cons (setup : Setup) (ticks : Nat) (action : Action) (more : List Action)
    (world : World.Walled Task State) :
    runOnWall setup ticks (action :: more) world =
      (performOnWall setup ticks action world).bind fun ended =>
        (runOnWall setup ticks more (between ended.2)).map (seenOnWall ended.1 ended.2 :: ·) := by
  rw [runOnWall, Option.bind_eq_bind]
  congr 1
  funext ended
  exact (Option.map_eq_bind ..).symm

/-- What a session may show among timers on the wall clock, where the tasks that become due at one
instant run in any order. -/
inductive WallRuns (setup : Setup) : List Action → World.Walled Task State → List Step → Prop where
  | ended {world : World.Walled Task State} : WallRuns setup [] world []
  | slept {span : Span} {more : List Action} {world woken : World.Walled Task State}
    {steps : List Step}
    (sleeps : World.Sleeps (Work.tick setup) (world.timers.now + span) world woken)
    (onward : WallRuns setup more (between woken) steps) :
    WallRuns setup (.sleep span :: more) world (seenOnWall .nothing woken :: steps)
  | acted {action : Action} {more : List Action} {world after : World.Walled Task State}
    {outcome : Outcome} {steps : List Step} (timeless : action.timeless = true)
    (acts : World.performWalled (Work.perform setup action) world = (outcome, after))
    (onward : WallRuns setup more (between after) steps) :
    WallRuns setup (action :: more) world (seenOnWall outcome after :: steps)

/-- No two live timers ever fall due together in a session on a clock that is moved by hand. -/
def Apart (setup : Setup) : List Action → World.Clocked Task State → Prop
  | [], _ => True
  | action :: more, world =>
    (∀ span, action = .advance span → ∀ ticks,
      World.apart (Work.tick setup) (world.timers.now + span) ticks world = true) ∧
    ∀ ticks outcome after,
      world.perform Clock.service (Work.tick setup) ticks (Work.perform setup action) =
          some (outcome, after) →
        Apart setup more (between after)

/-- The tasks of a session as they are between two actions. -/
abbrev Waiting (world : World.Walled Task State) : Prop :=
  world.timers.Ready (Task.Carries Action.timeless) fun _ => False

theorem toStep_seenOnClock {world : World.Walled Task State} (waiting : Waiting world)
    (outcome : Outcome) :
    (seenOnClock outcome world.live).toStep = seenOnWall outcome world := by
  have active : world.timers.live.active = world.timers.active := by
    rw [WallClock.active, waiting.lawful.running, Clock.handles, List.length_map, Clock.active]
  simp only [seenOnClock, seenOnWall, World.live, active]
  rfl

section Steps

variable {setup : Setup} {world : World.Walled Task State}

/-- An action that suits either clock does on the live clock what it does among the tasks. -/
theorem acts_alike (waiting : Waiting world) {action : Action}
    (all : action.everywhere Action.timeless = true) {after : World.Walled Task State}
    {outcome : Outcome}
    (acts : World.performWalled (Work.perform { setup with byHand := false } action) world =
      (outcome, after)) :
    Waiting after ∧ ∀ ticks,
      world.live.perform Clock.service (Work.tick { setup with byHand := true }) ticks
        (Work.perform { setup with byHand := true } action) = some (outcome, after.live) := by
  have modest : (Work.perform setup action).Modest False _ _ :=
    Work.modest_perform setup Action.rests_of_timeless action all
  rw [Work.perform_byHand setup false action all] at acts
  obtain ⟨same, after, -, -⟩ := waiting.act modest world.state
  rw [World.performWalled] at acts
  simp only [acts] at same after
  refine ⟨after, fun ticks => ?_⟩
  rw [Work.perform_byHand setup true action all, World.perform,
    Routine.run_eq_act _ _ modest.still]
  exact congrArg some same

/-- Moving the clock by hand is an action that shows nothing. -/
theorem perform_advance (setup : Setup) (ticks : Nat) (span : Span)
    (world : World.Clocked Task State) :
    world.perform Clock.service (Work.tick { setup with byHand := true }) ticks
        (Work.perform { setup with byHand := true } (.advance span)) =
      (World.drain Clock.service (Work.tick { setup with byHand := true }) ticks
        (world.timers.now + span) world).map fun after => (.nothing, after) :=
  (Option.map_eq_bind ..).symm

/-- Sleeping is an action that shows nothing. -/
theorem perform_sleep (setup : Setup) (ticks : Nat) (span : Span)
    (world : World.Walled Task State) :
    performOnWall setup ticks (.sleep span) world =
      (World.sleepUntil (Work.tick setup) ticks (world.timers.now + span) world).map
        fun after => (.nothing, after) :=
  (Option.map_eq_bind ..).symm

theorem steady_cases {action : Action} (steady : action.steady = true) :
    (∃ span, action = .advance span) ∨ action.everywhere Action.timeless = true := by
  cases Bool.or_eq_true_iff.mp steady with
  | inr all => exact .inr all
  | inl moves => exact .inl (Action.exists_of_moves moves)

/-- An action on either clock leads to the same. -/
theorem exists_step (setup : Setup) (waiting : Waiting world) {action : Action}
    (steady : action.steady = true) :
    ∃ outcome after, Waiting after ∧
      ComesTo (fun ticks => world.live.perform Clock.service
        (Work.tick { setup with byHand := true }) ticks
        (Work.perform { setup with byHand := true } action)) (outcome, after.live) ∧
      ComesTo (fun ticks => performOnWall { setup with byHand := false } ticks action.slept world)
        (outcome, after) ∧
      ∀ more steps, WallRuns { setup with byHand := false } more (between after) steps →
        WallRuns { setup with byHand := false } (action.slept :: more) world
          (seenOnWall outcome after :: steps) := by
  cases steady_cases steady with
  | inl moving =>
      obtain ⟨span, rfl⟩ := moving
      obtain ⟨moved, arrives, -, -⟩ := move_comesTo { setup with byHand := true } span world.live
        waiting.lawful.live_orderly.regular
      obtain ⟨ticks, drained⟩ := arrives.once
      obtain ⟨woken, rfl, after, sleeps, wakes⟩ :=
        waiting.sleep (Work.alike_tick setup) drained
      refine ⟨.nothing, woken, after, ?_, ?_, fun _ _ => .slept sleeps⟩
      · simp only [perform_advance]
        exact arrives.map _
      · simp only [Action.slept, perform_sleep]
        exact wakes.map _
  | inr all =>
      have timeless : action.timeless = true := Action.holds_of_everywhere all
      cases acts : World.performWalled (Work.perform { setup with byHand := false } action)
        world with
      | mk outcome after =>
          obtain ⟨waits, performs⟩ := acts_alike waiting all acts
          rw [Action.slept_of_timeless timeless]
          refine ⟨outcome, after, waits, .always performs, .always fun ticks => ?_,
            fun _ _ => .acted timeless acts⟩
          rw [← acts]
          cases action with
          | sleep | jump => exact absurd timeless nofun
          | mark | advance | clear | schedule | cancel | wait | load | set | reply | select
          | unknown => rfl

/-- A session on either clock comes to an end and shows the same. -/
theorem shows_alike (setup : Setup) {actions : List Action}
    (steady : actions.all Action.steady = true) (waiting : Waiting world) :
    ∃ steps,
      ComesTo (fun ticks => runOnClock { setup with byHand := true } Clock.service ticks actions
        world.live) steps ∧
      ComesTo (fun ticks => runOnWall { setup with byHand := false } ticks
        (actions.map Action.slept) world) (steps.map ClockStep.toStep) ∧
      WallRuns { setup with byHand := false } (actions.map Action.slept) world
        (steps.map ClockStep.toStep) := by
  induction actions generalizing world with
  | nil => exact ⟨[], .always fun _ => rfl, .always fun _ => rfl, .ended⟩
  | cons action more ih =>
      rw [List.all_cons, Bool.and_eq_true] at steady
      obtain ⟨outcome, after, waits, performs, sleeps, runs⟩ :=
        exists_step setup waiting steady.1
      have ready : Waiting (between after) := waits
      obtain ⟨steps, onward, slept, showing⟩ := ih steady.2 ready
      refine ⟨seenOnClock outcome after.live :: steps, ?_, ?_, ?_⟩
      · simp only [runOnClock_cons]
        exact performs.bind (onward.map _)
      · simp only [List.map_cons, runOnWall_cons, toStep_seenOnClock waits]
        exact sleeps.bind (slept.map _)
      · rw [List.map_cons, List.map_cons, toStep_seenOnClock waits]
        exact runs _ _ showing

/-- In whatever order tasks run, the session shows what it shows on the clock that is moved by
hand, if no two timers are due together there. -/
theorem shown_of_wallRuns {actions : List Action} (steady : actions.all Action.steady = true)
    (waiting : Waiting world) (apart : Apart { setup with byHand := true } actions world.live)
    {shown : List Step}
    (runs : WallRuns { setup with byHand := false } (actions.map Action.slept) world shown) :
    ∃ steps,
      ComesTo (fun ticks => runOnClock { setup with byHand := true } Clock.service ticks actions
        world.live) steps ∧
      shown = steps.map ClockStep.toStep := by
  induction actions generalizing world shown with
  | nil =>
      cases runs with
      | ended => exact ⟨[], .always fun _ => rfl, rfl⟩
  | cons action more ih =>
      rw [List.all_cons, Bool.and_eq_true] at steady
      obtain ⟨outcome, after, others, waits, performs, onward, rfl⟩ :
          ∃ outcome after others, Waiting after ∧
            ComesTo (fun ticks => world.live.perform Clock.service
              (Work.tick { setup with byHand := true }) ticks
              (Work.perform { setup with byHand := true } action)) (outcome, after.live) ∧
            WallRuns { setup with byHand := false } (more.map Action.slept) (between after)
              others ∧
            shown = seenOnWall outcome after :: others := by
        cases steady_cases steady.1 with
        | inl moving =>
            obtain ⟨span, rfl⟩ := moving
            cases runs with
            | acted timeless => exact absurd timeless nofun
            | @slept _ _ _ woken others sleeps onward =>
                obtain ⟨waits, drains⟩ :=
                  waiting.of_sleeps (Work.alike_tick setup) (apart.1 span rfl) sleeps
                refine ⟨.nothing, woken, others, waits, ?_, onward, rfl⟩
                simp only [perform_advance]
                exact drains.map _
        | inr all =>
            have timeless : action.timeless = true := Action.holds_of_everywhere all
            rw [List.map_cons, Action.slept_of_timeless timeless] at runs
            cases runs with
            | slept => exact absurd timeless nofun
            | @acted _ _ _ after outcome others _ acts onward =>
                obtain ⟨waits, performs⟩ := acts_alike waiting all acts
                exact ⟨outcome, after, others, waits, .always performs, onward, rfl⟩
      have ready : Waiting (between after) := waits
      obtain ⟨ticks, performed⟩ := performs.once
      obtain ⟨steps, ends, rfl⟩ := ih steady.2 ready (apart.2 ticks _ _ performed) onward
      refine ⟨seenOnClock outcome after.live :: steps, ?_, ?_⟩
      · simp only [runOnClock_cons]
        exact performs.bind (ends.map _)
      · rw [List.map_cons, toStep_seenOnClock waits]

end Steps

/-- Timers on the wall clock drive a session as timers on a clock that is moved by hand do.  Take a
session in which nothing clears the timers and only the session itself lets time go by, and in
which no two live timers ever fall due together.  With sleeping in place of moving the clock it
comes to an end and shows the same after every action: the same outcome, the same events at the
same times and as many live timers.  It cannot show anything else, whichever way the tasks run. -/
theorem wall_follows_clock (setup : Setup) (page : Page) {actions : List Action}
    (steady : actions.all Action.steady = true)
    (apart : Apart { setup with byHand := true } actions ⟨Clock.start, State.start page⟩) :
    ∃ steps,
      ComesTo (fun ticks => runOnClock { setup with byHand := true } Clock.service ticks actions
        ⟨Clock.start, State.start page⟩) steps ∧
      ComesTo (fun ticks => runOnWall { setup with byHand := false } ticks
        (actions.map Action.slept) ⟨WallClock.start, State.start page⟩)
        (steps.map ClockStep.toStep) ∧
      ∀ shown, WallRuns { setup with byHand := false } (actions.map Action.slept)
          ⟨WallClock.start, State.start page⟩ shown ↔
        shown = steps.map ClockStep.toStep := by
  have waiting : Waiting ⟨WallClock.start, State.start page⟩ :=
    ⟨.start, fun _ member => absurd member List.not_mem_nil⟩
  obtain ⟨steps, moves, sleeps, showing⟩ := shows_alike setup steady waiting
  refine ⟨steps, moves, sleeps, fun shown => ⟨fun shows => ?_, ?_⟩⟩
  · obtain ⟨others, ends, rfl⟩ := shown_of_wallRuns steady waiting apart shows
    rw [ends.unique moves]
  · rintro rfl
    exact showing

/-- A bell that rings until a wait, which its first stroke starts, is met. -/
def bell : List Action :=
  [.schedule "bell" (Span.ofMs 3)
      [[.wait "rung" (.checks [.answer false, .answer true] true) none [.cancel "bell"]]],
    .advance (Span.ofMs 20)]

theorem wall_follows_clock_bell :
    bell.all Action.steady = true ∧
      Apart ⟨true, Span.ofMs 10, true⟩ bell ⟨Clock.start, State.start (.scripted default)⟩ ∧
      ∃ shown, WallRuns ⟨true, Span.ofMs 10, false⟩ (bell.map Action.slept)
          ⟨WallClock.start, State.start (.scripted default)⟩ shown ∧
        shown.map Step.active = [1, 0] ∧
        shown.map (fun step => step.log.map Prod.fst) =
          [[], [3, 3, 3, 6, 9, 12, 13, 13, 13].map Span.ofMs] := by
  have steady : bell.all Action.steady = true := rfl
  have apart : Apart ⟨true, Span.ofMs 10, true⟩ bell
      ⟨Clock.start, State.start (.scripted default)⟩ := by
    refine ⟨nofun, ?_⟩
    intro ticks outcome after performed
    obtain ⟨-, rfl⟩ := Prod.mk.inj (Option.some.inj performed)
    refine ⟨?_, fun _ _ _ _ => trivial⟩
    rintro span same (_ | _ | _ | _ | _ | _ | ticks) <;> cases same <;> rfl
  obtain ⟨steps, ⟨limit, moves⟩, -, showing⟩ :=
    wall_follows_clock ⟨true, Span.ofMs 10, true⟩ (.scripted default) steady apart
  refine ⟨steady, apart, _, (showing _).mpr rfl, ?_⟩
  have ran := moves (limit + 9) (Nat.le_add_right limit 9)
  rw [← Option.some.inj ran]
  exact ⟨rfl, rfl⟩

end PageWatch.Session
