import PageWatch.Proofs.Wait.StagedWait

/-!
# Waits for all of several elements

A wait for several elements is watched on a clock that is moved by hand: the questions to
the document, the run of its callback, and what it asks of the timers.  The clock and the
sights are those of the machine that goes through the selectors one after the other.
-/

namespace PageWatch

open Wait

variable {δ τ : Type}

/-! ## The watched wait -/

/-- The task of a timer that polls. -/
abbrev Poller := Wait PageCondition (Sequel PageCondition Unit)

def Sight.ofRequest : TimerRequest τ → Sight
  | .schedule _ timer _ => .scheduled timer
  | .cancel timer => .cancelled timer
  | .clear => .cleared

/-- Makes a request to the timers visible. -/
def Sights.note (request : TimerRequest τ) (now : Instant) (sights : Sights) : Sights :=
  sights ++ [(now, .ofRequest request)]

namespace AllElements

variable (select : Select δ) (interval : Span)

/-- Asks the document, visibly. -/
def query (selector : String) :
    Routine Poller (δ × Sights) (Except QueryError (List Match)) :=
  .look fun now state =>
    let (answer, document) := select now selector state.1
    .put (document, state.2 ++ [(now, .asked selector)]) (.done answer)

/-- The surroundings of the wait. -/
def host : Host PageCondition (Sequel PageCondition Unit) Poller (δ × Sights) where
  check := PageCondition.check (query select)
  report _ := pure ()
  task := id

/-- Runs the callback, visibly, if all elements have been there. -/
def conclude : Progress Unit → Routine Poller (δ × Sights) Unit
  | .met _ => Routine.annotate fun now sights => sights ++ [(now, .fired)]
  | .waiting | .dropped => pure ()

/-- Starts a wait for all of some selectors. -/
def begin (selectors : List String) : Routine Poller (δ × Sights) Unit :=
  Routine.watched Sights.note do
    conclude (← Waiter.awaitAll (host select) ⟨.callback (), interval⟩
      (selectors.map .element))

/-- The tick of a timer that polls. -/
def behaviour : Behaviour Poller (δ × Sights) := fun _ wait =>
  Routine.watched Sights.note do
    let (wait, progress) ← Wait.tick (host select) (fun sequel => sequel.run (host select)) wait
    conclude progress
    return wait

/-- Moves the clock step by step.  Before each step the document may change. -/
def moves : List ((δ → δ) × Span) → Routine Poller (δ × Sights) Unit
  | [] => .done ()
  | (change, span) :: others =>
    .look fun _ state => .put (change state.1, state.2) (.advance span (moves others))

/-- The wait for what is left of some selectors. -/
def rest (selectors : List String) : Sequel PageCondition Unit :=
  Sequel.row interval (.callback ()) (selectors.map .element)

/-- The wait that polls at a stage. -/
def stageWait (stage : Standing) : Poller :=
  ⟨.element stage.selector, some (rest interval stage.others), some stage.timer⟩

/-- The timers of a wait that stands at some stage. -/
def timers : Option Standing → List (Handle × Timer Poller)
  | none => []
  | some stage => [(stage.timer, ⟨interval.clamp, stage.due, some (stageWait interval stage)⟩)]

/-- A world with the time, the document and the sights of a machine. -/
def worldWith (entries : List (Handle × Timer Poller)) (machine : StagedWait δ) :
    World.Clocked Poller (δ × Sights) :=
  ⟨⟨machine.now, machine.next, machine.scheduled, entries⟩, machine.document, machine.sights⟩

/-- The world that a machine describes. -/
def world (machine : StagedWait δ) : World.Clocked Poller (δ × Sights) :=
  worldWith (timers interval machine.stage) machine

/-! ## Going through the stages -/

/-- A check of an element asks the document for it, visibly. -/
theorem act_check (entries : List (Handle × Timer Poller)) (selector : String)
    (machine : StagedWait δ) :
    (worldWith entries machine).act Clock.service
        (Routine.watched Sights.note ((host select).check (.element selector))) =
      (((machine.ask select selector).1.map fun nodes => !nodes.isEmpty, .element selector),
        worldWith entries (machine.ask select selector).2) :=
  rfl

/-- Going through the row of waits is going through the stages. -/
theorem act_rest (selectors : List String) (machine : StagedWait δ)
    (idle : machine.stage = none) :
    (world interval machine).act Clock.service
        (Routine.watched Sights.note
          (((rest interval selectors).run (host select)).bind conclude)) =
      ((), world interval (machine.enter select interval selectors)) := by
  induction selectors generalizing machine with
  | nil =>
      simp only [StagedWait.enter, StagedWait.stop, StagedWait.see, ← idle]
      rfl
  | cons selector others ih =>
      have asked_stage : (machine.ask select selector).2.stage = none := idle
      have checked := act_check select (timers interval machine.stage) selector machine
      simp only [rest, List.map_cons, Sequel.row, List.foldr_cons, Sequel.run, Wait.start,
        Routine.bind_eq, Routine.watched_bind, World.act_bind, world, checked]
      rw [StagedWait.enter]
      generalize machine.ask select selector = asked at asked_stage ⊢
      obtain ⟨answer, machine⟩ := asked
      rcases answer with error | _ | ⟨node, nodes⟩
      · simp only [StagedWait.stop, idle]
        rfl
      · simp only [StagedWait.stay, idle]
        rfl
      · have ended := ih machine asked_stage
        rw [Routine.watched_bind, World.act_bind, world, asked_stage, ← idle] at ended
        exact ended

/-- Cancelling the only timer, visibly. -/
theorem act_cancelSlot (handle : Handle) (timer : Timer Poller) (machine : StagedWait δ) :
    (worldWith [(handle, timer)] machine).act Clock.service
        (Routine.watched Sights.note (Routine.cancelSlot (some handle))) =
      ((), worldWith [] (machine.see (.cancelled handle))) := by
  have cancelled : Clock.cancel handle ⟨machine.now, machine.next, machine.scheduled,
      [(handle, timer)]⟩ = ⟨machine.now, machine.next, machine.scheduled, []⟩ := by
    simp [Clock.cancel]
  exact congrArg (fun clock : Clock Poller => ((), (⟨clock, _⟩ : World.Clocked Poller _))) cancelled

/-- What a wait does at a tick, by the answer of the document. -/
theorem act_behaviour (stage : Standing) (timer : Timer Poller) (machine : StagedWait δ) :
    ∃ wait after,
      (worldWith [(stage.timer, timer)] machine).act Clock.service
          (behaviour select stage.timer (stageWait interval stage)) =
        (wait, after) ∧
      match machine.ask select stage.selector with
      | (.error _, asked) =>
          after = world interval (asked.see (.cancelled stage.timer)).stop
      | (.ok [], asked) =>
          after = worldWith [(stage.timer, timer)] asked ∧ wait = stageWait interval stage
      | (.ok (_ :: _), asked) =>
          after = world interval
            ((asked.see (.cancelled stage.timer)).stop.enter select interval stage.others) := by
  have checked := act_check select [(stage.timer, timer)] stage.selector machine
  simp only [behaviour, stageWait, Wait.tick, Routine.bind_eq, Routine.watched_bind,
    World.act_bind, checked]
  generalize machine.ask select stage.selector = asked
  obtain ⟨answer, machine⟩ := asked
  rcases answer with error | _ | ⟨node, nodes⟩
  · simp only [Except.map, Routine.watched_bind, World.act_bind, act_cancelSlot]
    exact ⟨_, _, rfl, rfl⟩
  · exact ⟨_, _, rfl, rfl, rfl⟩
  · have ended := act_rest select interval stage.others
      (machine.see (.cancelled stage.timer)).stop rfl
    rw [Routine.watched_bind, World.act_bind] at ended
    simp only [Except.map, List.isEmpty_cons, Bool.not_false, Routine.watched_bind,
      World.act_bind, act_cancelSlot]
    exact ⟨⟨.element stage.selector, none, none⟩, _,
      congrArg (fun after => (_, after.2)) ended, rfl⟩

/-- The task of a timer that has gone is not put back. -/
theorem putBack_other (handle : Handle) (wait : Poller) (machine : StagedWait δ)
    (gone : ∀ stage, machine.stage = some stage → stage.timer ≠ handle) :
    (world interval machine).timers.putBack handle wait = (world interval machine).timers := by
  refine Clock.putBack_gone wait fun entry member => ?_
  cases standing : machine.stage with
  | none => simp [world, worldWith, timers, standing] at member
  | some stage =>
      simp only [world, worldWith, timers, standing, List.mem_singleton] at member
      rw [member]
      exact gone stage standing

/-- A tick of the timer that polls is a poll of the stage. -/
theorem beat_eq {machine : StagedWait δ} {stage : Standing} (standing : machine.stage = some stage)
    (known : stage.timer.number < machine.next) :
    (world interval machine).beat (behaviour select)
        ⟨stage.timer, stage.due, stageWait interval stage⟩ =
      world interval (machine.poll select interval stage) := by
  have taken : { world interval machine with
      timers := (world interval machine).timers.taking
        ⟨stage.timer, stage.due, stageWait interval stage⟩ } =
      worldWith [(stage.timer, ⟨interval.clamp, stage.due + interval.clamp, none⟩)]
        { machine with now := stage.due } := by
    simp [world, worldWith, timers, standing, Clock.taking, Clock.update]
  obtain ⟨wait, after, ticked, after_eq⟩ := act_behaviour select interval stage
    ⟨interval.clamp, stage.due + interval.clamp, none⟩ { machine with now := stage.due }
  rw [World.beat]
  simp only [taken, ticked]
  rw [StagedWait.poll]
  have next_eq := StagedWait.next_ask select stage.selector { machine with now := stage.due }
  generalize StagedWait.ask select stage.selector { machine with now := stage.due } = asked
    at next_eq after_eq ⊢
  obtain ⟨answer, machine⟩ := asked
  rcases answer with error | _ | ⟨node, nodes⟩
  · rw [after_eq]
    rfl
  · obtain ⟨rfl, rfl⟩ := after_eq
    simp [worldWith, world, timers, Clock.putBack, Clock.update, stageWait]
  · have fresh (next : Standing)
        (stands : ((machine.see (.cancelled stage.timer)).stop.enter select interval
          stage.others).stage = some next) : next.timer ≠ stage.timer := by
      have above := StagedWait.next_le_of_enter stands
      rintro same
      rw [same] at above
      exact Nat.not_le_of_lt (Nat.lt_of_lt_of_eq known next_eq.symm) above
    rw [after_eq]
    simp only [putBack_other interval _ wait _ fresh]

/-! ## Whole runs -/

theorem nextDue?_world (machine : StagedWait δ) (target : Instant) :
    (world interval machine).timers.nextDue? target =
      match machine.stage with
      | none => none
      | some stage =>
        if stage.due ≤ target then
          some ⟨stage.timer, stage.due, stageWait interval stage⟩
        else none := by
  cases standing : machine.stage with
  | none => simp [world, worldWith, timers, standing, Clock.nextDue?]
  | some stage =>
      by_cases inTime : stage.due ≤ target
      · simp [world, worldWith, timers, standing, Clock.nextDue?, Clock.Due.ofTimer?, inTime]
      · simp [world, worldWith, timers, standing, Clock.nextDue?, Clock.Due.ofTimer?, inTime]

theorem still_host : (host select).Still where
  check _ := fun _ _ => trivial
  report _ := trivial

theorem still_conclude (progress : Progress Unit) :
    (conclude progress : Routine Poller (δ × Sights) Unit).Still := by
  cases progress with
  | met callback => exact fun _ _ => trivial
  | waiting | dropped => trivial

theorem still_behaviour (handle : Handle) (wait : Poller) :
    (behaviour select handle wait).Still := by
  refine Routine.Still.watched _ ?_
  refine (Wait.still_tick (still_host select)
    (fun sequel => Sequel.still_run (still_host select) sequel) wait).bind fun ticked => ?_
  exact (still_conclude ticked.2).bind fun _ => trivial

/-- Moving the clock is moving the machine. -/
theorem drain_eq {machine : StagedWait δ} (tidy : machine.Tidy) (target : Instant) :
    ∃ limit, ∀ ticks, limit ≤ ticks →
      World.drain Clock.service (behaviour select) ticks target (world interval machine) =
        some (world interval (machine.moveTo select interval target)) := by
  have rests (machine : StagedWait δ)
      (noneDue : (world interval machine).timers.nextDue? target = none) (ticks : Nat)
      (enough : 1 ≤ ticks) :
      World.drain Clock.service (behaviour select) ticks target (world interval machine) =
        some (world interval { machine with now := target }) := by
    obtain ⟨ticks, rfl⟩ := Nat.exists_eq_add_of_le' enough
    rw [World.drain_succ (still_behaviour select), noneDue]
    rfl
  fun_induction StagedWait.moveTo select interval target machine with
  | case1 machine standing =>
      exact ⟨1, rests machine (by simp [nextDue?_world, standing])⟩
  | case2 machine stage standing inTime ih =>
      obtain ⟨limit, goesOn⟩ := ih (tidy.poll standing)
      refine ⟨limit + 1, fun ticks enough => ?_⟩
      obtain ⟨ticks, rfl⟩ := Nat.exists_eq_add_of_le' (Nat.le_trans (Nat.le_add_left 1 _) enough)
      have next : (world interval machine).timers.nextDue? target =
          some ⟨stage.timer, stage.due, stageWait interval stage⟩ := by
        simp [nextDue?_world, standing, inTime]
      rw [World.drain_succ (still_behaviour select), next]
      simp only [beat_eq select interval standing (tidy.known stage standing)]
      exact goesOn ticks (Nat.le_of_succ_le_succ enough)
  | case3 machine stage standing late =>
      exact ⟨1, rests machine (by simp [nextDue?_world, standing, late])⟩

/-- Moving the clock step by step is moving the machine step by step. -/
theorem perform_moves (steps : List ((δ → δ) × Span)) {machine : StagedWait δ}
    (tidy : machine.Tidy) :
    (machine.run select interval steps).Tidy ∧
      ∃ limit, ∀ ticks, limit ≤ ticks →
        World.perform Clock.service (behaviour select) ticks (moves steps)
            (world interval machine) =
          some ((), world interval (machine.run select interval steps)) := by
  induction steps generalizing machine with
  | nil => exact ⟨tidy, 0, fun _ _ => rfl⟩
  | cons step steps ih =>
      obtain ⟨change, span⟩ := step
      have changed : StagedWait.Tidy { machine with document := change machine.document } :=
        { tidy with }
      obtain ⟨limit, moved⟩ := drain_eq select interval changed (machine.now + span)
      obtain ⟨tidyAfter, others, goesOn⟩ := ih (changed.moveTo (machine.now + span))
      refine ⟨tidyAfter, max limit others, fun ticks enough => ?_⟩
      have moved_eq := moved ticks (Nat.le_trans (Nat.le_max_left _ _) enough)
      have after_eq := goesOn ticks (Nat.le_trans (Nat.le_max_right _ _) enough)
      exact (congrArg (· >>= _) moved_eq).trans after_eq

theorem still_begin (selectors : List String) : (begin select interval selectors).Still := by
  refine Routine.Still.watched _ ?_
  rw [Waiter.awaitAll_eq]
  exact (Sequel.still_run (still_host select) _).bind still_conclude

/-- A wait for all of some elements, on a clock without other timers, is the machine that goes
through them one after the other.  It asks the same questions at the same instants and runs
its callback when the machine does, at most once; and at no time it has more than one
timer. -/
theorem refines_stagedWait (selectors : List String) (steps : List ((δ → δ) × Span))
    (now : Instant) (next scheduled : Nat) (document : δ) :
    let machine := StagedWait.run select interval steps
      (StagedWait.enter select interval selectors ⟨now, next, scheduled, document, none, []⟩)
    ∃ world limit,
      (∀ ticks, limit ≤ ticks →
        World.perform Clock.service (behaviour select) ticks
            ((begin select interval selectors).bind fun _ => moves steps)
            ⟨⟨now, next, scheduled, []⟩, document, []⟩ =
          some ((), world)) ∧
      world.state = (machine.document, machine.sights) ∧
      world.timers.now = machine.now ∧
      world.timers.scheduled = machine.scheduled ∧
      world.timers.timers.map (fun entry => (entry.1, entry.2.due)) =
        machine.stage.toList.map (fun stage => (stage.timer, stage.due)) ∧
      world.timers.timers.map Prod.fst = machine.sights.live ∧
      machine.sights.OneTimer ∧ machine.sights.fires ≤ 1 := by
  intro machine
  let initial : StagedWait δ := ⟨now, next, scheduled, document, none, []⟩
  have ready : initial.Ready :=
    { live_eq := rfl
      oneTimer := by simp [Sights.OneTimer, Sights.live, initial]
      unfired := rfl }
  have begun : (world interval initial).act Clock.service (begin select interval selectors) =
      ((), world interval (initial.enter select interval selectors)) := by
    rw [begin, Waiter.awaitAll_eq]
    exact act_rest select interval selectors initial rfl
  have entered : (initial.enter select interval selectors).Tidy := ready.enter selectors
  obtain ⟨tidy, limit, moved⟩ := perform_moves select interval steps entered
  refine ⟨world interval machine, limit, fun ticks enough => ?_, rfl, rfl, rfl, ?_, ?_,
    tidy.oneTimer, tidy.fires_le⟩
  · rw [World.perform, Routine.run_bind, Routine.run_eq_act _ _ (still_begin ..)]
    have started := congrArg (fun ended : Unit × World.Clocked Poller (δ × Sights) =>
      World.perform Clock.service (behaviour select) ticks (moves steps) ended.2) begun
    exact started.trans (moved ticks enough)
  · show (timers interval machine.stage).map _ = _
    cases machine.stage <;> rfl
  · show (timers interval machine.stage).map _ = _
    rw [tidy.live_eq]
    cases machine.stage <;> rfl

end AllElements

end PageWatch
