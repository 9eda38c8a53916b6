import PageWatch.Proofs.Clock.Mirroring
import PageWatch.Proofs.Session.Ending

/-!
# A guest among the waits of a session

To tell what one wait does from what happens otherwise, a session keeps notes on that wait, its
guest: which timers the guest has asked for, and which records of the log are the guest's.  The
guest acts when the session starts it and whenever one of its timers ticks, and all that is recorded
then is its own.  Nobody reads the notes but those who write them, so keeping them changes nothing
else.
-/

namespace PageWatch.Session

/-- Whether an event is the end of a wait: it fires, or an error ends it. -/
def Event.resolves : Event → Bool
  | .fire _ => true
  | .notice (.waitDropped _) => true
  | _ => false

/-- What is known of a guest. -/
structure Visit where
  /-- The timers that the guest has asked for. -/
  timers : List Handle
  /-- What has been recorded since the last action, and whether by the guest; the latest first. -/
  records : List (Bool × Instant × Event)
  /-- Whether the guest has been started. -/
  begun : Bool
  /-- Whether the guest has fired or been dropped. -/
  ended : Bool

namespace Visit

/-- There has been no guest. -/
def start : Visit := ⟨[], [], false, false⟩

/-- The guest has been started, and has neither fired nor been dropped. -/
def unresolved (visit : Visit) : Bool := visit.begun && !visit.ended

/-- Notes what is asked of the timers, by the guest or otherwise. -/
def note (guest : Bool) (visit : Visit) : TimerRequest Task → Visit
  | .schedule _ handle _ =>
    if guest then { visit with timers := handle :: visit.timers } else visit
  | _ => visit

/-- Notes whose the latest records of a log are. -/
def ascribe (guest : Bool) (log : List (Instant × Event)) (visit : Visit) : Visit :=
  let fresh := log.take (log.length - visit.records.length)
  { visit with
    records := fresh.map (fun record => (guest, record)) ++ visit.records
    begun := visit.begun || guest
    ended := visit.ended || guest && fresh.any fun record => record.2.resolves }

/-- The records that are not the guest's. -/
def others (records : List (Bool × Instant × Event)) : List (Instant × Event) :=
  (records.filter fun record => !record.1).map Prod.snd

end Visit

namespace Work

/-- A routine of a session with notes on a guest. -/
abbrev Visited := Routine Task (State × Visit)

/-- A routine of a session, with its requests noted as the guest's or otherwise. -/
def asked {α : Type} (guest : Bool) (work : Work α) : Visited α :=
  work.beside.watched fun request _ visit => visit.note guest request

/-- Notes whose the latest records are. -/
def ascribe (guest : Bool) : Visited Unit :=
  .look fun _ state => .put (state.1, state.2.ascribe guest state.1.log) (.done ())

/-- A routine of a session, with all that it does noted as the guest's or otherwise. -/
def visited {α : Type} (guest : Bool) (work : Work α) : Visited α :=
  (asked guest work).bind fun result => (ascribe guest).bind fun _ => .done result

/-- What the timers of a session do at a tick.  A tick of a timer that the guest has asked for is
the guest's. -/
def tickVisited (setup : Setup) : Behaviour Task (State × Visit) := fun handle task =>
  .look fun _ state => visited (state.2.timers.contains handle) (tick setup handle task)

end Work

/-- What is seen after an action. -/
structure Seen where
  step : ClockStep
  /-- What happened during the action, in order, and whether the guest did it. -/
  records : List (Bool × Instant × Event)
  /-- Whether the guest has been started and is not resolved. -/
  unresolved : Bool

/-- The world in which the next action of a session starts. -/
def betweenVisited (world : World.Clocked Task (State × Visit)) :
    World.Clocked Task (State × Visit) :=
  ⟨world.timers, (takeLog world.state.1).2, { world.state.2 with records := [] }⟩

/-- What is seen after an action on a clock that is moved by hand. -/
def seenVisited (outcome : Outcome) (world : World.Clocked Task (State × Visit)) : Seen :=
  ⟨seenOnClock outcome world.forget, world.state.2.records.reverse, world.state.2.unresolved⟩

/-- Runs the actions with notes on a guest.  Of each action it is said whether it starts the
guest. -/
def runVisited (setup : Setup) (ticks : Nat) :
    List (Bool × Action) → World.Clocked Task (State × Visit) → Option (List Seen)
  | [], _ => some []
  | (guest, action) :: more, world => do
    let (outcome, world) ← world.perform Clock.service (Work.tickVisited setup) ticks
      (Work.visited guest (Work.perform setup action))
    return seenVisited outcome world :: (← runVisited setup ticks more (betweenVisited world))

theorem runVisited_cons (setup : Setup) (ticks : Nat) (guest : Bool) (action : Action)
    (more : List (Bool × Action)) (world : World.Clocked Task (State × Visit)) :
    runVisited setup ticks ((guest, action) :: more) world =
      (world.perform Clock.service (Work.tickVisited setup) ticks
        (Work.visited guest (Work.perform setup action))).bind fun ended =>
          (runVisited setup ticks more (betweenVisited ended.2)).map
            (seenVisited ended.1 ended.2 :: ·) := by
  rw [runVisited, Option.bind_eq_bind]
  congr 1
  funext ended
  exact (Option.map_eq_bind ..).symm

/-! ## Keeping notes on a guest changes nothing else -/

section Mirrors

open Routine

variable (setup : Setup)

theorem mirrors_visited {α : Type} (guest : Bool) (work : Work α) :
    (Work.visited guest work).Mirrors work := by
  apply (mirrors_beside _ work).followed
  intro result
  exact fun _ _ _ _ _ _ => rfl

theorem mirrors_tickVisited : (Work.tickVisited setup).Mirrors (Work.tick setup) := by
  intro handle task
  apply Mirrors.look
  intro _ state
  exact mirrors_visited _ _

/-- A session with notes on a guest shows what the session shows. -/
theorem steps_runVisited (ticks : Nat) (actions : List (Bool × Action))
    (world : World.Clocked Task (State × Visit)) :
    (runVisited setup ticks actions world).map (List.map Seen.step) =
      runOnClock setup Clock.service ticks (actions.map Prod.snd) world.forget := by
  induction actions generalizing world with
  | nil => rfl
  | cons turn more ih =>
      obtain ⟨guest, action⟩ := turn
      rw [runVisited_cons, List.map_cons, runOnClock_cons,
        ← World.perform_mirrors Clock.service (mirrors_tickVisited setup) ticks
          (mirrors_visited guest (Work.perform setup action)) world]
      cases World.perform Clock.service (Work.tickVisited setup) ticks
          (Work.visited guest (Work.perform setup action)) world with
      | none => rfl
      | some ended =>
          have rest := ih (betweenVisited ended.2)
          simp only [Option.map_some, Option.bind_some, World.forgetEnd]
          rw [show between ended.2.forget = (betweenVisited ended.2).forget from rfl, ← rest,
            Option.map_map, Option.map_map]
          rfl

end Mirrors

/-! ## What a routine leaves with notes -/

section Notes

variable {α : Type}

/-- A routine with notes does what it does without them, and the guest gets to know the timers that
it asks for. -/
theorem act_asked (guest : Bool) (work : Work α) (world : World.Clocked Task (State × Visit)) :
    let ended := World.act Clock.service work world.forget
    world.timers.next ≤ ended.2.timers.next ∧ ∃ timers,
      World.act Clock.service (Work.asked guest work) world =
        (ended.1, ⟨ended.2.timers, ended.2.state, { world.state.2 with timers }⟩) ∧
      (guest = false → timers = world.state.2.timers) ∧
      ∀ handle, handle ∈ timers ↔ handle ∈ world.state.2.timers ∨
        guest = true ∧ world.timers.next ≤ handle.number ∧
          handle.number < ended.2.timers.next := by
  induction work generalizing world with
  | done result =>
      refine ⟨Nat.le_refl _, world.state.2.timers, rfl, fun _ => rfl, fun handle => ?_⟩
      simp only [World.act_done, World.forget]
      lia
  | look next ih => exact ih _ _ world
  | put state next ih => exact ih ⟨world.timers, state, world.state.2⟩
  | schedule interval task next ih =>
      obtain ⟨clock, state, visit⟩ := world
      obtain ⟨later, timers, acts, kept, mem⟩ := ih ⟨clock.next⟩
        ⟨(clock.schedule interval task).2, state,
          visit.note guest (.schedule interval ⟨clock.next⟩ (task ⟨clock.next⟩))⟩
      have later : clock.next + 1 ≤ _ := later
      refine ⟨Nat.le_of_succ_le later, timers, acts.trans ?_, fun foreign => ?_, fun handle => ?_⟩
      · cases guest <;> rfl
      · rw [kept foreign, foreign]
        rfl
      · rw [mem]
        cases guest with
        | false => simp [Visit.note]
        | true =>
            obtain ⟨number⟩ := handle
            simp only [Visit.note, if_true, List.mem_cons, Handle.mk.injEq, World.forget,
              Clock.next_schedule, true_and, World.act_schedule, Clock.service,
              Clock.schedule_fst] at later ⊢
            lia
  | cancel handle next ih => exact ih ⟨world.timers.cancel handle, world.state⟩
  | clear next ih => exact ih ⟨world.timers.clear, world.state⟩
  | advance span next ih => exact ih world

theorem act_visited (guest : Bool) (work : Work α) (world : World.Clocked Task (State × Visit)) :
    World.act Clock.service (Work.visited guest work) world =
      let ended := World.act Clock.service (Work.asked guest work) world
      (ended.1, { ended.2 with
        state := (ended.2.state.1, ended.2.state.2.ascribe guest ended.2.state.1.log) }) := by
  simp [Work.visited, Work.ascribe]

end Notes

end PageWatch.Session
