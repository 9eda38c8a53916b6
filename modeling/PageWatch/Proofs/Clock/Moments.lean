import Mathlib.Logic.Relation
import PageWatch.Proofs.Clock.Nesting

/-!
# Moments of a run

A tick that moves the clock waits until the move is over, and meanwhile other timers tick.  So
several ticks may be under way at once, each inside the one before it.  A moment says which ticks
these are and what is left of them; a run goes from moment to moment until its program is done.

At every moment the timers without their tasks are those whose ticks are under way.  Timers that
have been cancelled or cleared meanwhile are no exception, as no handle is given twice.
-/

namespace PageWatch

variable {τ σ α β : Type}

/-! ## Clocks with ticks under way -/

namespace Clock

/-- A clock while the ticks of some timers are under way. -/
structure Consistent (running : List Handle) (clock : Clock τ) : Prop where
  regular : clock.Regular
  intervals : ∀ entry ∈ clock.timers, Span.ofMs 1 ≤ entry.2.interval
  counted : clock.next = clock.scheduled
  /-- No tick begins while the same timer's tick is under way. -/
  nodup : running.Nodup
  given : ∀ handle ∈ running, handle.number < clock.next
  /-- The timers without their tasks are those that run, as far as they are still there. -/
  away : ∀ entry ∈ clock.timers, entry.2.task = none ↔ entry.1 ∈ running

namespace Consistent

variable {clock : Clock τ} {running : List Handle}

theorem start : (Clock.start : Clock τ).Consistent [] where
  regular := orderly_start.regular
  intervals _ member := absurd member List.not_mem_nil
  counted := rfl
  nodup := .nil
  given _ member := absurd member List.not_mem_nil
  away _ member := absurd member List.not_mem_nil

theorem atInstant (consistent : clock.Consistent running) (now : Instant) :
    Consistent running { clock with now } :=
  { consistent with regular := consistent.regular.atInstant now }

theorem schedule (consistent : clock.Consistent running) (interval : Span)
    (task : Handle → τ) : (clock.schedule interval task).2.Consistent running where
  regular := consistent.regular.schedule interval task
  intervals entry member := by
    rw [timers_schedule, List.mem_append, List.mem_singleton] at member
    rcases member with member | rfl
    · exact consistent.intervals entry member
    · exact Nat.le_max_right interval (Span.ofMs 1)
  counted := congrArg (· + 1) consistent.counted
  nodup := consistent.nodup
  given handle member := Nat.lt_succ_of_lt (consistent.given handle member)
  away entry member := by
    rw [timers_schedule, List.mem_append, List.mem_singleton] at member
    rcases member with member | rfl
    · exact consistent.away entry member
    · have idle : (⟨clock.next⟩ : Handle) ∉ running := fun runs =>
        Nat.lt_irrefl _ (consistent.given _ runs)
      simpa using idle

theorem cancel (consistent : clock.Consistent running) (handle : Handle) :
    (clock.cancel handle).Consistent running :=
  { consistent with
    regular := consistent.regular.cancel handle
    intervals entry member := consistent.intervals entry (mem_timers_cancel.mp member).1
    away entry member := consistent.away entry (mem_timers_cancel.mp member).1 }

theorem clear (consistent : clock.Consistent running) : clock.clear.Consistent running :=
  { consistent with
    regular := consistent.regular.clear
    intervals _ member := absurd member List.not_mem_nil
    away _ member := absurd member List.not_mem_nil }

/-- A timer that is due has its task, so its tick is not under way yet. -/
theorem taking (consistent : clock.Consistent running) {target : Instant} {due : Due τ}
    (next : clock.nextDue? target = some due) :
    (clock.taking due).Consistent (due.handle :: running) := by
  obtain ⟨timer, timerMem, holds, -⟩ := exists_of_nextDue? next
  have idle : due.handle ∉ running := by
    intro runs
    rw [(consistent.away _ timerMem).mpr runs] at holds
    exact absurd holds nofun
  refine ⟨consistent.regular.taking due, ?_, consistent.counted,
    List.nodup_cons.mpr ⟨idle, consistent.nodup⟩, ?_, ?_⟩
  · intro entry member
    obtain ⟨former, formerMem, rfl⟩ := mem_timers_update.mp member
    have long := consistent.intervals former formerMem
    split <;> exact long
  · intro handle member
    cases member with
    | head => exact consistent.regular.below_next _ (List.mem_map_of_mem timerMem)
    | tail _ member => exact consistent.given handle member
  · intro entry member
    obtain ⟨former, formerMem, rfl⟩ := mem_timers_update.mp member
    by_cases own : former.1 = due.handle
    · simp [own]
    · simpa [own] using consistent.away former formerMem

/-- A task goes back into its timer when its tick is over, unless the timer is gone. -/
theorem putBack {handle : Handle} (consistent : clock.Consistent (handle :: running))
    (task : τ) : (clock.putBack handle task).Consistent running := by
  obtain ⟨ended, nodup⟩ := List.nodup_cons.mp consistent.nodup
  refine ⟨consistent.regular.putBack handle task, ?_, consistent.counted, nodup, ?_, ?_⟩
  · intro entry member
    obtain ⟨former, formerMem, rfl⟩ := mem_timers_update.mp member
    have long := consistent.intervals former formerMem
    split <;> exact long
  · exact fun other member => consistent.given other (.tail _ member)
  · intro entry member
    obtain ⟨former, formerMem, rfl⟩ := mem_timers_update.mp member
    by_cases own : former.1 = handle
    · simpa [own] using ended
    · simpa [own] using consistent.away former formerMem

theorem settled (consistent : clock.Consistent []) : clock.Settled := by
  intro entry member
  rw [Option.isSome_iff_ne_none, ne_eq, consistent.away entry member]
  exact List.not_mem_nil

end Consistent

/-- No timer of a clock is due. -/
def Ahead (clock : Clock τ) : Prop := ∀ entry ∈ clock.timers, clock.now < entry.2.due

theorem Ahead.schedule {clock : Clock τ} (ahead : clock.Ahead) (interval : Span)
    (task : Handle → τ) : (clock.schedule interval task).2.Ahead := by
  intro entry member
  rw [timers_schedule, List.mem_append, List.mem_singleton] at member
  rcases member with member | rfl
  · exact ahead entry member
  · exact Nat.lt_add_of_pos_right (Span.clamp_pos interval)

end Clock

/-! ## What a routine does next -/

/-- What a routine does next. -/
inductive Routine.Next (τ σ α : Type) where
  | ends (result : α)
  /-- The clock is to be moved to an instant. -/
  | moves (target : Instant) (rest : Routine τ σ α)
  | acts (rest : Routine τ σ α) (world : World.Clocked τ σ)

/-- What a routine does next on a clock that is moved by hand. -/
def Routine.next : Routine τ σ α → World.Clocked τ σ → Routine.Next τ σ α
  | done result, _ => .ends result
  | look next, world => .acts (next world.timers.now world.state) world
  | put state next, world => .acts next { world with state }
  | schedule interval task next, world =>
    .acts (next (world.timers.schedule interval task).1)
      { world with timers := (world.timers.schedule interval task).2 }
  | cancel handle next, world => .acts next { world with timers := world.timers.cancel handle }
  | clear next, world => .acts next { world with timers := world.timers.clear }
  | advance span next, world => .moves (world.timers.now + span) next

/-- What requests to the timers preserve holds of them after the next request of a routine. -/
theorem Routine.next_keeps (holds : Clock τ → Prop)
    (schedule : ∀ interval task timers, holds timers → holds (timers.schedule interval task).2)
    (cancel : ∀ handle timers, holds timers → holds (timers.cancel handle))
    (clear : ∀ timers, holds timers → holds timers.clear)
    {routine rest : Routine τ σ α} {world after : World.Clocked τ σ}
    (next : routine.next world = .acts rest after) (start : holds world.timers) :
    holds after.timers := by
  cases routine with
  | done result => exact absurd next nofun
  | advance span onward => exact absurd next nofun
  | look onward => exact (Next.acts.inj next).2 ▸ start
  | put state onward => exact (Next.acts.inj next).2 ▸ start
  | schedule interval task onward => exact (Next.acts.inj next).2 ▸ schedule interval task _ start
  | cancel handle onward => exact (Next.acts.inj next).2 ▸ cancel handle _ start
  | clear onward => exact (Next.acts.inj next).2 ▸ clear _ start

/-! ## Moments -/

/-- A tick that is under way. -/
structure OpenTick (τ σ : Type) where
  handle : Handle
  /-- How far the clock is moved by the move in which the timer ticks. -/
  target : Instant
  /-- What is left of the tick. -/
  rest : Routine τ σ τ

/-- A moment of a run. -/
structure World.Moment (τ σ α : Type) where
  /-- What is left of the program. -/
  program : Routine τ σ α
  /-- The ticks that are under way, the innermost first. -/
  ticks : List (OpenTick τ σ)
  /-- How far the clock is being moved.  If it is not, the innermost tick acts, or the program does
  where there is none. -/
  moving : Option Instant
  world : World.Clocked τ σ

namespace World.Moment

/-- The moment at which a program begins. -/
def begin (program : Routine τ σ α) (world : World.Clocked τ σ) : Moment τ σ α :=
  ⟨program, [], none, world⟩

/-- The moment at which a program is done. -/
def ended (result : α) (world : World.Clocked τ σ) : Moment τ σ α := .begin (.done result) world

/-- The timers whose ticks are under way. -/
def running (moment : Moment τ σ α) : List Handle := moment.ticks.map OpenTick.handle

/-- No move of the clock is under way: the program itself is about to act. -/
def AtRest (moment : Moment τ σ α) : Prop := moment.ticks = [] ∧ moment.moving = none

/-- The moment after a moment, unless the program is done. -/
def next? (behaviour : Behaviour τ σ) (moment : Moment τ σ α) : Option (Moment τ σ α) :=
  match moment.moving, moment.ticks with
  | some target, ticks =>
    match moment.world.timers.takeDue? target with
    | none => some { moment with moving := none, world := moment.world.arrive target }
    | some (due, timers) =>
      some { moment with
        ticks := ⟨due.handle, target, behaviour due.handle due.task⟩ :: ticks
        moving := none
        world := { moment.world with timers } }
  | none, [] =>
    match moment.program.next moment.world with
    | .ends _ => none
    | .moves target program => some { moment with program, moving := some target }
    | .acts program world => some { moment with program, world }
  | none, tick :: outer =>
    match tick.rest.next moment.world with
    | .ends task =>
      some { moment with
        ticks := outer
        moving := some tick.target
        world := { moment.world with
          timers := moment.world.timers.putBack tick.handle task } }
    | .moves target rest =>
      some { moment with ticks := { tick with rest } :: outer, moving := some target }
    | .acts rest world => some { moment with ticks := { tick with rest } :: outer, world }

/-- A run goes from one moment to another. -/
abbrev LeadsTo (behaviour : Behaviour τ σ) : Moment τ σ α → Moment τ σ α → Prop :=
  Relation.ReflTransGen fun before after => before.next? behaviour = some after

/-- What holds of the timers at a moment. -/
structure Sound (moment : Moment τ σ α) : Prop where
  consistent : moment.world.timers.Consistent moment.running
  ahead : moment.AtRest → moment.world.timers.Ahead

variable {behaviour : Behaviour τ σ}

/-- A moment in a move of the clock, or in a tick, need not be ahead of its timers. -/
theorem Sound.amid {moment : Moment τ σ α} (amid : ¬moment.AtRest)
    (consistent : moment.world.timers.Consistent moment.running) : moment.Sound :=
  ⟨consistent, fun rests => absurd rests amid⟩

/-- What holds of the timers at a moment holds at the next. -/
theorem Sound.next {before after : Moment τ σ α} (sound : before.Sound)
    (next : before.next? behaviour = some after) : after.Sound := by
  obtain ⟨program, ticks, moving, world⟩ := before
  have consistent : world.timers.Consistent (ticks.map OpenTick.handle) := sound.consistent
  cases moving with
  | some target =>
      cases taken : world.timers.nextDue? target with
      | none =>
          simp only [next?, Clock.takeDue?_eq, taken, Option.map_none, Option.some.injEq] at next
          subst next
          refine ⟨consistent.atInstant target, ?_⟩
          rintro ⟨rfl, -⟩ entry member
          exact Clock.lt_due_of_nextDue? taken entry member (consistent.settled entry member)
      | some due =>
          simp only [next?, Clock.takeDue?_eq, taken, Option.map_some, Option.some.injEq] at next
          subst next
          exact .amid (fun rests => List.cons_ne_nil _ _ rests.1) (consistent.taking taken)
  | none =>
      cases ticks with
      | nil =>
          have ahead : world.timers.Ahead := sound.ahead ⟨rfl, rfl⟩
          cases acts : program.next world with
          | ends result => simp [next?, acts] at next
          | moves target rest =>
              simp only [next?, acts, Option.some.injEq] at next
              subst next
              exact .amid (fun rests => Option.some_ne_none _ rests.2) consistent
          | acts rest changed =>
              simp only [next?, acts, Option.some.injEq] at next
              subst next
              obtain ⟨consistent, ahead⟩ := Routine.next_keeps
                (fun clock => clock.Consistent [] ∧ clock.Ahead)
                (fun interval task _ kept =>
                  ⟨kept.1.schedule interval task, kept.2.schedule interval task⟩)
                (fun handle _ kept => ⟨kept.1.cancel handle,
                  fun entry member => kept.2 entry (Clock.mem_timers_cancel.mp member).1⟩)
                (fun _ kept => ⟨kept.1.clear, fun _ member => absurd member List.not_mem_nil⟩)
                acts ⟨consistent, ahead⟩
              exact ⟨consistent, fun _ => ahead⟩
      | cons tick outer =>
          cases acts : tick.rest.next world with
          | ends task =>
              simp only [next?, acts, Option.some.injEq] at next
              subst next
              exact .amid (fun rests => Option.some_ne_none _ rests.2) (consistent.putBack task)
          | moves target rest =>
              simp only [next?, acts, Option.some.injEq] at next
              subst next
              exact .amid (fun rests => Option.some_ne_none _ rests.2) consistent
          | acts rest changed =>
              simp only [next?, acts, Option.some.injEq] at next
              subst next
              exact .amid (fun rests => List.cons_ne_nil _ _ rests.1)
                (Routine.next_keeps _ (fun interval task _ kept => kept.schedule interval task)
                  (fun handle _ kept => kept.cancel handle) (fun _ kept => kept.clear)
                  acts consistent)

/-- What holds of the timers at a moment holds for the rest of the run. -/
theorem Sound.leadsTo {before after : Moment τ σ α} (sound : before.Sound)
    (leads : LeadsTo behaviour before after) : after.Sound := by
  induction leads with
  | refl => exact sound
  | tail _ next ih => exact ih.next next

/-! ## Moments and runs -/

/-- A routine that acts at a moment, given by what is left of the program and of the ticks under way
when this is left of the routine. -/
structure Acting (behaviour : Behaviour τ σ) (program : Routine τ σ β → Routine τ σ α)
    (ticks : Routine τ σ β → List (OpenTick τ σ)) : Prop where
  acts : ∀ routine world rest after, routine.next world = .acts rest after →
    next? behaviour ⟨program routine, ticks routine, none, world⟩ =
      some ⟨program rest, ticks rest, none, after⟩
  moves : ∀ routine world target rest, routine.next world = .moves target rest →
    next? behaviour ⟨program routine, ticks routine, none, world⟩ =
      some ⟨program rest, ticks rest, some target, world⟩

/-- The program of a run acts where no tick is under way. -/
theorem acting_program (behaviour : Behaviour τ σ) :
    Acting behaviour (fun rest : Routine τ σ α => rest) fun _ => [] where
  acts routine world rest after next := by simp [next?, next]
  moves routine world target rest next := by simp [next?, next]

/-- Otherwise the innermost tick acts. -/
theorem acting_tick (behaviour : Behaviour τ σ) (program : Routine τ σ α) (handle : Handle)
    (target : Instant) (outer : List (OpenTick τ σ)) :
    Acting behaviour (fun _ => program) fun rest => ⟨handle, target, rest⟩ :: outer where
  acts routine world rest after next := by simp [next?, next]
  moves routine world target rest next := by simp [next?, next]

/-- A move of the clock goes from moment to moment, whoever has asked for it. -/
def Moves (α : Type) (behaviour : Behaviour τ σ) (target : Instant)
    (world after : World.Clocked τ σ) : Prop :=
  ∀ (program : Routine τ σ α) ticks,
    LeadsTo behaviour ⟨program, ticks, some target, world⟩ ⟨program, ticks, none, after⟩

/-- A routine that comes to an end does so from moment to moment. -/
theorem Acting.leadsTo {program : Routine τ σ β → Routine τ σ α}
    {ticks : Routine τ σ β → List (OpenTick τ σ)} (acting : Acting behaviour program ticks)
    {move : Span → World.Clocked τ σ → Option (World.Clocked τ σ)}
    (moves : ∀ span world after, move span world = some after →
      Moves α behaviour (world.timers.now + span) world after)
    {routine : Routine τ σ β} {world after : World.Clocked τ σ} {result : β}
    (ran : routine.run Clock.service move world = some (result, after)) :
    LeadsTo behaviour ⟨program routine, ticks routine, none, world⟩
      ⟨program (.done result), ticks (.done result), none, after⟩ := by
  induction routine generalizing world with
  | done result =>
      obtain ⟨rfl, rfl⟩ := Prod.mk.inj (Option.some.inj ran)
      exact .refl
  | look next ih => exact .head (acting.acts _ _ _ _ rfl) (ih _ _ ran)
  | put state next ih => exact .head (acting.acts _ _ _ _ rfl) (ih ran)
  | schedule interval task next ih => exact .head (acting.acts _ _ _ _ rfl) (ih _ ran)
  | cancel handle next ih => exact .head (acting.acts _ _ _ _ rfl) (ih ran)
  | clear next ih => exact .head (acting.acts _ _ _ _ rfl) (ih ran)
  | advance span next ih =>
      obtain ⟨middle, moved, onward⟩ := Option.bind_eq_some_iff.mp ran
      exact .head (acting.moves _ _ _ _ rfl)
        ((moves span world middle moved _ _).trans (ih onward))

/-- A move of the clock that comes to an end does so from moment to moment. -/
theorem moves_drain (α : Type) (behaviour : Behaviour τ σ) (allowed : Nat) (target : Instant)
    (world after : World.Clocked τ σ)
    (drained : World.drain Clock.service behaviour allowed target world = some after) :
    Moves α behaviour target world after := by
  induction allowed generalizing target world after with
  | zero => exact absurd drained nofun
  | succ allowed ih =>
      intro program ticks
      rw [World.drain, Clock.takeDue?_eq] at drained
      cases taken : world.timers.nextDue? target with
      | none =>
          rw [taken] at drained
          obtain rfl := Option.some.inj drained
          refine .single ?_
          simp only [next?, Clock.takeDue?_eq, taken]
          rfl
      | some due =>
          rw [taken] at drained
          obtain ⟨⟨task, ticked⟩, ran, onward⟩ := Option.bind_eq_some_iff.mp drained
          refine .head (b := ⟨program, ⟨due.handle, target, behaviour due.handle due.task⟩ :: ticks,
            none, { world with timers := world.timers.taking due }⟩) ?_ ?_
          · simp only [next?, Clock.takeDue?_eq, taken]
            rfl
          · have acts := (acting_tick behaviour program due.handle target ticks).leadsTo
              (fun span inner moved => ih (inner.timers.now + span) inner moved) ran
            exact acts.trans (.head rfl (ih target _ after onward program ticks))

/-- A program that comes to an end does so from moment to moment. -/
theorem leadsTo_perform (behaviour : Behaviour τ σ) (allowed : Nat) (program : Routine τ σ α)
    {world after : World.Clocked τ σ} {result : α}
    (performed : World.perform Clock.service behaviour allowed program world =
      some (result, after)) :
    LeadsTo behaviour (begin program world) (ended result after) :=
  (acting_program behaviour).leadsTo
    (fun span inner => moves_drain α behaviour allowed (inner.timers.now + span) inner) performed

/-- A moment has no more than one next moment, and the end has none.  So every moment of a run that
comes to an end is before its end. -/
theorem leadsTo_ended {behaviour : Behaviour τ σ} {first moment : Moment τ σ α}
    {world : World.Clocked τ σ} {result : α}
    (whole : LeadsTo behaviour first (ended result world))
    (leads : LeadsTo behaviour first moment) : LeadsTo behaviour moment (ended result world) := by
  have unique : Relator.RightUnique fun before after : Moment τ σ α =>
      before.next? behaviour = some after :=
    fun _ _ _ left right => Option.some.inj (left.symm.trans right)
  rcases Relation.ReflTransGen.total_of_right_unique unique leads whole with onward | beyond
  · exact onward
  · rcases beyond.cases_head with same | ⟨_, next, -⟩
    · exact same ▸ .refl
    · exact absurd next nofun

end World.Moment

/-- A move of the clock ends where it was to go. -/
theorem World.now_drain {behaviour : Behaviour τ σ} {allowed : Nat} {target : Instant}
    {world after : World.Clocked τ σ}
    (drained : drain Clock.service behaviour allowed target world = some after) :
    after.timers.now = target := by
  induction allowed generalizing world with
  | zero => exact absurd drained nofun
  | succ allowed ih =>
      rw [drain, Clock.takeDue?_eq] at drained
      cases taken : world.timers.nextDue? target with
      | none =>
          rw [taken] at drained
          exact Option.some.inj drained ▸ rfl
      | some due =>
          rw [taken] at drained
          obtain ⟨_, -, onward⟩ := Option.bind_eq_some_iff.mp drained
          exact ih onward

/-- A move of the clock leaves all timers with their tasks, if it finds them so. -/
theorem World.consistent_drain {behaviour : Behaviour τ σ} {allowed : Nat} {target : Instant}
    {world after : World.Clocked τ σ} (consistent : world.timers.Consistent [])
    (drained : drain Clock.service behaviour allowed target world = some after) :
    after.timers.Consistent [] := by
  have sound : World.Moment.Sound ⟨Routine.done (), [], some target, world⟩ :=
    .amid (fun rests => Option.some_ne_none _ rests.2) consistent
  exact (sound.leadsTo
    (World.Moment.moves_drain Unit behaviour allowed target world after drained _ [])).consistent

/-- A clock on which no tick is under way and none is due. -/
structure Clock.Rested (clock : Clock τ) : Prop where
  settled : ∀ entry ∈ clock.timers, entry.2.task.isSome
  intervals : ∀ entry ∈ clock.timers, Span.ofMs 1 ≤ entry.2.interval
  ahead : ∀ entry ∈ clock.timers, clock.now < entry.2.due
  below_next : ∀ entry ∈ clock.timers, entry.1.number < clock.next
  counted : clock.next = clock.scheduled

theorem Clock.Consistent.rested {clock : Clock τ} (consistent : clock.Consistent [])
    (ahead : clock.Ahead) : clock.Rested where
  settled := consistent.settled
  intervals := consistent.intervals
  ahead := ahead
  below_next entry member := consistent.regular.below_next entry.1 (List.mem_map_of_mem member)
  counted := consistent.counted

/-- A clock keeps its timers in order, whatever a program and its ticks ask of it, moves of the
clock in ticks included.  At every moment of a run the timers without their tasks are those whose
ticks are under way, and no timer's tick is under way twice.  Whenever the program itself acts, all
timers have their tasks, tick at intervals of a millisecond or more, and are ahead of the clock; a
move that the program asks for, and that comes to an end, takes the clock exactly as far as it
says. -/
theorem Clock.in_order_throughout (behaviour : Behaviour τ σ) (program : Routine τ σ α)
    (state : σ) :
    (∀ allowed result world,
      World.perform Clock.service behaviour allowed program ⟨Clock.start, state⟩ =
          some (result, world) →
        ∀ moment, World.Moment.LeadsTo behaviour (.begin program ⟨Clock.start, state⟩) moment →
          World.Moment.LeadsTo behaviour moment (.ended result world)) ∧
    ∀ moment, World.Moment.LeadsTo behaviour (.begin program ⟨Clock.start, state⟩) moment →
      moment.running.Nodup ∧
      (∀ entry ∈ moment.world.timers.timers, entry.2.task = none ↔ entry.1 ∈ moment.running) ∧
      (moment.AtRest → moment.world.timers.Rested ∧
        ∀ span rest, moment.program = .advance span rest →
          ∀ allowed after,
            World.advance Clock.service behaviour allowed span moment.world = some after →
              World.Moment.LeadsTo behaviour moment (.begin rest after) ∧
                after.timers.now = moment.world.timers.now + span) := by
  constructor
  · intro allowed result world performed moment
    exact World.Moment.leadsTo_ended
      (World.Moment.leadsTo_perform behaviour allowed program performed)
  · intro moment leads
    have started : (World.Moment.begin program (⟨Clock.start, state⟩ : World.Clocked τ σ)).Sound :=
      ⟨.start, fun _ _ member => absurd member List.not_mem_nil⟩
    obtain ⟨consistent, ahead⟩ := started.leadsTo leads
    refine ⟨consistent.nodup, consistent.away, ?_⟩
    obtain ⟨program, ticks, moving, world⟩ := moment
    rintro ⟨rfl, rfl⟩
    refine ⟨Consistent.rested consistent (ahead ⟨rfl, rfl⟩), ?_⟩
    rintro span rest rfl allowed after moved
    refine ⟨.head rfl ?_, World.now_drain moved⟩
    exact World.Moment.moves_drain α behaviour allowed _ world after moved rest []

end PageWatch
