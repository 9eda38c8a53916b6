import PageWatch.Proofs.Clock.Moments

/-!
# How often timers tick

Ticks may schedule timers while a clock is moved, and these may tick on the way and schedule more.
Still no timer ticks more often than once in a millisecond, and a move of the clock comes to an end
as long as no tick moves the clock itself.
-/

namespace PageWatch

variable {τ σ α : Type}

namespace History

/-- How often a timer ticks in a history. -/
def tickCount (history : History) (handle : Handle) : Nat := (history.ticksOf handle).length

@[simp] theorem tickCount_nil (handle : Handle) : tickCount [] handle = 0 := rfl

/-- Only ticks count. -/
theorem tickCount_snoc {history : History} {entry : Instant × Happening}
    (other : ∀ handle, entry.2 ≠ .ticked handle) :
    tickCount (history ++ [entry]) = tickCount history := by
  obtain ⟨now, happening⟩ := entry
  funext handle
  cases happening with
  | ticked ticking => exact absurd rfl (other ticking)
  | looked | scheduled | cancelled | cleared | departed | arrived =>
      simp [tickCount, ticksOf, ticks]

/-- A tick counts for its own timer. -/
theorem tickCount_ticked (history : History) (now : Instant) (ticking handle : Handle) :
    tickCount (history ++ [(now, .ticked ticking)]) handle =
      tickCount history handle + if handle = ticking then 1 else 0 := by
  by_cases own : handle = ticking
  · simp [tickCount, ticksOf, ticks, own]
  · simp [tickCount, ticksOf, ticks, own, Ne.symm own]

end History

/-! ## The pace of timers -/

namespace Clock

/-- A clock at rest is an orderly one. -/
theorem Consistent.orderly {clock : Clock τ} (consistent : clock.Consistent [])
    (ahead : clock.Ahead) : clock.Orderly :=
  { consistent.regular.orderly with
    now_le_due := fun entry member => Nat.le_of_lt (ahead entry member) }

/-- Since some instant, every timer has ticked as often as a count says, and with every tick a
millisecond or more has gone by for it. -/
structure Paced (start : Instant) (count : Handle → Nat) (clock : Clock τ) : Prop where
  begun : start ≤ clock.now
  intervals : ∀ entry ∈ clock.timers, Span.ofMs 1 ≤ entry.2.interval
  late : ∀ entry ∈ clock.timers, start + count entry.1 * Span.ofMs 1 < entry.2.due
  /-- A timer that is still to be scheduled has not ticked. -/
  unused : ∀ handle, clock.next ≤ handle.number → count handle = 0

namespace Paced

variable {clock : Clock τ} {start : Instant} {count : Handle → Nat}

theorem atRest (consistent : clock.Consistent []) (ahead : clock.Ahead) :
    clock.Paced clock.now fun _ => 0 where
  begun := Nat.le_refl _
  intervals := consistent.intervals
  late entry member := by
    rw [Nat.zero_mul]
    exact ahead entry member
  unused _ _ := rfl

theorem schedule (paced : clock.Paced start count) (interval : Span) (task : Handle → τ) :
    (clock.schedule interval task).2.Paced start count where
  begun := paced.begun
  intervals entry member := by
    rw [timers_schedule, List.mem_append, List.mem_singleton] at member
    rcases member with member | rfl
    · exact paced.intervals entry member
    · exact Nat.le_max_right interval (Span.ofMs 1)
  late entry member := by
    rw [timers_schedule, List.mem_append, List.mem_singleton] at member
    rcases member with member | rfl
    · exact paced.late entry member
    · have new : count ⟨clock.next⟩ = 0 := paced.unused ⟨clock.next⟩ (Nat.le_refl _)
      rw [new, Nat.zero_mul]
      have begun := paced.begun
      have positive := Span.clamp_pos interval
      lia
  unused handle beyond := paced.unused handle (Nat.le_of_succ_le beyond)

theorem cancel (paced : clock.Paced start count) (handle : Handle) :
    (clock.cancel handle).Paced start count :=
  { paced with
    intervals := fun entry member => paced.intervals entry (mem_timers_cancel.mp member).1
    late := fun entry member => paced.late entry (mem_timers_cancel.mp member).1 }

theorem clear (paced : clock.Paced start count) : clock.clear.Paced start count :=
  { paced with
    intervals := fun _ member => absurd member List.not_mem_nil
    late := fun _ member => absurd member List.not_mem_nil }

theorem putBack (paced : clock.Paced start count) (handle : Handle) (task : τ) :
    (clock.putBack handle task).Paced start count where
  begun := paced.begun
  intervals entry member := by
    obtain ⟨former, formerMem, rfl⟩ := mem_timers_update.mp member
    have long := paced.intervals former formerMem
    split <;> exact long
  late entry member := by
    obtain ⟨former, formerMem, rfl⟩ := mem_timers_update.mp member
    have later := paced.late former formerMem
    split <;> exact later
  unused := paced.unused

/-- A timer that ticks is late enough for all of its ticks so far. -/
theorem lt_deadline (paced : clock.Paced start count) {target : Instant} {due : Due τ}
    (next : clock.nextDue? target = some due) :
    start + count due.handle * Span.ofMs 1 < due.deadline := by
  obtain ⟨timer, member, -, due_eq, -⟩ := exists_of_nextDue? next
  exact due_eq ▸ paced.late (due.handle, timer) member

/-- The next deadline of a timer that ticks is a millisecond or more after this one. -/
theorem taking (paced : clock.Paced start count) (orderly : clock.Orderly) {target : Instant}
    {due : Due τ} (next : clock.nextDue? target = some due) :
    (clock.taking due).Paced start fun handle =>
      count handle + if handle = due.handle then 1 else 0 where
  begun := by
    have later := paced.lt_deadline next
    rw [now_taking]
    lia
  intervals entry member := by
    obtain ⟨former, formerMem, rfl⟩ := mem_timers_update.mp member
    have long := paced.intervals former formerMem
    split <;> exact long
  late entry member := by
    obtain ⟨former, formerMem, rfl⟩ := mem_timers_update.mp member
    by_cases own : former.1 = due.handle
    · have later := paced.lt_deadline next
      have long := paced.intervals former formerMem
      simp only [own, if_true]
      rw [Nat.add_one_mul, ← Nat.add_assoc]
      exact Nat.add_lt_add_of_lt_of_le later long
    · simp only [own, if_false, Nat.add_zero]
      exact paced.late former formerMem
  unused handle beyond := by
    obtain ⟨timer, member, -⟩ := exists_of_nextDue? next
    have given : due.handle.number < clock.next := orderly.below_next _ member
    have other : handle ≠ due.handle := by
      rintro rfl
      exact Nat.not_lt_of_le beyond given
    rw [if_neg other]
    exact paced.unused handle beyond

end Paced

end Clock

namespace World

open Clock History

variable {behaviour : Behaviour τ σ} {start target : Instant} {count : Handle → Nat}

/-- Timers keep pace with the ticks that a chronicle counts. -/
structure Counted (start : Instant) (count : Handle → Nat)
    (world : Clocked τ (σ × History)) : Prop where
  paced : world.timers.Paced start count
  counts : world.state.2.tickCount = count

/-- A chronicle may go on with anything but a tick. -/
theorem Counted.noting {world : Clocked τ (σ × History)} (counted : world.Counted start count)
    {timers : Clock τ} (paced : timers.Paced start count) (state : σ) (now : Instant)
    {happening : Happening} (other : ∀ handle, happening ≠ .ticked handle) :
    Counted start count ⟨timers, (state, world.state.2 ++ [(now, happening)])⟩ :=
  ⟨paced, (tickCount_snoc other).trans counted.counts⟩

/-- What a routine asks of its timers is no tick. -/
theorem Counted.act {routine : Routine τ σ α} (still : routine.Still)
    {world : Clocked τ (σ × History)} (counted : world.Counted start count) :
    (world.act Clock.service routine.chronicled).2.Counted start count := by
  induction routine generalizing world with
  | done result => exact counted
  | look next ih =>
      exact ih _ _ (still _ _) (counted.noting counted.paced _ _ fun _ => nofun)
  | put state next ih => exact ih still ⟨counted.paced, counted.counts⟩
  | schedule interval task next ih =>
      have scheduled := counted.paced.schedule interval task
      exact ih _ (still _) (counted.noting scheduled _ _ fun _ => nofun)
  | cancel handle next ih =>
      have cancelled := counted.paced.cancel handle
      exact ih still (counted.noting cancelled _ _ fun _ => nofun)
  | clear next ih =>
      have cleared := counted.paced.clear
      exact ih still (counted.noting cleared _ _ fun _ => nofun)
  | advance span next => exact still.elim

theorem Counted.beat (still : ∀ handle task, (behaviour handle task).Still)
    {world : Clocked τ (σ × History)} (counted : world.Counted start count)
    (orderly : world.timers.Orderly) {due : Due τ}
    (next : world.timers.nextDue? target = some due) :
    (world.beat behaviour.chronicled due).Counted start fun handle =>
      count handle + if handle = due.handle then 1 else 0 := by
  let ticking : Clocked τ (σ × History) :=
    ⟨world.timers.taking due,
      (world.state.1, world.state.2 ++ [(due.deadline, .ticked due.handle)])⟩
  have begun : ticking.Counted start fun handle =>
      count handle + if handle = due.handle then 1 else 0 := by
    refine ⟨counted.paced.taking orderly next, ?_⟩
    funext handle
    rw [tickCount_ticked, counted.counts]
  have ended := begun.act (still due.handle due.task)
  exact ⟨ended.paced.putBack _ _, ended.counts⟩

/-- What holds while a clock is moved: the timers are in order, and no timer has ticked more often
than there is time for. -/
structure InPace (start target : Instant) (world : Clocked τ (σ × History)) : Prop where
  orderly : world.timers.Orderly
  settled : world.timers.Settled
  paced : world.timers.Paced start world.state.2.tickCount
  few : ∀ handle,
    start + world.state.2.tickCount handle * Span.ofMs 1 < target + Span.ofMs 1

theorem InPace.beat (still : ∀ handle task, (behaviour handle task).Still)
    {world : Clocked τ (σ × History)} (inPace : world.InPace start target) {due : Due τ}
    (next : world.timers.nextDue? target = some due) :
    (world.beat behaviour.chronicled due).InPace start target := by
  obtain ⟨timer, takes⟩ := takes_of_nextDue? inPace.orderly next
  obtain ⟨paced, counts⟩ := Counted.beat still ⟨inPace.paced, rfl⟩ inPace.orderly next
  refine ⟨orderly_beat takes inPace.orderly inPace.settled, settled_beat inPace.settled,
    counts.symm ▸ paced, fun handle => ?_⟩
  rw [counts]
  by_cases own : handle = due.handle
  · have later := inPace.paced.lt_deadline next
    have inTime := takes.deadline_le
    simp only [own, if_true]
    rw [Nat.add_one_mul, ← Nat.add_assoc]
    exact Nat.add_lt_add_right (Nat.lt_of_lt_of_le later inTime) _
  · simpa [own] using inPace.few handle

end World

/-- A move of the clock comes to an end if no tick in it moves the clock, however many timers the
ticks schedule and at whatever intervals, and no timer ticks more than once in it, and once more for
every whole millisecond.  The clock may be at any state that it has between the requests of a
program, whose own ticks may have moved it. -/
theorem Clock.advance_ends {ρ : Type} (earlier : Behaviour τ ρ) (program : Routine τ ρ α)
    (origin : ρ) {allowed : Nat} {result : α} {reached : World.Clocked τ ρ}
    (performed : World.perform Clock.service earlier allowed program ⟨Clock.start, origin⟩ =
      some (result, reached))
    (behaviour : Behaviour τ σ) (still : ∀ handle task, (behaviour handle task).Still)
    (span : Span) (state : σ) :
    ∃ after history,
      ComesTo (fun ticks => World.advance Clock.service behaviour ticks span
        ⟨reached.timers, state⟩) after ∧
      ComesTo (fun ticks => World.advance Clock.service behaviour.chronicled ticks span
        ⟨reached.timers, (state, [])⟩) ⟨after.timers, (after.state, history)⟩ ∧
      ∀ handle, (history.ticksOf handle).length ≤ span.wholeMs + 1 := by
  have began : (World.Moment.begin program (⟨Clock.start, origin⟩ : World.Clocked τ ρ)).Sound :=
    ⟨.start, fun _ _ member => absurd member List.not_mem_nil⟩
  have sound := began.leadsTo (World.Moment.leadsTo_perform earlier allowed program performed)
  have consistent : reached.timers.Consistent [] := sound.consistent
  have ahead : reached.timers.Ahead := sound.ahead ⟨rfl, rfl⟩
  let target := reached.timers.now + span
  let world : World.Clocked τ (σ × History) := ⟨reached.timers, (state, [])⟩
  have stillNoting := Behaviour.still_chronicled still
  obtain ⟨ended, limit, ends⟩ := World.drain_ends stillNoting target world
    (consistent.orderly ahead) consistent.settled
  have mirrored (ticks : Nat) := World.drain_mirrors Clock.service
    behaviour.mirrors_chronicled ticks target world
  have inPace : world.InPace reached.timers.now target := by
    refine ⟨consistent.orderly ahead, consistent.settled, .atRest consistent ahead, fun _ => ?_⟩
    have within : reached.timers.now ≤ target := Nat.le_add_right _ _
    have positive : 0 < Span.ofMs 1 := by decide
    rw [History.tickCount_nil]
    lia
  obtain ⟨last, paced, -, rfl⟩ := World.drain_keeps stillNoting
    (fun _ _ inPace next => inPace.beat still next) inPace (ends limit (Nat.le_refl limit))
  refine ⟨(last.arrive target).forget, last.state.2, ⟨limit, fun ticks enough => ?_⟩,
    ⟨limit, ends⟩, fun handle => ?_⟩
  · have same := mirrored ticks
    rw [ends ticks enough] at same
    exact same.symm
  · have few := paced.few handle
    have millisecond : Span.ofMs 1 = 1000000 := rfl
    simp only [History.tickCount, millisecond, target] at few
    unfold Span.wholeMs
    lia

/-- Timers that schedule another timer like themselves whenever they tick, and ask for no interval
at all. -/
theorem Clock.advance_ends_breeding :
    ∃ (after : World.Clocked Unit Unit) (history : History),
      ComesTo (fun ticks => World.advance Clock.service
        (fun _ _ => .schedule 0 (fun _ => ()) fun _ => .done ()) ticks (Span.ofMs 3)
        ⟨(Clock.start.schedule 0 fun _ => ()).2, ()⟩) after ∧
      ComesTo (fun ticks => World.advance Clock.service
        (Behaviour.chronicled fun _ _ => .schedule 0 (fun _ => ()) fun _ => .done ()) ticks
        (Span.ofMs 3) ⟨(Clock.start.schedule 0 fun _ => ()).2, ((), [])⟩)
        ⟨after.timers, (after.state, history)⟩ ∧
      ∀ handle, (history.ticksOf handle).length ≤ 4 := by
  have performed : World.perform Clock.service (fun _ (_ : Unit) => .done ()) 1
      (.schedule 0 (fun _ => ()) fun _ => .done ()) ⟨Clock.start, ()⟩ =
        some ((), ⟨(Clock.start.schedule 0 fun _ => ()).2, ()⟩) := rfl
  exact Clock.advance_ends _ _ () performed
    (fun _ _ => .schedule 0 (fun _ => ()) fun _ => .done ()) (fun _ _ _ => trivial) (Span.ofMs 3) ()

end PageWatch
