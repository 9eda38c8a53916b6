import PageWatch.Proofs.Clock.Deadline
import PageWatch.Proofs.Clock.Routine

/-!
# Moving a clock comes to an end

As long as no tick moves the clock itself, moving a clock is a plain loop: the first due
timer ticks, and so on until none is due.  The loop ends although ticks may schedule any
number of timers.  Everything that becomes due does so after the present instant, so the
timers that are due at it run out, and then time goes on.
-/

namespace PageWatch

variable {τ σ : Type}

namespace Clock

/-- How many timers are due by an instant. -/
def dueBy (instant : Instant) (clock : Clock τ) : Nat :=
  clock.timers.countP fun entry => entry.2.due ≤ instant

@[simp] theorem dueBy_putBack (instant : Instant) (handle : Handle) (task : τ)
    (clock : Clock τ) : (clock.putBack handle task).dueBy instant = clock.dueBy instant := by
  simp only [dueBy, putBack, update, List.countP_map]
  congr 1
  funext entry
  simp only [Function.comp]
  split <;> rfl

/-- A timer that is taken is not due at the same instant again. -/
theorem Takes.dueBy_taking_lt {clock : Clock τ} {target : Instant} {due : Due τ}
    {timer : Timer τ} (takes : clock.Takes target due timer) (orderly : clock.Orderly) :
    (clock.taking due).dueBy due.deadline < clock.dueBy due.deadline := by
  obtain ⟨front, back, split, -, -, changed⟩ := orderly.split takes.member
  have later : ¬due.deadline + timer.interval ≤ due.deadline := by
    have positive := orderly.interval_pos _ takes.member
    lia
  rw [dueBy, dueBy, timers_taking, changed, split]
  simp [List.countP_append, takes.due_eq, later]

end Clock

namespace World

open Clock

variable {behaviour : Behaviour τ σ} {target : Instant}

def arrive (instant : Instant) (world : Clocked τ σ) : Clocked τ σ :=
  { world with timers := { world.timers with now := instant } }

/-- The world after the tick of a due timer. -/
def beat (behaviour : Behaviour τ σ) (due : Due τ) (world : Clocked τ σ) : Clocked τ σ :=
  let ended := { world with timers := world.timers.taking due }.act Clock.service
    (behaviour due.handle due.task)
  { ended.2 with timers := ended.2.timers.putBack due.handle ended.1 }

/-- A clock on which nothing is due is moved at once. -/
theorem drain_rest {world : Clocked τ σ} (next : world.timers.nextDue? target = none)
    (ticks : Nat) :
    drain Clock.service behaviour (ticks + 1) target world = some (world.arrive target) := by
  rw [drain, takeDue?_eq, next]
  rfl

/-- Where a move of the clock starts is of no consequence. -/
theorem drain_atInstant (behaviour : Behaviour τ σ) (ticks : Nat) (target instant : Instant)
    (world : Clocked τ σ) :
    drain Clock.service behaviour ticks target (world.arrive instant) =
      drain Clock.service behaviour ticks target world := by
  cases ticks <;> rfl

/-- A due timer with a still tick ticks before the clock is moved on. -/
theorem drain_tick {world : Clocked τ σ} {due : Due τ}
    (next : world.timers.nextDue? target = some due)
    (still : (behaviour due.handle due.task).Still) (ticks : Nat) :
    drain Clock.service behaviour (ticks + 1) target world =
      drain Clock.service behaviour ticks target (world.beat behaviour due) := by
  rw [drain, takeDue?_eq, next]
  simp only [Option.map_some, Routine.run_eq_act _ _ still]
  rfl

/-- With still ticks, the timers that are due tick one after the other. -/
theorem drain_succ (still : ∀ handle task, (behaviour handle task).Still) (ticks : Nat)
    (world : Clocked τ σ) :
    drain Clock.service behaviour (ticks + 1) target world =
      match world.timers.nextDue? target with
      | none => some (world.arrive target)
      | some due => drain Clock.service behaviour ticks target (world.beat behaviour due) := by
  cases next : world.timers.nextDue? target with
  | none => exact drain_rest next ticks
  | some due => exact drain_tick next (still due.handle due.task) ticks

/-- What every tick preserves holds when a move of the clock is over, up to the last
change of the time. -/
theorem drain_keeps (still : ∀ handle task, (behaviour handle task).Still)
    {holds : Clocked τ σ → Prop}
    (step : ∀ world due, holds world → world.timers.nextDue? target = some due →
      holds (world.beat behaviour due))
    {ticks : Nat} {world after : Clocked τ σ} (start : holds world)
    (ended : drain Clock.service behaviour ticks target world = some after) :
    ∃ last, holds last ∧ last.timers.nextDue? target = none ∧ after = last.arrive target := by
  induction ticks generalizing world with
  | zero => simp [drain] at ended
  | succ ticks ih =>
      rw [drain_succ still] at ended
      cases next : world.timers.nextDue? target with
      | none =>
          simp only [next, Option.some.injEq] at ended
          exact ⟨world, start, next, ended.symm⟩
      | some due =>
          simp only [next] at ended
          exact ih (step world due start next) ended

/-! ## What a tick leaves behind -/

section Beat

variable {due : Due τ} {timer : Timer τ} {world : Clocked τ σ}

@[simp] theorem now_act (world : Clocked τ σ) {α : Type} (routine : Routine τ σ α) :
    (world.act Clock.service routine).2.timers.now = world.timers.now :=
  act_keeps (fun clock => clock.now = world.timers.now)
    (fun _ _ _ same => same) (fun _ _ same => same) (fun _ same => same) routine world rfl

theorem now_beat (behaviour : Behaviour τ σ) (due : Due τ) (world : Clocked τ σ) :
    (world.beat behaviour due).timers.now = due.deadline := by
  simp [beat]

/-- Only the timer that ticks runs during its tick. -/
theorem settledBut_taking (settled : world.timers.Settled) :
    (world.timers.taking due).SettledBut due.handle := by
  intro entry member other
  obtain ⟨former, formerMem, rfl⟩ := mem_timers_update.mp member
  by_cases same : former.1 = due.handle
  · exact absurd (by simp [same]) other
  · simpa [same] using settled former formerMem

/-- What holds of all timers, and of any that is scheduled now, holds of all timers after a
routine. -/
theorem forall_timers_act {α : Type} (routine : Routine τ σ α) {holds : Handle × Timer τ → Prop}
    (fresh : ∀ handle (interval : Span) task,
      holds (handle, ⟨interval.clamp, world.timers.now + interval.clamp, some task⟩))
    (start : ∀ entry ∈ world.timers.timers, holds entry) :
    ∀ entry ∈ (world.act Clock.service routine).2.timers.timers, holds entry := by
  suffices kept : (world.act Clock.service routine).2.timers.now = world.timers.now ∧
      ∀ entry ∈ (world.act Clock.service routine).2.timers.timers, holds entry from kept.2
  refine act_keeps (fun clock => clock.now = world.timers.now ∧
    ∀ entry ∈ clock.timers, holds entry) ?_ ?_ ?_ routine world ⟨rfl, start⟩
  · rintro interval task clock ⟨now, all⟩
    refine ⟨now, fun entry member => ?_⟩
    rcases List.mem_append.mp member with member | member
    · exact all entry member
    · rw [List.mem_singleton.mp member, now]
      exact fresh _ interval _
  · rintro handle clock ⟨now, all⟩
    exact ⟨now, fun entry member => all entry (mem_timers_cancel.mp member).1⟩
  · rintro clock ⟨now, -⟩
    exact ⟨now, fun _ member => absurd member List.not_mem_nil⟩

theorem settledBut_act {handle : Handle} {α : Type} (routine : Routine τ σ α)
    (settled : world.timers.SettledBut handle) :
    (world.act Clock.service routine).2.timers.SettledBut handle :=
  forall_timers_act routine (fun _ _ _ _ => rfl) settled

theorem settled_putBack {clock : Clock τ} {handle : Handle}
    (settled : clock.SettledBut handle) (task : τ) : (clock.putBack handle task).Settled := by
  intro entry member
  obtain ⟨former, formerMem, rfl⟩ := mem_timers_update.mp member
  split
  next => rfl
  next other => exact settled former formerMem other

theorem settled_beat (settled : world.timers.Settled) :
    (world.beat behaviour due).timers.Settled :=
  settled_putBack (settledBut_act _ (settledBut_taking settled)) _

theorem orderly_act {α : Type} (routine : Routine τ σ α) (orderly : world.timers.Orderly) :
    (world.act Clock.service routine).2.timers.Orderly :=
  act_keeps Orderly (fun interval task _ orderly => orderly.schedule interval task)
    (fun handle _ orderly => orderly.cancel handle) (fun _ orderly => orderly.clear)
    routine world orderly

theorem orderly_beat (takes : world.timers.Takes target due timer)
    (orderly : world.timers.Orderly) (settled : world.timers.Settled) :
    (world.beat behaviour due).timers.Orderly :=
  (orderly_act _ (takes.orderly_taking orderly settled)).putBack _ _

/-- During a tick nothing becomes due. -/
theorem dueBy_act {α : Type} (routine : Routine τ σ α) (world : Clocked τ σ) {count : Nat}
    (few : world.timers.dueBy world.timers.now ≤ count) :
    (world.act Clock.service routine).2.timers.dueBy world.timers.now ≤ count := by
  suffices kept : (world.act Clock.service routine).2.timers.now = world.timers.now ∧
      (world.act Clock.service routine).2.timers.dueBy world.timers.now ≤ count from kept.2
  refine act_keeps (fun clock => clock.now = world.timers.now ∧
    clock.dueBy world.timers.now ≤ count) ?_ ?_ ?_ routine world ⟨rfl, few⟩
  · rintro interval task clock ⟨now, few⟩
    refine ⟨now, ?_⟩
    have later : ¬world.timers.now + interval.clamp ≤ world.timers.now := by
      have positive := Span.clamp_pos interval
      lia
    simpa [Clock.service, dueBy, now, later] using few
  · rintro handle clock ⟨now, few⟩
    exact ⟨now, Nat.le_trans (List.Sublist.countP_le List.filter_sublist) few⟩
  · rintro clock ⟨now, -⟩
    exact ⟨now, Nat.zero_le _⟩

theorem dueBy_beat_lt (takes : world.timers.Takes target due timer)
    (orderly : world.timers.Orderly) :
    (world.beat behaviour due).timers.dueBy due.deadline <
      world.timers.dueBy due.deadline := by
  simp only [beat, dueBy_putBack]
  refine Nat.lt_of_le_of_lt ?_ (takes.dueBy_taking_lt orderly)
  exact dueBy_act _ { world with timers := world.timers.taking due } (Nat.le_refl _)

end Beat

/-- With still ticks, a settled and orderly clock can be moved to any instant, and how far
it may tick at most is of no consequence once it is far enough. -/
theorem drain_ends (still : ∀ handle task, (behaviour handle task).Still) (target : Instant)
    (world : Clocked τ σ) (orderly : world.timers.Orderly) (settled : world.timers.Settled) :
    ∃ after limit, ∀ ticks, limit ≤ ticks →
      drain Clock.service behaviour ticks target world = some after := by
  cases next : world.timers.nextDue? target with
  | none =>
      refine ⟨world.arrive target, 1, fun ticks enough => ?_⟩
      obtain ⟨ticks, rfl⟩ := Nat.exists_eq_add_of_le' enough
      rw [drain_succ still, next]
  | some due =>
      obtain ⟨timer, takes⟩ := takes_of_nextDue? orderly next
      have fewer : (world.beat behaviour due).timers.dueBy due.deadline <
          world.timers.dueBy due.deadline := dueBy_beat_lt takes orderly
      have forward := takes.now_le orderly
      have inTime := takes.deadline_le
      obtain ⟨after, limit, ends⟩ := drain_ends still target (world.beat behaviour due)
        (orderly_beat takes orderly settled) (settled_beat settled)
      refine ⟨after, limit + 1, fun ticks enough => ?_⟩
      obtain ⟨ticks, rfl⟩ := Nat.exists_eq_add_of_le' (Nat.le_trans (Nat.le_add_left 1 _) enough)
      rw [drain_succ still, next]
      exact ends ticks (Nat.le_of_succ_le_succ enough)
termination_by (target - world.timers.now, world.timers.dueBy world.timers.now)
decreasing_by
  rw [now_beat]
  rcases Nat.eq_or_lt_of_le forward with same | before
  · rw [same]
    exact Prod.Lex.right _ fewer
  · exact Prod.Lex.left _ _ (Nat.sub_lt_sub_left (Nat.lt_of_lt_of_le before inTime) before)

end World

end PageWatch
