import Mathlib.Algebra.GroupWithZero.Nat
import PageWatch.Proofs.Clock.Cancellation

/-!
# Nested moves come to an end

A tick may itself move the clock, so that other timers tick before it is done, and the time may go
back when it is.  All of this comes to an end as long as moves are paid for.  Tasks and routines
have budgets; a move of the clock costs something that is lost, and what a timer is given comes out
of the budget of the routine that schedules it.
-/

namespace PageWatch

variable {τ σ α β : Type}

/-- A result that an attempt has as soon as it is allowed enough ticks. -/
def ComesTo (attempt : Nat → Option α) (result : α) : Prop :=
  ∃ limit, ∀ ticks, limit ≤ ticks → attempt ticks = some result

namespace ComesTo

theorem always {attempt : Nat → Option α} {result : α}
    (same : ∀ ticks, attempt ticks = some result) :
    ComesTo attempt result := ⟨0, fun ticks _ => same ticks⟩

theorem once {attempt : Nat → Option α} {result : α} (comes : ComesTo attempt result) :
    ∃ ticks, attempt ticks = some result := by
  obtain ⟨limit, ends⟩ := comes
  exact ⟨limit, ends limit (Nat.le_refl limit)⟩

theorem unique {attempt : Nat → Option α} {first second : α} (one : ComesTo attempt first)
    (other : ComesTo attempt second) : first = second := by
  obtain ⟨early, begins⟩ := one
  obtain ⟨late, ends⟩ := other
  have begun := begins (max early late) (Nat.le_max_left _ _)
  rw [ends (max early late) (Nat.le_max_right _ _)] at begun
  exact (Option.some.inj begun).symm

theorem bind {attempt : Nat → Option α} {rest : Nat → α → Option β} {middle : α} {result : β}
    (first : ComesTo attempt middle) (second : ComesTo (fun ticks => rest ticks middle) result) :
    ComesTo (fun ticks => (attempt ticks).bind (rest ticks)) result := by
  obtain ⟨early, begins⟩ := first
  obtain ⟨late, ends⟩ := second
  refine ⟨max early late, fun ticks enough => ?_⟩
  have begun := begins ticks (Nat.le_trans (Nat.le_max_left _ _) enough)
  simp only [begun, Option.bind_some]
  exact ends ticks (Nat.le_trans (Nat.le_max_right _ _) enough)

theorem map {attempt : Nat → Option α} {result : α} (comes : ComesTo attempt result) (f : α → β) :
    ComesTo (fun ticks => (attempt ticks).map f) (f result) := by
  obtain ⟨limit, ends⟩ := comes
  exact ⟨limit, fun ticks enough => congrArg (Option.map f) (ends ticks enough)⟩

/-- One more tick may be used up before an attempt. -/
theorem succ {attempt later : Nat → Option α} {result : α} (comes : ComesTo attempt result)
    (same : ∀ ticks, later (ticks + 1) = attempt ticks) : ComesTo later result := by
  obtain ⟨limit, ends⟩ := comes
  refine ⟨limit + 1, fun ticks enough => ?_⟩
  obtain ⟨ticks, rfl⟩ := Nat.exists_eq_add_of_le' (Nat.le_trans (Nat.le_add_left 1 limit) enough)
  rw [same]
  exact ends ticks (Nat.le_of_succ_le_succ enough)

end ComesTo

/-! ## Budgets -/

/-- A routine keeps within a budget.  What it gives to timers and what it keeps in the end comes out
of the budget, and every move of the clock costs something. -/
def Routine.Within (weigh : τ → Nat) (keeps : α → Nat) : Nat → Routine τ σ α → Prop
  | budget, done result => keeps result ≤ budget
  | budget, look next => ∀ now state, (next now state).Within weigh keeps budget
  | budget, put _ next => next.Within weigh keeps budget
  | budget, schedule _ task next =>
    ∃ price left, price + left ≤ budget ∧
      ∀ handle, weigh (task handle) ≤ price ∧ (next handle).Within weigh keeps left
  | budget, cancel _ next => next.Within weigh keeps budget
  | budget, clear next => next.Within weigh keeps budget
  | budget, advance _ next => ∃ left, left < budget ∧ next.Within weigh keeps left

namespace Routine.Within

variable {weigh : τ → Nat} {keeps : α → Nat} {budget : Nat}

theorem mono {more : Nat} {routine : Routine τ σ α} (within : routine.Within weigh keeps budget)
    (le : budget ≤ more) : routine.Within weigh keeps more := by
  induction routine generalizing budget more with
  | done result => exact Nat.le_trans within le
  | look next ih => exact fun now state => ih now state (within now state) le
  | put state next ih => exact ih within le
  | schedule interval task next ih =>
      obtain ⟨price, left, fits, nexts⟩ := within
      exact ⟨price, left, Nat.le_trans fits le, nexts⟩
  | cancel handle next ih => exact ih within le
  | clear next ih => exact ih within le
  | advance span next ih =>
      obtain ⟨left, less, onward⟩ := within
      exact ⟨left, Nat.lt_of_lt_of_le less le, onward⟩

/-- What is added to a budget is left in the end. -/
theorem frame {routine : Routine τ σ α} (within : routine.Within weigh keeps budget)
    (extra : Nat) : routine.Within weigh (fun result => extra + keeps result) (extra + budget) := by
  induction routine generalizing budget with
  | done result => exact Nat.add_le_add_left within extra
  | look next ih => exact fun now state => ih now state (within now state)
  | put state next ih => exact ih within
  | schedule interval task next ih =>
      obtain ⟨price, left, fits, nexts⟩ := within
      refine ⟨price, extra + left, ?_, fun handle => ⟨(nexts handle).1, ih handle (nexts handle).2⟩⟩
      lia
  | cancel handle next ih => exact ih within
  | clear next ih => exact ih within
  | advance span next ih =>
      obtain ⟨left, less, onward⟩ := within
      exact ⟨extra + left, Nat.add_lt_add_left less extra, ih onward⟩

/-- What follows has what was kept for a budget. -/
theorem bind {routine : Routine τ σ α} {rest : α → Routine τ σ β} {last : β → Nat}
    (within : routine.Within weigh keeps budget)
    (rests : ∀ result, (rest result).Within weigh last (keeps result)) :
    (routine.bind rest).Within weigh last budget := by
  induction routine generalizing budget with
  | done result => exact (rests result).mono within
  | look next ih => exact fun now state => ih now state (within now state)
  | put state next ih => exact ih within
  | schedule interval task next ih =>
      obtain ⟨price, left, fits, nexts⟩ := within
      exact ⟨price, left, fits, fun handle => ⟨(nexts handle).1, ih handle (nexts handle).2⟩⟩
  | cancel handle next ih => exact ih within
  | clear next ih => exact ih within
  | advance span next ih =>
      obtain ⟨left, less, onward⟩ := within
      exact ⟨left, less, ih onward⟩

/-- A routine that gives timers nothing heavy and never moves the clock costs nothing. -/
theorem of_modest {routine : Routine τ σ α} {ends : α → Prop}
    (modest : routine.Modest False (fun task => weigh task = 0) ends)
    (fits : ∀ result, ends result → keeps result ≤ budget) :
    routine.Within weigh keeps budget := by
  induction routine with
  | done result => exact fits result modest
  | look next ih => exact fun now state => ih now state (modest now state)
  | put state next ih => exact ih modest
  | schedule interval task next ih =>
      refine ⟨0, budget, Nat.le_of_eq (Nat.zero_add budget), fun handle => ⟨?_, ?_⟩⟩
      · exact Nat.le_of_eq (modest.1 handle)
      · exact ih handle (modest.2 handle)
  | cancel handle next ih => exact ih modest
  | clear next ih => exact ih modest.2
  | advance span next ih => exact modest.elim

theorem of_modest_bind {routine : Routine τ σ β} {rest : β → Routine τ σ α} {ends : β → Prop}
    (modest : routine.Modest False (fun task => weigh task = 0) ends)
    (rests : ∀ result, (rest result).Within weigh keeps budget) :
    (routine.bind rest).Within weigh keeps budget := by
  have prefixed : routine.Within weigh (fun _ => budget) budget :=
    of_modest modest fun _ _ => Nat.le_refl budget
  exact prefixed.bind rests

end Routine.Within

/-! ## Clocks whose timers may be overdue -/

/-- What a timer weighs.  A task that runs has been taken out of its timer. -/
def Timer.weight (weigh : τ → Nat) (timer : Timer τ) : Nat := (timer.task.map weigh).getD 0

namespace Clock

/-- A clock on which timers have distinct numbers and tick at intervals that let time pass.  They
may be overdue. -/
structure Regular (clock : Clock τ) : Prop where
  sorted : clock.handles.Pairwise fun first second => first.number < second.number
  below_next : ∀ handle ∈ clock.handles, handle.number < clock.next
  interval_pos : ∀ entry ∈ clock.timers, 0 < entry.2.interval

variable {clock : Clock τ}

theorem Orderly.regular (orderly : clock.Orderly) : clock.Regular where
  sorted := List.pairwise_map.mpr orderly.sorted
  below_next handle member := by
    obtain ⟨entry, entryMem, rfl⟩ := List.mem_map.mp member
    exact orderly.below_next entry entryMem
  interval_pos := orderly.interval_pos

namespace Regular

theorem atInstant (regular : clock.Regular) (now : Instant) :
    Regular { clock with now } :=
  ⟨regular.sorted, regular.below_next, regular.interval_pos⟩

/-- At the start of time nothing is overdue. -/
theorem orderly (regular : clock.Regular) : Orderly { clock with now := 0 } where
  sorted := by
    have sorted := regular.sorted
    rw [handles, List.pairwise_map] at sorted
    exact sorted
  below_next entry member := regular.below_next entry.1 (List.mem_map_of_mem member)
  interval_pos := regular.interval_pos
  now_le_due _ _ := Nat.zero_le _

theorem schedule (regular : clock.Regular) (interval : Span) (task : Handle → τ) :
    (clock.schedule interval task).2.Regular where
  sorted := by
    rw [handles, timers_schedule, List.map_append, List.pairwise_append]
    refine ⟨regular.sorted, List.pairwise_singleton _ _, fun handle member other otherMem => ?_⟩
    rw [List.mem_singleton.mp otherMem]
    exact regular.below_next handle member
  below_next handle member := by
    rw [handles, timers_schedule, List.map_append, List.mem_append] at member
    cases member with
    | inl member => exact Nat.lt_succ_of_lt (regular.below_next handle member)
    | inr member => exact List.mem_singleton.mp member ▸ Nat.lt_succ_self _
  interval_pos entry member := by
    rw [timers_schedule, List.mem_append] at member
    cases member with
    | inl member => exact regular.interval_pos entry member
    | inr member => exact List.mem_singleton.mp member ▸ Span.clamp_pos interval

theorem cancel (regular : clock.Regular) (handle : Handle) : (clock.cancel handle).Regular :=
  (regular.orderly.cancel handle).regular.atInstant clock.now

theorem clear (regular : clock.Regular) : clock.clear.Regular :=
  regular.orderly.clear.regular.atInstant clock.now

theorem putBack (regular : clock.Regular) (handle : Handle) (task : τ) :
    (clock.putBack handle task).Regular :=
  (regular.orderly.putBack handle task).regular.atInstant clock.now

theorem taking (regular : clock.Regular) (due : Due τ) : (clock.taking due).Regular := by
  let change (timer : Timer τ) : Timer τ :=
    { timer with due := due.deadline + timer.interval, task := none }
  have changed : Orderly (update due.handle change { clock with now := 0 }) :=
    regular.orderly.update due.handle (fun _ => rfl) fun _ _ => Nat.zero_le _
  exact changed.regular.atInstant due.deadline

end Regular

/-! ## What the tasks on a clock weigh -/

/-- What all tasks on a clock weigh together. -/
def weight (weigh : τ → Nat) (clock : Clock τ) : Nat :=
  (clock.timers.map fun entry => entry.2.weight weigh).sum

variable {weigh : τ → Nat}

theorem weight_schedule (interval : Span) (task : Handle → τ) :
    (clock.schedule interval task).2.weight weigh =
      clock.weight weigh + weigh (task ⟨clock.next⟩) := by
  rw [weight, timers_schedule, List.map_append, List.sum_append]
  rfl

theorem weight_cancel (handle : Handle) :
    (clock.cancel handle).weight weigh ≤ clock.weight weigh := by
  simp only [weight, cancel]
  induction clock.timers with
  | nil => exact Nat.le_refl _
  | cons entry rest ih =>
      by_cases own : entry.1 = handle
      · simp only [own, bne_self_eq_false, Bool.false_eq_true, not_false_eq_true,
          List.filter_cons_of_neg, List.map_cons, List.sum_cons]
        exact Nat.le_trans ih (Nat.le_add_left _ _)
      · simpa [own] using ih

/-- Taking a timer takes the weight of its task off the clock. -/
theorem weight_taking (regular : clock.Regular) {target : Instant} {due : Due τ}
    (next : clock.nextDue? target = some due) :
    (clock.taking due).weight weigh + weigh due.task = clock.weight weigh := by
  obtain ⟨timer, member, holds, -⟩ := exists_of_nextDue? next
  obtain ⟨front, back, split, -, -, changed⟩ := regular.orderly.split member
  have taken : (clock.taking due).timers =
      front ++ (due.handle, ⟨timer.interval, due.deadline + timer.interval, none⟩) :: back :=
    changed fun timer => { timer with due := due.deadline + timer.interval, task := none }
  have before : clock.timers = front ++ (due.handle, timer) :: back := split
  simp [weight, taken, before, Timer.weight, holds]
  lia

/-- A task that is put back adds at most its weight. -/
theorem weight_putBack (regular : clock.Regular) (handle : Handle) (task : τ) :
    (clock.putBack handle task).weight weigh ≤ clock.weight weigh + weigh task := by
  by_cases known : handle ∈ clock.handles
  · obtain ⟨⟨owner, timer⟩, member, rfl⟩ := List.mem_map.mp known
    obtain ⟨front, back, split, -, -, changed⟩ := regular.orderly.split member
    have after : (clock.putBack owner task).timers =
        front ++ (owner, { timer with task := some task }) :: back :=
      changed fun timer => { timer with task := some task }
    have before : clock.timers = front ++ (owner, timer) :: back := split
    simp [weight, after, before, Timer.weight]
    lia
  · have gone : ∀ entry ∈ clock.timers, entry.1 ≠ handle :=
      fun entry member same => known (same ▸ List.mem_map_of_mem member)
    rw [putBack_gone task gone]
    exact Nat.le_add_right _ _

end Clock

namespace World

open Clock

variable {weigh : τ → Nat} {keeps : α → Nat} {behaviour : Behaviour τ σ}

/-- A routine with a budget has ended.  Nothing has become heavier than was allowed in total, and it
is lighter, unless the clock was never moved. -/
structure Spent (weigh : τ → Nat) (keeps : α → Nat) (total : Nat) (plain ended : α × Clocked τ σ) :
    Prop where
  regular : ended.2.timers.Regular
  within : ended.2.timers.weight weigh + keeps ended.1 ≤ total
  lighter : ended ≠ plain → ended.2.timers.weight weigh + keeps ended.1 < total

theorem Spent.mono {total more : Nat} {plain ended : α × Clocked τ σ}
    (spent : Spent weigh keeps total plain ended) (le : total ≤ more) :
    Spent weigh keeps more plain ended :=
  ⟨spent.regular, Nat.le_trans spent.within le,
    fun moved => Nat.lt_of_lt_of_le (spent.lighter moved) le⟩

/-- A routine with a budget comes to an end if the clock can be moved whenever it is lighter. -/
theorem run_ends {budget : Nat} {routine : Routine τ σ α}
    (within : routine.Within weigh keeps budget) (world : Clocked τ σ)
    (regular : world.timers.Regular)
    (moves : ∀ span inner, inner.timers.Regular →
      inner.timers.weight weigh < world.timers.weight weigh + budget →
        ∃ after, ComesTo (fun ticks => advance Clock.service behaviour ticks span inner) after ∧
          after.timers.Regular ∧ after.timers.weight weigh ≤ inner.timers.weight weigh) :
    ∃ ended,
      ComesTo (fun ticks => routine.run Clock.service (advance Clock.service behaviour ticks) world)
        ended ∧
      Spent weigh keeps (world.timers.weight weigh + budget) (world.act Clock.service routine)
        ended := by
  induction routine generalizing world budget with
  | done result =>
      refine ⟨(result, world), .always fun _ => rfl, regular, ?_, fun moved => absurd rfl moved⟩
      exact Nat.add_le_add_left within _
  | look next ih => exact ih _ _ (within _ _) world regular moves
  | put state next ih => exact ih within _ regular moves
  | schedule interval task next ih =>
      obtain ⟨price, left, fits, nexts⟩ := within
      obtain ⟨given, onward⟩ := nexts ⟨world.timers.next⟩
      let timers := (world.timers.schedule interval task).2
      have total : timers.weight weigh + left ≤ world.timers.weight weigh + budget := by
        have added : timers.weight weigh = _ := weight_schedule interval task
        lia
      obtain ⟨ended, comes, spent⟩ := ih _ onward { world with timers }
        (regular.schedule interval task)
        fun span inner sound less => moves span inner sound (Nat.lt_of_lt_of_le less total)
      exact ⟨ended, comes, spent.mono total⟩
  | cancel handle next ih =>
      let timers := world.timers.cancel handle
      have total : timers.weight weigh + budget ≤ world.timers.weight weigh + budget :=
        Nat.add_le_add_right (weight_cancel handle) _
      obtain ⟨ended, comes, spent⟩ := ih within { world with timers } (regular.cancel handle)
        fun span inner sound less => moves span inner sound (Nat.lt_of_lt_of_le less total)
      exact ⟨ended, comes, spent.mono total⟩
  | clear next ih =>
      let timers := world.timers.clear
      have total : timers.weight weigh + budget ≤ world.timers.weight weigh + budget :=
        Nat.add_le_add_right (Nat.zero_le _) _
      obtain ⟨ended, comes, spent⟩ := ih within { world with timers } regular.clear
        fun span inner sound less => moves span inner sound (Nat.lt_of_lt_of_le less total)
      exact ⟨ended, comes, spent.mono total⟩
  | advance span next ih =>
      obtain ⟨left, less, onward⟩ := within
      obtain ⟨after, arrives, sound, light⟩ := moves span world regular (by lia)
      have total : after.timers.weight weigh + left < world.timers.weight weigh + budget := by lia
      obtain ⟨ended, comes, spent⟩ := ih onward after sound
        fun span inner sound less => moves span inner sound (Nat.lt_trans less total)
      refine ⟨ended, arrives.bind comes, spent.regular, ?_, fun _ => ?_⟩
      · exact Nat.le_trans spent.within (Nat.le_of_lt total)
      · exact Nat.lt_of_le_of_lt spent.within total

/-- After a tick, no timer whose task is there is due before the tick. -/
theorem due_le_beat {target : Instant} {due : Due τ} {timer : Timer τ} {world : Clocked τ σ}
    (takes : world.timers.Takes target due timer) :
    ∀ entry ∈ (world.beat behaviour due).timers.timers, entry.2.task.isSome →
      due.deadline ≤ entry.2.due := by
  -- The timer that ticks is to get its task back, so it counts already while it runs.
  let punctual (entry : Handle × Timer τ) : Prop :=
    entry.2.task.isSome ∨ entry.1 = due.handle → due.deadline ≤ entry.2.due
  have running : ∀ entry ∈ (world.timers.taking due).timers, punctual entry := by
    intro entry member idle
    obtain ⟨former, formerMem, rfl⟩ := mem_timers_update.mp member
    by_cases own : former.1 = due.handle
    · rw [if_pos own]
      exact Nat.le_add_right _ _
    · rw [if_neg own] at idle ⊢
      have first := takes.first former formerMem (idle.resolve_right own)
      unfold Before at first
      lia
  let taken : Clocked τ σ := { world with timers := world.timers.taking due }
  have ended : ∀ entry ∈ (taken.act Clock.service
      (behaviour due.handle due.task)).2.timers.timers, punctual entry :=
    forall_timers_act _ (fun _ _ _ _ => Nat.le_add_right _ _) running
  intro entry member idle
  obtain ⟨former, formerMem, rfl⟩ := mem_timers_update.mp member
  by_cases own : former.1 = due.handle
  · rw [if_pos own]
    exact ended former formerMem (.inr own)
  · rw [if_neg own] at idle ⊢
    exact ended former formerMem (.inl idle)

/-- The tick of a due timer comes to an end, with all the moves in it, if the clock can be moved
whenever it is lighter.  The clock is lighter afterwards, unless the tick has not moved it. -/
theorem tick_ends (behaves : ∀ handle task,
      (behaviour handle task).Within weigh weigh (weigh task))
    {world : Clocked τ σ} (regular : world.timers.Regular) {target : Instant} {due : Due τ}
    (next : world.timers.nextDue? target = some due)
    (moves : ∀ span inner, inner.timers.Regular →
      inner.timers.weight weigh < world.timers.weight weigh →
        ∃ after, ComesTo (fun ticks => advance Clock.service behaviour ticks span inner) after ∧
          after.timers.Regular ∧ after.timers.weight weigh ≤ inner.timers.weight weigh) :
    ∃ onward, onward.timers.Regular ∧
      onward.timers.weight weigh ≤ world.timers.weight weigh ∧
      (onward ≠ world.beat behaviour due →
        onward.timers.weight weigh < world.timers.weight weigh) ∧
      ∀ after, ComesTo (fun ticks => drain Clock.service behaviour ticks target onward) after →
        ComesTo (fun ticks => drain Clock.service behaviour ticks target world) after := by
  let taken : Clocked τ σ := { world with timers := world.timers.taking due }
  let back (ended : τ × Clocked τ σ) : Clocked τ σ :=
    { ended.2 with timers := ended.2.timers.putBack due.handle ended.1 }
  have total : taken.timers.weight weigh + weigh due.task = world.timers.weight weigh :=
    weight_taking regular next
  obtain ⟨ended, comes, spent⟩ := run_ends (behaves due.handle due.task) taken
    (regular.taking due) fun span inner sound less => moves span inner sound (total ▸ less)
  rw [total] at spent
  have added : (back ended).timers.weight weigh ≤
      ended.2.timers.weight weigh + weigh ended.1 :=
    weight_putBack spent.regular due.handle ended.1
  refine ⟨back ended, spent.regular.putBack due.handle ended.1, Nat.le_trans added spent.within,
    ?_, ?_⟩
  · intro moved
    have active : ended ≠ taken.act Clock.service (behaviour due.handle due.task) :=
      fun still => moved (congrArg back still)
    exact Nat.lt_of_le_of_lt added (spent.lighter active)
  · intro after arrives
    have whole : ComesTo (fun ticks =>
        ((behaviour due.handle due.task).run Clock.service
          (advance Clock.service behaviour ticks) taken).bind fun ended =>
            drain Clock.service behaviour ticks target (back ended)) after :=
      comes.bind arrives
    apply whole.succ
    intro ticks
    rw [drain, takeDue?_eq, next]
    rfl

/-- Moving the clock comes to an end if every tick has the weight of its task for a budget.  A tick
that moves the clock makes it lighter; any other leaves less to do at its instant, and no timer is
due before that. -/
theorem drain_comesTo (behaves : ∀ handle task,
      (behaviour handle task).Within weigh weigh (weigh task)) (target floor : Instant)
    (world : Clocked τ σ) (regular : world.timers.Regular)
    (above : ∀ entry ∈ world.timers.timers, entry.2.task.isSome → floor ≤ entry.2.due) :
    ∃ after, ComesTo (fun ticks => drain Clock.service behaviour ticks target world) after ∧
      after.timers.Regular ∧ after.timers.weight weigh ≤ world.timers.weight weigh := by
  cases next : world.timers.nextDue? target with
  | none =>
      refine ⟨world.arrive target, ?_, regular.atInstant target, Nat.le_refl _⟩
      exact ComesTo.succ (.always fun _ => rfl) (drain_rest next)
  | some due =>
      obtain ⟨onward, sound, light, lighter, resumes⟩ := tick_ends behaves regular next
        fun span inner sound less =>
          drain_comesTo behaves (inner.timers.now + span) 0 inner sound fun _ _ _ => Nat.zero_le _
      obtain ⟨after, arrives, last, lightest⟩ : ∃ after,
          ComesTo (fun ticks => drain Clock.service behaviour ticks target onward) after ∧
            after.timers.Regular ∧ after.timers.weight weigh ≤ onward.timers.weight weigh := by
        by_cases moved : onward ≠ world.beat behaviour due
        · have less := lighter moved
          exact drain_comesTo behaves target 0 onward sound fun _ _ _ => Nat.zero_le _
        · have ticked : onward = world.beat behaviour due := not_not.mp moved
          obtain ⟨timer, takes⟩ := takes_of_nextDue? regular.orderly next
          have atStart : (world.arrive 0).timers.Takes target due timer := takes
          have takes : world.timers.Takes target due timer := { takes with }
          have fewer : ((world.arrive 0).beat behaviour due).timers.dueBy due.deadline <
              (world.arrive 0).timers.dueBy due.deadline := dueBy_beat_lt atStart regular.orderly
          have fewer : onward.timers.dueBy due.deadline < world.timers.dueBy due.deadline :=
            ticked ▸ fewer
          have inTime := takes.deadline_le
          have late : floor ≤ due.deadline :=
            takes.due_eq ▸ above _ takes.member (takes.task_eq ▸ rfl)
          exact drain_comesTo behaves target due.deadline onward sound
            (ticked ▸ due_le_beat takes)
      exact ⟨after, resumes after arrives, last, Nat.le_trans lightest light⟩
termination_by (world.timers.weight weigh, target - floor, world.timers.dueBy floor)
decreasing_by
  · exact Prod.Lex.left _ _ less
  · exact Prod.Lex.left _ _ less
  · rcases Nat.lt_or_eq_of_le light with lighter | same
    · exact Prod.Lex.left _ _ lighter
    · rw [same]
      apply Prod.Lex.right
      rcases Nat.eq_or_lt_of_le late with rfl | later
      · exact Prod.Lex.right _ fewer
      · exact Prod.Lex.left _ _ (by lia)

end World

end PageWatch
