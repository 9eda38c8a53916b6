import PageWatch.Proofs.Clock.Ending
import PageWatch.Proofs.Clock.Schedule

/-!
# Clocks are punctual

A clock keeps the appointments that its history leaves open.  Every request to the timers
preserves this, and so does every tick, also one that schedules, cancels or clears timers
while the clock is being moved.  The history of any program is therefore on schedule, and
the program comes to an end.
-/

namespace PageWatch

variable {τ σ α : Type}

/-! ## What a clock and its history agree on -/

/-- What a clock knows of its timers, their tasks apart. -/
def Clock.outline (clock : Clock τ) : List (Handle × Span × Instant) :=
  clock.timers.map fun entry => (entry.1, entry.2.interval, entry.2.due)

/-- What an appointment says of its timer. -/
def Appointment.outline (appointment : Appointment) : Handle × Span × Instant :=
  (appointment.handle, appointment.interval, appointment.due)

namespace Clock

variable {clock : Clock τ}

theorem outline_update {handle : Handle} {change : Timer τ → Timer τ}
    (same : ∀ timer, (handle, timer) ∈ clock.timers →
      (change timer).interval = timer.interval ∧ (change timer).due = timer.due) :
    (clock.update handle change).outline = clock.outline := by
  simp only [outline, update, List.map_map]
  refine List.map_congr_left fun entry member => ?_
  obtain ⟨owner, timer⟩ := entry
  simp only [Function.comp]
  by_cases own : owner = handle
  · subst own
    simp [same timer member]
  · simp [own]

@[simp] theorem outline_putBack (handle : Handle) (task : τ) :
    (clock.putBack handle task).outline = clock.outline :=
  outline_update fun _ _ => ⟨rfl, rfl⟩

end Clock

/-- A clock keeps the appointments that a history leaves open, and no others.  It is in the
middle of a move, or at rest, as the history says. -/
structure Clock.Keeps (clock : Clock τ) (history : History)
    (departure : Option (Instant × Span)) : Prop where
  sound : history.Sound
  outline_eq : clock.outline = history.appointments.map Appointment.outline
  now_eq : clock.now = history.front.instant
  below_next : ∀ time handle interval, (time, .scheduled handle interval) ∈ history →
    handle.number < clock.next
  departure_eq : history.departure? = departure

namespace Clock.Keeps

open History

variable {clock after : Clock τ} {history : History} {departure : Option (Instant × Span)}

theorem start : (Clock.start : Clock τ).Keeps [] none :=
  ⟨.nil, rfl, rfl, by simp, rfl⟩

/-- An open appointment is a timer of the clock. -/
theorem exists_entry (keeps : clock.Keeps history departure) {appointment : Appointment}
    (member : appointment ∈ history.appointments) :
    ∃ entry ∈ clock.timers, entry.1 = appointment.handle ∧
      entry.2.interval = appointment.interval ∧ entry.2.due = appointment.due := by
  have image := List.mem_map_of_mem (f := Appointment.outline) member
  rw [← keeps.outline_eq] at image
  obtain ⟨entry, entryMem, equal⟩ := List.mem_map.mp image
  simp only [Appointment.outline, Prod.mk.injEq] at equal
  exact ⟨entry, entryMem, equal⟩

/-- A timer of the clock is an open appointment. -/
theorem exists_appointment (keeps : clock.Keeps history departure) {entry : Handle × Timer τ}
    (member : entry ∈ clock.timers) :
    ∃ appointment ∈ history.appointments, appointment.handle = entry.1 ∧
      appointment.interval = entry.2.interval ∧ appointment.due = entry.2.due := by
  have image := List.mem_map_of_mem
    (f := fun entry : Handle × Timer τ => (entry.1, entry.2.interval, entry.2.due)) member
  have outline_eq := keeps.outline_eq
  rw [outline] at outline_eq
  rw [outline_eq] at image
  obtain ⟨appointment, appointmentMem, equal⟩ := List.mem_map.mp image
  simp only [Appointment.outline, Prod.mk.injEq] at equal
  exact ⟨appointment, appointmentMem, equal⟩

/-- A clock that does what is written down next keeps the appointments. -/
theorem snoc (keeps : clock.Keeps history departure) (entry : Instant × Happening)
    (allowed : Admits history entry)
    (outline_eq : after.outline =
      (Appointment.step history.appointments entry).map Appointment.outline)
    (now_eq : after.now = (history.front.step entry).instant)
    (next_le : clock.next ≤ after.next)
    (fresh : ∀ handle interval, entry.2 = .scheduled handle interval →
      handle.number < after.next) :
    after.Keeps (history ++ [entry]) (departureStep departure entry) where
  sound := keeps.sound.snoc allowed
  outline_eq := by rw [appointments_snoc, outline_eq]
  now_eq := by rw [front_snoc, now_eq]
  below_next time handle interval member := by
    rcases List.mem_append.mp member with member | member
    · exact Nat.lt_of_lt_of_le (keeps.below_next time handle interval member) next_le
    · exact fresh handle interval (congrArg Prod.snd (List.mem_singleton.mp member)).symm
  departure_eq := by rw [departure?_snoc, keeps.departure_eq]

theorem looked (keeps : clock.Keeps history departure) :
    clock.Keeps (history ++ [(clock.now, .looked)]) departure :=
  keeps.snoc (clock.now, .looked) keeps.now_eq keeps.outline_eq keeps.now_eq
    (Nat.le_refl _) nofun

theorem departed (keeps : clock.Keeps history departure) (span : Span) :
    clock.Keeps (history ++ [(clock.now, .departed span)]) (some (clock.now, span)) :=
  keeps.snoc (clock.now, .departed span) keeps.now_eq keeps.outline_eq
    keeps.now_eq (Nat.le_refl _) nofun

theorem scheduled (keeps : clock.Keeps history departure) (interval : Span)
    (task : Handle → τ) :
    (clock.schedule interval task).2.Keeps
      (history ++ [(clock.now, .scheduled ⟨clock.next⟩ interval)]) departure := by
  refine keeps.snoc (clock.now, .scheduled ⟨clock.next⟩ interval)
    ⟨keeps.now_eq, keeps.below_next⟩ ?_ keeps.now_eq (Nat.le_succ _) ?_
  · have same := keeps.outline_eq
    simp only [outline] at same
    simp only [outline, timers_schedule, Appointment.step, List.map_append, same]
    simp [Appointment.outline, Appointment.due]
  · rintro handle other ⟨⟩
    exact Nat.lt_succ_self _

theorem cancelled (keeps : clock.Keeps history departure) (handle : Handle) :
    (clock.cancel handle).Keeps (history ++ [(clock.now, .cancelled handle)]) departure := by
  refine keeps.snoc (clock.now, .cancelled handle) keeps.now_eq ?_ keeps.now_eq
    (Nat.le_refl _) nofun
  have same := congrArg (List.filter fun known => known.1 != handle) keeps.outline_eq
  rw [outline, List.filter_map, List.filter_map] at same
  exact same

theorem cleared (keeps : clock.Keeps history departure) :
    clock.clear.Keeps (history ++ [(clock.now, .cleared)]) departure :=
  keeps.snoc (clock.now, .cleared) keeps.now_eq rfl keeps.now_eq
    (Nat.le_refl _) nofun

/-- The first of the due timers ticks as its appointment says. -/
theorem ticked {start target : Instant} {span : Span} {due : Due τ} {timer : Timer τ}
    (keeps : clock.Keeps history (some (start, span))) (target_eq : target = start + span)
    (orderly : clock.Orderly) (settled : clock.Settled)
    (takes : clock.Takes target due timer) :
    (clock.taking due).Keeps (history ++ [(due.deadline, .ticked due.handle)])
      (some (start, span)) := by
  have due_eq (entry : Handle × Timer τ) (member : entry ∈ clock.timers)
      (own : entry.1 = due.handle) : entry.2.due = due.deadline := by
    rw [orderly.eq_of_handle takes.member member own]
    exact takes.due_eq
  refine keeps.snoc (due.deadline, .ticked due.handle) ⟨?_, ?_, ?_⟩ ?_ rfl
    (Nat.le_refl _) nofun
  · obtain ⟨appointment, member, same, -⟩ := keeps.exists_appointment takes.member
    exact ⟨appointment, member, same⟩
  · intro appointment member
    obtain ⟨entry, entryMem, handle, -, dues⟩ := keeps.exists_entry member
    rw [← handle, ← dues]
    split
    next own => exact due_eq entry entryMem own
    next other => exact takes.before settled entryMem other
  · exact ⟨start, span, keeps.departure_eq, target_eq ▸ takes.deadline_le⟩
  · -- On both sides the tick moves the deadline of its timer by one interval.
    let postpone (known : Handle × Span × Instant) : Handle × Span × Instant :=
      if known.1 = due.handle then (known.1, known.2.1, known.2.2 + known.2.1) else known
    have left : (clock.taking due).outline = clock.outline.map postpone := by
      simp only [outline, timers_taking, update, List.map_map]
      refine List.map_congr_left fun entry member => ?_
      by_cases own : entry.1 = due.handle
      · simp [postpone, own, due_eq entry member own]
      · simp [postpone, own]
    have right : (history.appointments.map (Appointment.tick due.handle)).map
        Appointment.outline = (history.appointments.map Appointment.outline).map postpone := by
      simp only [List.map_map]
      refine List.map_congr_left fun appointment _ => ?_
      by_cases own : appointment.handle = due.handle
      · have dues : (appointment.tick due.handle).due = appointment.due + appointment.interval :=
          own ▸ Appointment.due_tick_self
        simp [postpone, own, Appointment.outline, dues]
      · simp [postpone, own, Appointment.outline, Appointment.tick_other own]
    rw [left, keeps.outline_eq, ← right]
    rfl

/-- A task that is put back is nothing to write down. -/
theorem putBack (keeps : clock.Keeps history departure) (handle : Handle) (task : τ) :
    (clock.putBack handle task).Keeps history departure where
  sound := keeps.sound
  outline_eq := (outline_putBack handle task).trans keeps.outline_eq
  now_eq := keeps.now_eq
  below_next := keeps.below_next
  departure_eq := keeps.departure_eq

/-- A move of the clock ends when no timer is due any more. -/
theorem arrived {start : Instant} {span : Span}
    (keeps : clock.Keeps history (some (start, span))) (settled : clock.Settled)
    (now_le : clock.now ≤ start + span) (noneDue : clock.nextDue? (start + span) = none) :
    Clock.Keeps { clock with now := start + span } (history ++ [(start + span, .arrived)])
      none := by
  refine keeps.snoc (start + span, .arrived)
    ⟨⟨start, span, keeps.departure_eq, rfl⟩, keeps.now_eq ▸ now_le, ?_⟩ keeps.outline_eq rfl
    (Nat.le_refl _) nofun
  intro appointment member
  obtain ⟨entry, entryMem, -, -, dues⟩ := keeps.exists_entry member
  exact dues ▸ lt_due_of_nextDue? noneDue entry entryMem (settled entry entryMem)

/-- On a clock at rest every tick is still to come, and at most one interval away. -/
theorem due_bounds (keeps : clock.Keeps history none) {entry : Handle × Timer τ}
    (member : entry ∈ clock.timers) :
    clock.now < entry.2.due ∧ entry.2.due ≤ clock.now + entry.2.interval := by
  obtain ⟨appointment, appointmentMem, -, intervals, dues⟩ := keeps.exists_appointment member
  obtain ⟨-, ahead, near⟩ := keeps.sound.pending appointment appointmentMem
  rw [Front.Precedes, keeps.sound.last_eq_none keeps.departure_eq] at ahead
  rw [keeps.now_eq, ← intervals, ← dues]
  exact ⟨ahead, near⟩

end Clock.Keeps

/-! ## Whole runs -/

namespace World

/-- A clock keeps its appointments while a chronicle of them is kept. -/
def Keeps (world : Clocked τ (σ × History)) (departure : Option (Instant × Span)) : Prop :=
  world.timers.Keeps world.state.2 departure

/-- Writes down what happens now. -/
def note (happening : Happening) (world : Clocked τ (σ × History)) :
    Clocked τ (σ × History) :=
  { world with state := (world.state.1, world.state.2 ++ [(world.timers.now, happening)]) }

variable {world : Clocked τ (σ × History)} {behaviour : Behaviour τ σ}

/-- Whatever a still routine asks of the timers, the clock keeps the appointments. -/
theorem keeps_act {departure : Option (Instant × Span)} {routine : Routine τ σ α}
    (still : routine.Still) (keeps : world.Keeps departure) :
    (world.act Clock.service routine.chronicled).2.Keeps departure := by
  induction routine generalizing world with
  | done result => exact keeps
  | look next ih => exact ih _ _ (still _ _) keeps.looked
  | put state next ih => exact ih still keeps
  | schedule interval task next ih => exact ih _ (still _) (keeps.scheduled interval task)
  | cancel handle next ih => exact ih still (keeps.cancelled handle)
  | clear next ih => exact ih still keeps.cleared
  | advance span next => exact still.elim

/-- What holds between two ticks of a move of the clock. -/
structure Moving (start : Instant) (span : Span) (world : Clocked τ (σ × History)) : Prop where
  keeps : world.Keeps (some (start, span))
  orderly : world.timers.Orderly
  settled : world.timers.Settled
  now_le : world.timers.now ≤ start + span

/-- A tick preserves what holds between two ticks. -/
theorem Moving.beat {start : Instant} {span : Span} {due : Clock.Due τ}
    (still : ∀ handle task, (behaviour handle task).Still) (moving : Moving start span world)
    (next : world.timers.nextDue? (start + span) = some due) :
    Moving start span (world.beat behaviour.chronicled due) := by
  obtain ⟨timer, takes⟩ := Clock.takes_of_nextDue? moving.orderly next
  have ticked : Keeps
      ({ world with timers := world.timers.taking due }.note (.ticked due.handle))
      (some (start, span)) := moving.keeps.ticked rfl moving.orderly moving.settled takes
  exact
    { keeps := (keeps_act (still due.handle due.task) ticked).putBack _ _
      orderly := orderly_beat takes moving.orderly moving.settled
      settled := settled_beat moving.settled
      now_le := by
        rw [now_beat]
        exact takes.deadline_le }

/-- What holds while the clock is not being moved. -/
structure Resting (world : Clocked τ (σ × History)) : Prop where
  keeps : world.Keeps none
  orderly : world.timers.Orderly
  settled : world.timers.Settled

/-- A move of the clock comes to an end, and then the clock is at rest again. -/
theorem Resting.advance (still : ∀ handle task, (behaviour handle task).Still)
    (resting : Resting world) (span : Span) :
    ∃ after limit, Resting (after.note .arrived) ∧ ∀ ticks, limit ≤ ticks →
      World.advance Clock.service behaviour.chronicled ticks span
        (world.note (.departed span)) = some after := by
  have stillNoted := Behaviour.still_chronicled still
  obtain ⟨after, limit, ends⟩ := drain_ends stillNoted (world.timers.now + span)
    (world.note (.departed span)) resting.orderly resting.settled
  have moving : Moving world.timers.now span (world.note (.departed span)) :=
    { keeps := resting.keeps.departed span
      orderly := resting.orderly
      settled := resting.settled
      now_le := Nat.le_add_right _ _ }
  obtain ⟨last, moved, noneDue, rfl⟩ := drain_keeps stillNoted
    (fun _ _ moving next => moving.beat still next) moving (ends limit (Nat.le_refl _))
  refine ⟨_, limit, ?_, ends⟩
  exact
    { keeps := moved.keeps.arrived moved.settled moved.now_le noneDue
      orderly :=
        { moved.orderly with
          now_le_due := fun entry member =>
            Nat.le_of_lt (Clock.lt_due_of_nextDue? noneDue entry member
              (moved.settled entry member)) }
      settled := moved.settled }

/-- A program comes to an end, and then the clock is at rest. -/
theorem Resting.perform (still : ∀ handle task, (behaviour handle task).Still)
    (program : Routine τ σ α) (resting : Resting world) :
    ∃ result after limit, Resting after ∧ ∀ ticks, limit ≤ ticks →
      World.perform Clock.service behaviour.chronicled ticks program.chronicled world =
        some (result, after) := by
  induction program generalizing world with
  | done result => exact ⟨result, world, 0, resting, fun _ _ => rfl⟩
  | look next ih =>
      exact ih _ _ ⟨resting.keeps.looked, resting.orderly, resting.settled⟩
  | put state next ih => exact ih ⟨resting.keeps, resting.orderly, resting.settled⟩
  | schedule interval task next ih =>
      refine ih _ ⟨resting.keeps.scheduled interval task,
        resting.orderly.schedule interval task, fun entry member => ?_⟩
      rcases List.mem_append.mp member with member | member
      · exact resting.settled entry member
      · exact List.mem_singleton.mp member ▸ rfl
  | cancel handle next ih =>
      exact ih ⟨resting.keeps.cancelled handle, resting.orderly.cancel handle,
        fun entry member => resting.settled entry (Clock.mem_timers_cancel.mp member).1⟩
  | clear next ih =>
      exact ih ⟨resting.keeps.cleared, resting.orderly.clear,
        fun entry member => absurd member List.not_mem_nil⟩
  | advance span next ih =>
      obtain ⟨moved, limit, restingAgain, moves⟩ := resting.advance still span
      obtain ⟨result, after, limitNext, restingAfter, goesOn⟩ := ih restingAgain
      refine ⟨result, after, max limit limitNext, restingAfter, fun ticks enough => ?_⟩
      have moved_eq := moves ticks (Nat.le_trans (Nat.le_max_left _ _) enough)
      have after_eq := goesOn ticks (Nat.le_trans (Nat.le_max_right _ _) enough)
      simp only [World.perform, Routine.chronicled, Routine.noting, Routine.run]
      exact (congrArg (· >>= _) moved_eq).trans after_eq

end World

/-- A clock is punctual.  Whatever a program asks of a clock, and whatever the ticks do as
long as they do not move the clock themselves, the program comes to an end, its history is
on schedule, and in the end every timer ticks within one interval of its own. -/
theorem Clock.punctual {behaviour : Behaviour τ σ}
    (still : ∀ handle task, (behaviour handle task).Still) (program : Routine τ σ α)
    (state : σ) :
    ∃ result world history limit,
      (∀ ticks, limit ≤ ticks →
        World.perform Clock.service behaviour ticks program ⟨Clock.start, state⟩ =
            some (result, world) ∧
          World.perform Clock.service behaviour.chronicled ticks program.chronicled
              ⟨Clock.start, state, []⟩ =
            some (result, ⟨world.timers, world.state, history⟩)) ∧
      history.OnSchedule ∧
      ∀ entry ∈ world.timers.timers,
        world.timers.now < entry.2.due ∧
          entry.2.due ≤ world.timers.now + entry.2.interval := by
  have resting : World.Resting (⟨Clock.start, state, []⟩ : World.Clocked τ (σ × History)) :=
    { keeps := Clock.Keeps.start
      orderly := orderly_start
      settled := by simp [Settled, start] }
  obtain ⟨result, after, limit, restingAfter, ends⟩ := resting.perform still program
  refine ⟨result, after.forget, after.state.2, limit, fun ticks enough => ⟨?_, ends ticks enough⟩,
    restingAfter.keeps.sound.onSchedule, fun entry member => restingAfter.keeps.due_bounds member⟩
  have erased := World.perform_chronicled Clock.service behaviour ticks program
    ⟨Clock.start, state, []⟩
  rw [ends ticks enough] at erased
  exact erased.symm

/-- A task that counts its ticks, and cancels its timer at the third. -/
def threeTicks : Behaviour Unit Nat := fun handle _ =>
  .look fun _ count =>
    .put (count + 1) (if count < 2 then .done () else .cancel handle (.done ()))

theorem Clock.punctual_threeTicks :
    (∀ handle task, (threeTicks handle task).Still) ∧
      ∃ history : History, history.OnSchedule ∧
        history.ticks = [(Span.ofMs 4, ⟨0⟩), (Span.ofMs 8, ⟨0⟩), (Span.ofMs 12, ⟨0⟩)] := by
  have still (handle : Handle) (task : Unit) : (threeTicks handle task).Still := by
    intro _ count
    show Routine.Still (if count < 2 then _ else _)
    split <;> trivial
  let program : Routine Unit Nat Unit :=
    .schedule (Span.ofMs 4) (fun _ => ()) fun _ => .advance (Span.ofMs 40) (.done ())
  obtain ⟨result, world, history, limit, runs, onSchedule, -⟩ :=
    Clock.punctual still program 0
  have ran := (runs (limit + 4) (Nat.le_add_right _ _)).2
  have computed : World.perform Clock.service threeTicks.chronicled (limit + 4)
      program.chronicled ⟨Clock.start, 0, []⟩ =
        some ((), ⟨⟨Span.ofMs 40, 1, 1, []⟩, 3,
          [(0, .scheduled ⟨0⟩ (Span.ofMs 4)), (0, .departed (Span.ofMs 40)),
            (Span.ofMs 4, .ticked ⟨0⟩), (Span.ofMs 4, .looked),
            (Span.ofMs 8, .ticked ⟨0⟩), (Span.ofMs 8, .looked),
            (Span.ofMs 12, .ticked ⟨0⟩), (Span.ofMs 12, .looked),
            (Span.ofMs 12, .cancelled ⟨0⟩), (Span.ofMs 40, .arrived)]⟩) := rfl
  rw [computed] at ran
  simp only [Option.some.injEq, Prod.mk.injEq, World.mk.injEq] at ran
  refine ⟨still, history, onSchedule, ?_⟩
  rw [← ran.2.2.2]
  rfl

end PageWatch
