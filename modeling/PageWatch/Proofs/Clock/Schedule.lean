import PageWatch.Proofs.Clock.Chronicle
import PageWatch.Proofs.Clock.Deadline

/-!
# Schedules

A history is on schedule if it is what a schedule of appointments prescribes: every timer
ticks whenever a whole number of its intervals has passed since it was scheduled, for as
long as it is neither cancelled nor cleared, and the earliest of all pending ticks comes
first.

Soundness says for every entry of a history what the entries before it allow, by way of
the appointments that they leave open.  `Sound.onSchedule` shows that this local condition
gives the global one, which does not mention appointments.
-/

namespace PageWatch

/-- An entry of a list is the last one, or it stands before the last one. -/
theorem snoc_cases {α : Type} {list past future : List α} {last entry : α}
    (split : list ++ [last] = past ++ entry :: future) :
    (list = past ∧ last = entry ∧ future = []) ∨
      ∃ rest, future = rest ++ [last] ∧ list = past ++ entry :: rest := by
  rcases List.eq_nil_or_concat future with rfl | ⟨rest, final, rfl⟩
  · obtain ⟨same, lasts⟩ := List.append_inj' split rfl
    exact .inl ⟨same, (List.cons.inj lasts).1, rfl⟩
  · rw [List.concat_eq_append, ← List.cons_append, ← List.append_assoc] at split
    obtain ⟨same, lasts⟩ := List.append_inj' split rfl
    obtain rfl := (List.cons.inj lasts).1
    exact .inr ⟨rest, by simp, same⟩

/-! ## How far a history has come -/

/-- How far the ticks have come: to the tick of a timer at an instant, or beyond all ticks
of that instant. -/
structure Front where
  instant : Instant
  last : Option Handle
  deriving DecidableEq, Repr

namespace Front

/-- A tick is still to come. -/
def Precedes (front : Front) (tick : Instant × Handle) : Prop :=
  match front.last with
  | none => front.instant < tick.1
  | some handle => Before (front.instant, handle) tick

/-- A tick is over, or it is the one at the front. -/
def Covers (front : Front) (tick : Instant × Handle) : Prop :=
  match front.last with
  | none => tick.1 ≤ front.instant
  | some handle => tick = (front.instant, handle) ∨ Before tick (front.instant, handle)

theorem before_of_covers {front : Front} {past future : Instant × Handle}
    (covers : front.Covers past) (precedes : front.Precedes future) : Before past future := by
  obtain ⟨instant, last⟩ := front
  cases last with
  | none =>
      simp only [Covers, Precedes] at covers precedes
      exact .inl (Nat.lt_of_le_of_lt covers precedes)
  | some handle =>
      rcases covers with rfl | covers
      · exact precedes
      · exact covers.trans precedes

theorem le_of_covers {front : Front} {tick : Instant × Handle} (covers : front.Covers tick) :
    tick.1 ≤ front.instant := by
  obtain ⟨instant, last⟩ := front
  cases last with
  | none => exact covers
  | some handle =>
      rcases covers with rfl | covers
      · exact Nat.le_refl _
      · unfold Before at covers
        lia

theorem le_of_precedes {front : Front} {tick : Instant × Handle}
    (precedes : front.Precedes tick) : front.instant ≤ tick.1 := by
  obtain ⟨instant, last⟩ := front
  cases last with
  | none => exact Nat.le_of_lt precedes
  | some handle =>
      unfold Precedes Before at precedes
      lia

theorem precedes_of_lt {front : Front} {tick : Instant × Handle}
    (later : front.instant < tick.1) : front.Precedes tick := by
  obtain ⟨instant, last⟩ := front
  cases last with
  | none => exact later
  | some handle => exact .inl later

/-- The front after something has happened. -/
def step (front : Front) : Instant × Happening → Front
  | (now, .ticked handle) => ⟨now, some handle⟩
  | (now, .arrived) => ⟨now, none⟩
  | _ => front

end Front

/-! ## Appointments -/

/-- A timer that is neither cancelled nor cleared, and how often it has ticked. -/
structure Appointment where
  handle : Handle
  start : Instant
  interval : Span
  ticks : Nat
  deriving DecidableEq, Repr

namespace Appointment

/-- The instant of the next tick. -/
def due (appointment : Appointment) : Instant :=
  appointment.start + (appointment.ticks + 1) * appointment.interval

/-- The appointment after a tick of a timer. -/
def tick (handle : Handle) (appointment : Appointment) : Appointment :=
  if appointment.handle = handle then { appointment with ticks := appointment.ticks + 1 }
  else appointment

@[simp] theorem handle_tick (handle : Handle) (appointment : Appointment) :
    (appointment.tick handle).handle = appointment.handle := by
  unfold tick
  split <;> rfl

@[simp] theorem interval_tick (handle : Handle) (appointment : Appointment) :
    (appointment.tick handle).interval = appointment.interval := by
  unfold tick
  split <;> rfl

theorem due_tick_self {appointment : Appointment} :
    (appointment.tick appointment.handle).due = appointment.due + appointment.interval := by
  simp only [tick, if_true, due]
  lia

theorem tick_other {handle : Handle} {appointment : Appointment}
    (other : appointment.handle ≠ handle) : appointment.tick handle = appointment :=
  if_neg other

/-- The appointments that are open after something has happened. -/
def step (appointments : List Appointment) : Instant × Happening → List Appointment
  | (now, .scheduled handle interval) =>
      appointments ++ [⟨handle, now, interval.clamp, 0⟩]
  | (_, .cancelled handle) =>
      appointments.filter fun appointment => appointment.handle != handle
  | (_, .cleared) => []
  | (_, .ticked handle) => appointments.map (tick handle)
  | _ => appointments

/-- An appointment that is open after something has happened was made by it, or was open
before and has not been stopped by it. -/
theorem mem_step {appointments : List Appointment} {now : Instant} {happening : Happening}
    {appointment : Appointment} (member : appointment ∈ step appointments (now, happening)) :
    (∃ interval, happening = .scheduled appointment.handle interval ∧
        appointment = ⟨appointment.handle, now, interval.clamp, 0⟩) ∨
      ∃ former ∈ appointments,
        (happening ≠ .cancelled appointment.handle ∧ happening ≠ .cleared) ∧
        former.handle = appointment.handle ∧ former.start = appointment.start ∧
        former.interval = appointment.interval := by
  cases happening with
  | looked | departed span | arrived =>
      exact .inr ⟨appointment, member, ⟨nofun, nofun⟩, rfl, rfl, rfl⟩
  | scheduled handle interval =>
      rcases List.mem_append.mp member with member | member
      · exact .inr ⟨appointment, member, ⟨nofun, nofun⟩, rfl, rfl, rfl⟩
      · obtain rfl := List.mem_singleton.mp member
        exact .inl ⟨interval, rfl, rfl⟩
  | cancelled handle =>
      obtain ⟨member, other⟩ := List.mem_filter.mp member
      refine .inr ⟨appointment, member, ⟨?_, nofun⟩, rfl, rfl, rfl⟩
      rintro ⟨⟩
      simp at other
  | cleared => exact absurd member List.not_mem_nil
  | ticked handle =>
      obtain ⟨former, formerMem, rfl⟩ := List.mem_map.mp member
      refine .inr ⟨former, formerMem, ⟨nofun, nofun⟩, ?_, ?_, ?_⟩ <;>
        unfold tick <;> split <;> rfl

end Appointment

namespace History

/-- How far a history has come. -/
def front (history : History) : Front := history.foldl Front.step ⟨0, none⟩

/-- The appointments that a history leaves open. -/
def appointments (history : History) : List Appointment := history.foldl Appointment.step []

/-- The unfinished move of the clock after something has happened. -/
def departureStep (departure : Option (Instant × Span)) :
    Instant × Happening → Option (Instant × Span)
  | (now, .departed span) => some (now, span)
  | (_, .arrived) => none
  | _ => departure

/-- The move of the clock that a history leaves unfinished. -/
def departure? (history : History) : Option (Instant × Span) :=
  history.foldl departureStep none

/-- The ticks of a history, in order. -/
def ticks (history : History) : List (Instant × Handle) :=
  history.filterMap fun entry =>
    match entry with
    | (now, .ticked handle) => some (now, handle)
    | _ => none

/-- The instants at which a timer ticked, in order. -/
def ticksOf (handle : Handle) (history : History) : List Instant :=
  (history.ticks.filter fun tick => tick.2 == handle).map Prod.fst

@[simp] theorem front_snoc (history : History) (entry : Instant × Happening) :
    front (history ++ [entry]) = (front history).step entry := by
  simp [front]

@[simp] theorem appointments_snoc (history : History) (entry : Instant × Happening) :
    appointments (history ++ [entry]) = Appointment.step (appointments history) entry := by
  simp [appointments]

@[simp] theorem departure?_snoc (history : History) (entry : Instant × Happening) :
    departure? (history ++ [entry]) = departureStep (departure? history) entry := by
  simp [departure?]

@[simp] theorem ticks_append (first second : History) :
    ticks (first ++ second) = ticks first ++ ticks second := by
  simp [ticks]

@[simp] theorem ticksOf_append (handle : Handle) (first second : History) :
    ticksOf handle (first ++ second) = ticksOf handle first ++ ticksOf handle second := by
  simp [ticksOf]

/-- Nothing in a history stops a timer. -/
def Undisturbed (handle : Handle) (history : History) : Prop :=
  ∀ entry ∈ history, entry.2 ≠ .cancelled handle ∧ entry.2 ≠ .cleared

/-- A history does not enter or leave a move of the clock. -/
def WithinMove (history : History) : Prop :=
  ∀ entry ∈ history, entry.2 ≠ .arrived ∧ ∀ span, entry.2 ≠ .departed span

/-! ## Soundness -/

/-- What may happen next, and when. -/
def Admits (history : History) : Instant × Happening → Prop
  | (now, .scheduled handle _) =>
      now = history.front.instant ∧
        ∀ time former interval, (time, .scheduled former interval) ∈ history →
          former.number < handle.number
  | (now, .ticked handle) =>
      (∃ appointment ∈ history.appointments, appointment.handle = handle) ∧
        (∀ appointment ∈ history.appointments,
          if appointment.handle = handle then appointment.due = now
          else Before (now, handle) (appointment.due, appointment.handle)) ∧
        ∃ start span, history.departure? = some (start, span) ∧ now ≤ start + span
  | (now, .arrived) =>
      (∃ start span, history.departure? = some (start, span) ∧ now = start + span) ∧
        history.front.instant ≤ now ∧
          ∀ appointment ∈ history.appointments, now < appointment.due
  | (now, _) => now = history.front.instant

/-- A history in which only what may happen next does. -/
inductive Sound : History → Prop
  | nil : Sound []
  | snoc {history : History} {entry : Instant × Happening} :
      Sound history → Admits history entry → Sound (history ++ [entry])

namespace Sound

variable {history : History}

/-- What happens is what the history before it admits. -/
theorem admits {past future : History} {entry : Instant × Happening} (sound : Sound history)
    (split : history = past ++ entry :: future) : Sound past ∧ Admits past entry := by
  induction sound generalizing future with
  | nil => simp at split
  | @snoc history last sound allowed ih =>
      rcases snoc_cases split with ⟨rfl, rfl, -⟩ | ⟨rest, -, earlier⟩
      · exact ⟨sound, allowed⟩
      · exact ih earlier

/-- Every open appointment is still to come, and at most one interval away. -/
theorem pending (sound : Sound history) :
    ∀ appointment ∈ history.appointments,
      0 < appointment.interval ∧
        history.front.Precedes (appointment.due, appointment.handle) ∧
          appointment.due ≤ history.front.instant + appointment.interval := by
  induction sound with
  | nil => simp [appointments]
  | @snoc history entry sound allowed ih =>
      obtain ⟨now, happening⟩ := entry
      rw [appointments_snoc, front_snoc]
      cases happening with
      | looked | departed span => exact ih
      | scheduled handle interval =>
          intro appointment member
          rcases List.mem_append.mp member with member | member
          · exact ih appointment member
          · obtain rfl := List.mem_singleton.mp member
            have positive := Span.clamp_pos interval
            have now_eq := allowed.1
            refine ⟨positive, Front.precedes_of_lt ?_, ?_⟩ <;>
              simp only [Appointment.due, Front.step] <;> lia
      | cancelled handle =>
          exact fun appointment member => ih appointment (List.mem_filter.mp member).1
      | cleared => simp [Appointment.step]
      | ticked handle =>
          obtain ⟨⟨ticking, tickingMem, rfl⟩, first, -⟩ := allowed
          have forward : history.front.instant ≤ now := by
            have ahead := (ih ticking tickingMem).2.1
            have now_eq := first ticking tickingMem
            rw [if_pos rfl] at now_eq
            exact now_eq ▸ Front.le_of_precedes ahead
          intro appointment member
          obtain ⟨former, formerMem, rfl⟩ := List.mem_map.mp member
          obtain ⟨positive, -, near⟩ := ih former formerMem
          have order := first former formerMem
          by_cases same : former.handle = ticking.handle
          · rw [if_pos same] at order
            rw [← same, Appointment.due_tick_self, Appointment.interval_tick, order]
            refine ⟨positive, Front.precedes_of_lt ?_, Nat.le_refl _⟩
            exact Nat.lt_add_of_pos_right positive
          · rw [if_neg same] at order
            rw [Appointment.tick_other same]
            exact ⟨positive, order, Nat.le_trans near (Nat.add_le_add_right forward _)⟩
      | arrived =>
          intro appointment member
          obtain ⟨positive, -, near⟩ := ih appointment member
          obtain ⟨-, forward, late⟩ := allowed
          exact ⟨positive, late appointment member,
            Nat.le_trans near (Nat.add_le_add_right forward _)⟩

/-- The tick that a history admits lies at the front or beyond. -/
theorem precedes_of_admits (sound : Sound history) {now : Instant} {handle : Handle}
    (allowed : Admits history (now, .ticked handle)) : history.front.Precedes (now, handle) := by
  obtain ⟨⟨appointment, member, rfl⟩, first, -⟩ := allowed
  have now_eq := first appointment member
  rw [if_pos rfl] at now_eq
  exact now_eq ▸ (sound.pending appointment member).2.1

/-- While the clock is not being moved, all ticks of the present instant are over. -/
theorem last_eq_none (sound : Sound history) (resting : history.departure? = none) :
    history.front.last = none := by
  induction sound with
  | nil => rfl
  | @snoc history entry sound allowed ih =>
      obtain ⟨now, happening⟩ := entry
      rw [departure?_snoc] at resting
      rw [front_snoc]
      cases happening with
      | looked | scheduled | cancelled | cleared => exact ih resting
      | departed span => simp [departureStep] at resting
      | arrived => rfl
      | ticked handle =>
          obtain ⟨start, span, moving, -⟩ := allowed.2.2
          simp [departureStep, moving] at resting

/-- A move of the clock that is unfinished began with a departure. -/
theorem exists_departed (sound : Sound history) {start : Instant} {span : Span}
    (moving : history.departure? = some (start, span)) :
    ∃ before middle, history = before ++ (start, .departed span) :: middle ∧
      WithinMove middle := by
  induction sound with
  | nil => simp [departure?] at moving
  | @snoc history entry sound allowed ih =>
      obtain ⟨now, happening⟩ := entry
      rw [departure?_snoc] at moving
      have goesOn (inside : happening ≠ .arrived ∧ ∀ span, happening ≠ .departed span)
          (moving : history.departure? = some (start, span)) :
          ∃ before middle, history ++ [(now, happening)] =
              before ++ (start, .departed span) :: middle ∧ WithinMove middle := by
        obtain ⟨before, middle, split, within⟩ := ih moving
        refine ⟨before, middle ++ [(now, happening)], by simp [split], fun entry member => ?_⟩
        rcases List.mem_append.mp member with member | member
        · exact within entry member
        · exact List.mem_singleton.mp member ▸ inside
      cases happening with
      | looked | scheduled | cancelled | cleared | ticked => exact goesOn ⟨nofun, nofun⟩ moving
      | departed other =>
          obtain ⟨rfl, rfl⟩ := Prod.mk.inj (Option.some.inj moving)
          exact ⟨history, [], rfl, by simp [WithinMove]⟩
      | arrived => simp [departureStep] at moving

/-- All ticks of a history are over. -/
theorem covers (sound : Sound history) : ∀ tick ∈ history.ticks, history.front.Covers tick := by
  induction sound with
  | nil => simp [ticks]
  | @snoc history entry sound allowed ih =>
      obtain ⟨now, happening⟩ := entry
      rw [ticks_append, front_snoc]
      intro tick member
      rcases List.mem_append.mp member with member | member
      · have covered := ih tick member
        cases happening with
        | looked | departed | scheduled | cancelled | cleared => exact covered
        | ticked handle =>
            exact .inr (Front.before_of_covers covered (sound.precedes_of_admits allowed))
        | arrived => exact Nat.le_trans (Front.le_of_covers covered) allowed.2.1
      · cases happening with
        | looked | departed | scheduled | cancelled | cleared | arrived => simp [ticks] at member
        | ticked handle =>
            simp only [ticks, List.filterMap_cons, List.filterMap_nil, List.mem_singleton] at member
            exact .inl member

/-- Ticks happen in their order. -/
theorem ticks_pairwise (sound : Sound history) : history.ticks.Pairwise Before := by
  induction sound with
  | nil => exact .nil
  | @snoc history entry sound allowed ih =>
      obtain ⟨now, happening⟩ := entry
      rw [ticks_append]
      cases happening with
      | looked | departed | scheduled | cancelled | cleared | arrived => simpa [ticks] using ih
      | ticked handle =>
          refine List.pairwise_append.mpr ⟨ih, by simp [ticks], fun tick member last lastMem => ?_⟩
          obtain rfl : last = (now, handle) := by simpa [ticks] using lastMem
          exact Front.before_of_covers (sound.covers tick member)
            (sound.precedes_of_admits allowed)

/-- An open appointment was made by scheduling its timer, and nothing has stopped the timer
since. -/
theorem exists_scheduled (sound : Sound history) {appointment : Appointment}
    (member : appointment ∈ history.appointments) :
    ∃ before after interval,
      history = before ++
        (appointment.start, .scheduled appointment.handle interval) :: after ∧
      Undisturbed appointment.handle after ∧ appointment.interval = interval.clamp := by
  induction sound generalizing appointment with
  | nil => simp [appointments] at member
  | @snoc history entry sound allowed ih =>
      obtain ⟨now, happening⟩ := entry
      rw [appointments_snoc] at member
      rcases Appointment.mem_step member with ⟨interval, rfl, fresh⟩ | ⟨former, formerMem, kept⟩
      · refine ⟨history, [], interval, ?_, by simp [Undisturbed], ?_⟩ <;> rw [fresh]
      · obtain ⟨notStopped, handles, starts, intervals⟩ := kept
        obtain ⟨before, after, interval, split, undisturbed, clamped⟩ := ih formerMem
        rw [handles] at split undisturbed
        rw [starts] at split
        rw [intervals] at clamped
        refine ⟨before, after ++ [(now, happening)], interval, by simp [split], ?_, clamped⟩
        intro entry entryMem
        rcases List.mem_append.mp entryMem with entryMem | entryMem
        · exact undisturbed entry entryMem
        · exact List.mem_singleton.mp entryMem ▸ notStopped

/-- A timer that has never been scheduled has never ticked. -/
theorem ticksOf_eq_nil (sound : Sound history) {handle : Handle}
    (never : ∀ time interval, (time, .scheduled handle interval) ∉ history) :
    history.ticksOf handle = [] := by
  induction sound with
  | nil => rfl
  | @snoc history entry sound allowed ih =>
      obtain ⟨now, happening⟩ := entry
      have before := ih fun time interval member => never time interval (by simp [member])
      rw [ticksOf_append, before, List.nil_append]
      cases happening with
      | looked | departed | scheduled | cancelled | cleared | arrived => rfl
      | ticked ticking =>
          have other : ticking ≠ handle := by
            rintro rfl
            obtain ⟨appointment, member, rfl⟩ := allowed.1
            obtain ⟨_, _, interval, split, -⟩ := sound.exists_scheduled member
            exact never appointment.start interval (by simp [split])
          simp [ticksOf, ticks, other]

/-- A timer that has been scheduled and not stopped since has an open appointment, and has
ticked at the first multiples of its interval and at nothing else. -/
theorem exists_appointment (sound : Sound history) {before after : History} {start : Instant}
    {handle : Handle} {interval : Span}
    (split : history = before ++ (start, .scheduled handle interval) :: after)
    (undisturbed : Undisturbed handle after) :
    ∃ count, ⟨handle, start, interval.clamp, count⟩ ∈ history.appointments ∧
      history.ticksOf handle =
        (List.range count).map fun k => start + (k + 1) * interval.clamp := by
  induction sound generalizing after with
  | nil => simp at split
  | @snoc history entry sound allowed ih =>
      rcases snoc_cases split with ⟨rfl, rfl, rfl⟩ | ⟨rest, rfl, earlier⟩
      · refine ⟨0, by simp [Appointment.step], ?_⟩
        have never : ∀ time former, (time, .scheduled handle former) ∉ history :=
          fun time former member => Nat.lt_irrefl _ (allowed.2 time handle former member)
        rw [ticksOf_append, sound.ticksOf_eq_nil never]
        rfl
      · obtain ⟨count, member, ticked⟩ := ih earlier fun entry entryMem =>
          undisturbed entry (List.mem_append_left _ entryMem)
        have notStopped := undisturbed entry (by simp)
        obtain ⟨now, happening⟩ := entry
        rw [appointments_snoc, ticksOf_append, ticked]
        cases happening with
        | looked | departed span | arrived =>
            exact ⟨count, member, List.append_nil _⟩
        | scheduled other otherInterval =>
            exact ⟨count, List.mem_append_left _ member, List.append_nil _⟩
        | cancelled other =>
            have kept : handle ≠ other := fun same => notStopped.1 (same ▸ rfl)
            exact ⟨count, List.mem_filter.mpr ⟨member, by simpa using kept⟩,
              List.append_nil _⟩
        | cleared => exact absurd rfl notStopped.2
        | ticked ticking =>
            by_cases same : handle = ticking
            · subst same
              have now_eq := allowed.2.1 _ member
              rw [if_pos rfl] at now_eq
              refine ⟨count + 1, List.mem_map.mpr ⟨_, member, if_pos rfl⟩, ?_⟩
              simp [ticksOf, ticks, List.range_succ, ← now_eq, Appointment.due]
            · refine ⟨count, List.mem_map.mpr ⟨_, member, if_neg same⟩, ?_⟩
              simp [ticksOf, ticks, Ne.symm same]

end Sound

/-! ## Histories on schedule -/

/-- A history in which every timer ticks when it should. -/
structure OnSchedule (history : History) : Prop where
  /-- At every point of the history, a timer that has not been stopped has ticked at the
  first multiples of its interval and at nothing else, and its next tick is still to
  come. -/
  multiples : ∀ past future : History, history = past ++ future →
    ∀ before start handle interval after,
      past = before ++ (start, .scheduled handle interval) :: after →
      Undisturbed handle after →
      ∃ count,
        past.ticksOf handle =
          (List.range count).map (fun k => start + (k + 1) * interval.clamp) ∧
        past.front.Precedes (start + (count + 1) * interval.clamp, handle)
  /-- A timer ticks only if it has been scheduled and not been stopped since. -/
  only : ∀ (past : History) now handle future, history = past ++ (now, .ticked handle) :: future →
    ∃ before start interval after,
      past = before ++ (start, .scheduled handle interval) :: after ∧
      Undisturbed handle after
  /-- The ticks come in the order of their deadlines, and those of one deadline in the
  order in which their timers were scheduled. -/
  ordered : history.ticks.Pairwise Before
  /-- No two timers have the same handle. -/
  distinct : ∀ (past : History) start handle interval future,
    history = past ++ (start, .scheduled handle interval) :: future →
    ∀ time former, (time, .scheduled handle former) ∉ past
  /-- Between two ticks, and up to the end of a move, the clock stands at the former. -/
  still : ∀ (past : History) now happening future, history = past ++ (now, happening) :: future →
    (∀ handle, happening ≠ .ticked handle) → happening ≠ .arrived →
    now = past.front.instant
  /-- Timers tick only while the clock is moved, up to the end of the move. -/
  inside : ∀ (past : History) now handle future,
    history = past ++ (now, .ticked handle) :: future →
    ∃ before start span middle,
      past = before ++ (start, .departed span) :: middle ∧ WithinMove middle ∧
      now ≤ start + span
  /-- A move of the clock ends its span later than it began. -/
  moved : ∀ (past : History) start span middle now future,
    history = past ++ (start, .departed span) :: (middle ++ (now, .arrived) :: future) →
    WithinMove middle → now = start + span

/-- A departure that no arrival has followed is unfinished. -/
theorem departure?_eq {past middle : History} {start : Instant} {span : Span}
    (within : WithinMove middle) :
    departure? (past ++ (start, .departed span) :: middle) = some (start, span) := by
  rw [departure?, List.foldl_append, List.foldl_cons]
  induction middle with
  | nil => rfl
  | cons entry middle ih =>
      have inside := within entry (.head _)
      have kept := ih fun other member => within other (.tail _ member)
      obtain ⟨now, happening⟩ := entry
      cases happening with
      | looked | scheduled | cancelled | cleared | ticked => exact kept
      | departed other => exact absurd rfl (inside.2 other)
      | arrived => exact absurd rfl inside.1

/-- A beginning of a sound history is sound. -/
theorem Sound.of_append {past future : History} (sound : Sound (past ++ future)) :
    Sound past := by
  cases future with
  | nil => simpa using sound
  | cons entry future => exact (sound.admits rfl).1

/-- A sound history is on schedule. -/
theorem Sound.onSchedule {history : History} (sound : Sound history) : OnSchedule history where
  multiples := by
    rintro past future rfl before start handle interval after split undisturbed
    have soundPast := sound.of_append
    obtain ⟨count, member, ticked⟩ := soundPast.exists_appointment split undisturbed
    exact ⟨count, ticked, (soundPast.pending _ member).2.1⟩
  only := by
    rintro past now handle future split
    obtain ⟨earlier, ⟨appointment, member, rfl⟩, -, -⟩ := sound.admits split
    obtain ⟨before, after, interval, made, undisturbed, -⟩ := earlier.exists_scheduled member
    exact ⟨before, appointment.start, interval, after, made, undisturbed⟩
  ordered := sound.ticks_pairwise
  distinct := by
    intro past start handle interval future split time former member
    exact Nat.lt_irrefl _ ((sound.admits split).2.2 time handle former member)
  still := by
    intro past now happening future split notTick notArrival
    have allowed := (sound.admits split).2
    cases happening with
    | looked | departed | cancelled | cleared => exact allowed
    | scheduled => exact allowed.1
    | ticked handle => exact absurd rfl (notTick handle)
    | arrived => exact absurd rfl notArrival
  inside := by
    intro past now handle future split
    obtain ⟨earlier, -, -, start, span, moving, inTime⟩ := sound.admits split
    obtain ⟨before, middle, made, within⟩ := earlier.exists_departed moving
    exact ⟨before, start, span, middle, made, within, inTime⟩
  moved := by
    intro past start span middle now future split within
    rw [← List.cons_append, ← List.append_assoc] at split
    obtain ⟨-, ⟨origin, length, departed, now_eq⟩, -⟩ := sound.admits split
    rw [departure?_eq within] at departed
    obtain ⟨rfl, rfl⟩ := Prod.mk.inj (Option.some.inj departed)
    exact now_eq

end History

end PageWatch
