import PageWatch.Clock.Basic

/-!
# Which timer ticks next

Ticks are ordered by their deadlines, and ticks of one deadline by the order in which
their timers were scheduled.  On an orderly clock, the timer that is taken is the first
one in this order among those that are due and not running.
-/

namespace PageWatch

variable {τ : Type}

/-- Whether a tick, given by its deadline and its timer, comes before another one. -/
def Before (first second : Instant × Handle) : Prop :=
  first.1 < second.1 ∨ first.1 = second.1 ∧ first.2.number < second.2.number

namespace Before

theorem trans {first second third : Instant × Handle} (left : Before first second)
    (right : Before second third) : Before first third := by
  unfold Before at *
  lia

theorem irrefl (tick : Instant × Handle) : ¬Before tick tick := by
  unfold Before
  lia

theorem of_not_of_ne {first second : Instant × Handle} (notLater : ¬Before second first)
    (apart : first.2 ≠ second.2) : Before first second := by
  have numbers : first.2.number ≠ second.2.number :=
    fun equal => apart (congrArg Handle.mk equal)
  unfold Before at *
  lia

end Before

namespace Clock

/-- A clock on which the timers stand in the order of their numbers, tick at intervals
that let time pass, and are not overdue. -/
structure Orderly (clock : Clock τ) : Prop where
  sorted : clock.timers.Pairwise fun first second => first.1.number < second.1.number
  below_next : ∀ entry ∈ clock.timers, entry.1.number < clock.next
  interval_pos : ∀ entry ∈ clock.timers, 0 < entry.2.interval
  now_le_due : ∀ entry ∈ clock.timers, clock.now ≤ entry.2.due

theorem orderly_start : (start : Clock τ).Orderly :=
  ⟨.nil, by simp [start], by simp [start], by simp [start]⟩

/-- No timer runs. -/
def Settled (clock : Clock τ) : Prop :=
  ∀ entry ∈ clock.timers, entry.2.task.isSome

/-- No timer runs but, perhaps, one. -/
def SettledBut (handle : Handle) (clock : Clock τ) : Prop :=
  ∀ entry ∈ clock.timers, entry.1 ≠ handle → entry.2.task.isSome

/-! ## Operations on timers -/

section Operations

variable {clock : Clock τ}

@[simp] theorem now_schedule (interval : Span) (task : Handle → τ) :
    (clock.schedule interval task).2.now = clock.now := rfl

@[simp] theorem next_schedule (interval : Span) (task : Handle → τ) :
    (clock.schedule interval task).2.next = clock.next + 1 := rfl

@[simp] theorem schedule_fst (interval : Span) (task : Handle → τ) :
    (clock.schedule interval task).1 = ⟨clock.next⟩ := rfl

@[simp] theorem timers_schedule (interval : Span) (task : Handle → τ) :
    (clock.schedule interval task).2.timers =
      clock.timers ++
        [(⟨clock.next⟩,
          ⟨interval.clamp, clock.now + interval.clamp, some (task ⟨clock.next⟩)⟩)] := rfl

@[simp] theorem now_cancel (handle : Handle) : (clock.cancel handle).now = clock.now := rfl

@[simp] theorem next_cancel (handle : Handle) : (clock.cancel handle).next = clock.next := rfl

@[simp] theorem mem_timers_cancel {handle : Handle} {entry : Handle × Timer τ} :
    entry ∈ (clock.cancel handle).timers ↔ entry ∈ clock.timers ∧ entry.1 ≠ handle := by
  simp [cancel]

@[simp] theorem now_clear : clock.clear.now = clock.now := rfl

@[simp] theorem next_clear : clock.clear.next = clock.next := rfl

@[simp] theorem timers_clear : clock.clear.timers = [] := rfl

@[simp] theorem now_update (handle : Handle) (change : Timer τ → Timer τ) :
    (clock.update handle change).now = clock.now := rfl

@[simp] theorem next_update (handle : Handle) (change : Timer τ → Timer τ) :
    (clock.update handle change).next = clock.next := rfl

@[simp] theorem now_putBack (handle : Handle) (task : τ) :
    (clock.putBack handle task).now = clock.now := rfl

@[simp] theorem next_putBack (handle : Handle) (task : τ) :
    (clock.putBack handle task).next = clock.next := rfl

theorem mem_timers_update {handle : Handle} {change : Timer τ → Timer τ}
    {entry : Handle × Timer τ} :
    entry ∈ (clock.update handle change).timers ↔
      ∃ former ∈ clock.timers,
        entry = if former.1 = handle then (former.1, change former.2) else former := by
  simp only [update, List.mem_map, eq_comm]

/-- A change of one timer that keeps its interval and does not make it overdue keeps a
clock orderly. -/
theorem Orderly.update (orderly : clock.Orderly) (handle : Handle)
    {change : Timer τ → Timer τ} (interval : ∀ timer, (change timer).interval = timer.interval)
    (due : ∀ timer, clock.now ≤ timer.due → clock.now ≤ (change timer).due) :
    (clock.update handle change).Orderly where
  sorted := by
    simp only [Clock.update, List.pairwise_map]
    refine orderly.sorted.imp fun {first second} less => ?_
    split <;> split <;> exact less
  below_next entry member := by
    obtain ⟨former, formerMem, rfl⟩ := mem_timers_update.mp member
    have below := orderly.below_next former formerMem
    split <;> exact below
  interval_pos entry member := by
    obtain ⟨former, formerMem, rfl⟩ := mem_timers_update.mp member
    have positive := orderly.interval_pos former formerMem
    split
    · exact (interval former.2).symm ▸ positive
    · exact positive
  now_le_due entry member := by
    obtain ⟨former, formerMem, rfl⟩ := mem_timers_update.mp member
    have late := orderly.now_le_due former formerMem
    split
    · exact due former.2 late
    · exact late

theorem Orderly.putBack (orderly : clock.Orderly) (handle : Handle) (task : τ) :
    (clock.putBack handle task).Orderly :=
  orderly.update handle (fun _ => rfl) (fun _ late => late)

theorem Orderly.schedule (orderly : clock.Orderly) (interval : Span) (task : Handle → τ) :
    (clock.schedule interval task).2.Orderly where
  sorted := by
    rw [timers_schedule, List.pairwise_append]
    refine ⟨orderly.sorted, by simp, fun entry member new newMem => ?_⟩
    rw [List.mem_singleton.mp newMem]
    exact orderly.below_next entry member
  below_next entry member := by
    rw [timers_schedule, List.mem_append, List.mem_singleton] at member
    rcases member with member | rfl
    · exact Nat.lt_succ_of_lt (orderly.below_next entry member)
    · exact Nat.lt_succ_self _
  interval_pos entry member := by
    rw [timers_schedule, List.mem_append, List.mem_singleton] at member
    rcases member with member | rfl
    · exact orderly.interval_pos entry member
    · exact Span.clamp_pos interval
  now_le_due entry member := by
    rw [timers_schedule, List.mem_append, List.mem_singleton] at member
    rcases member with member | rfl
    · exact orderly.now_le_due entry member
    · exact Nat.le_add_right _ _

theorem Orderly.cancel (orderly : clock.Orderly) (handle : Handle) :
    (clock.cancel handle).Orderly where
  sorted := orderly.sorted.filter _
  below_next entry member := orderly.below_next entry (mem_timers_cancel.mp member).1
  interval_pos entry member := orderly.interval_pos entry (mem_timers_cancel.mp member).1
  now_le_due entry member := orderly.now_le_due entry (mem_timers_cancel.mp member).1

theorem Orderly.clear (_ : clock.Orderly) : clock.clear.Orderly where
  sorted := .nil
  below_next _ member := absurd member List.not_mem_nil
  interval_pos _ member := absurd member List.not_mem_nil
  now_le_due _ member := absurd member List.not_mem_nil

/-- Changing the timer of a handle leaves entries with other handles alone. -/
theorem map_others {handle : Handle} (change : Timer τ → Timer τ)
    {entries : List (Handle × Timer τ)} (others : ∀ entry ∈ entries, entry.1 ≠ handle) :
    entries.map (fun entry =>
      if entry.1 = handle then (entry.1, change entry.2) else entry) = entries :=
  (List.map_congr_left fun entry member => if_neg (others entry member)).trans
    (List.map_id' entries)

/-- Putting a task back has no effect when its timer is gone. -/
theorem putBack_gone {handle : Handle} (task : τ)
    (gone : ∀ entry ∈ clock.timers, entry.1 ≠ handle) : clock.putBack handle task = clock :=
  congrArg (fun timers => { clock with timers })
    (map_others (fun timer => { timer with task := some task }) gone)

/-- Changing a timer that stands between others. -/
theorem timers_update {handle : Handle} {timer : Timer τ} {front back : List (Handle × Timer τ)}
    (split : clock.timers = front ++ (handle, timer) :: back)
    (inFront : ∀ entry ∈ front, entry.1 ≠ handle) (inBack : ∀ entry ∈ back, entry.1 ≠ handle)
    (change : Timer τ → Timer τ) :
    (clock.update handle change).timers = front ++ (handle, change timer) :: back := by
  simp only [Clock.update, split, List.map_append, List.map_cons, if_true]
  rw [map_others change inFront, map_others change inBack]

/-- Where the timer of a handle stands, that all others have other handles, and what
becomes of the timers when this one is changed. -/
theorem Orderly.split (orderly : clock.Orderly) {entry : Handle × Timer τ}
    (member : entry ∈ clock.timers) :
    ∃ front back, clock.timers = front ++ entry :: back ∧
      (∀ other ∈ front, other.1 ≠ entry.1) ∧ (∀ other ∈ back, other.1 ≠ entry.1) ∧
      ∀ change, (clock.update entry.1 change).timers =
        front ++ (entry.1, change entry.2) :: back := by
  obtain ⟨front, back, split⟩ := List.append_of_mem member
  have sorted := orderly.sorted
  rw [split, List.pairwise_append, List.pairwise_cons] at sorted
  obtain ⟨-, ⟨after, -⟩, before⟩ := sorted
  have inFront : ∀ other ∈ front, other.1 ≠ entry.1 := fun other otherMem equal =>
    Nat.ne_of_lt (before other otherMem entry (.head _)) (congrArg Handle.number equal)
  have inBack : ∀ other ∈ back, other.1 ≠ entry.1 := fun other otherMem equal =>
    Nat.ne_of_gt (after other otherMem) (congrArg Handle.number equal)
  exact ⟨front, back, split, inFront, inBack, timers_update split inFront inBack⟩

/-- A handle names at most one timer. -/
theorem Orderly.eq_of_handle (orderly : clock.Orderly) {first second : Handle × Timer τ}
    (firstMem : first ∈ clock.timers) (secondMem : second ∈ clock.timers)
    (same : second.1 = first.1) : second = first := by
  obtain ⟨front, back, split, inFront, inBack, -⟩ := orderly.split firstMem
  rw [split, List.mem_append, List.mem_cons] at secondMem
  rcases secondMem with member | rfl | member
  · exact absurd same (inFront second member)
  · rfl
  · exact absurd same (inBack second member)

end Operations

/-! ## The next deadline -/

/-- A deadline that is the next one belongs to a timer, and no timer is due before it. -/
theorem nextDeadline?_eq_some {clock : Clock τ} {deadline : Instant} :
    clock.nextDeadline? = some deadline ↔
      (∃ entry ∈ clock.timers, entry.2.due = deadline) ∧
        ∀ entry ∈ clock.timers, deadline ≤ entry.2.due := by
  rw [nextDeadline?, List.min?_eq_some_iff, List.mem_map, List.forall_mem_map]

theorem nextDeadline?_eq_none {clock : Clock τ} :
    clock.nextDeadline? = none ↔ clock.timers = [] := by
  simp [nextDeadline?, List.min?_eq_none_iff]

/-! ## The timer that is taken -/

namespace Due

theorem ofTimer?_eq_some {target : Instant} {entry : Handle × Timer τ} {due : Due τ} :
    ofTimer? target entry = some due ↔
      entry.2.task = some due.task ∧ entry.1 = due.handle ∧ entry.2.due = due.deadline ∧
        due.deadline ≤ target := by
  obtain ⟨handle, interval, deadline, task⟩ := entry
  obtain ⟨dueHandle, dueDeadline, dueTask⟩ := due
  cases task with
  | none => simp [ofTimer?]
  | some task => grind [ofTimer?]

/-- The tick that a due timer makes. -/
def key (due : Due τ) : Instant × Handle := (due.deadline, due.handle)

/-- Among due timers in the order of their numbers, the earliest of the earliest is the
first in the order of ticks. -/
theorem foldl_earlier (first : Due τ) (more : List (Due τ))
    (sorted : (first :: more).Pairwise fun left right =>
      left.handle.number < right.handle.number) :
    more.foldl earlier first ∈ first :: more ∧
      ∀ other ∈ first :: more, ¬Before other.key (more.foldl earlier first).key := by
  induction more generalizing first with
  | nil => simp [Before.irrefl]
  | cons second more ih =>
      rw [List.pairwise_cons, List.pairwise_cons] at sorted
      obtain ⟨afterFirst, afterSecond, rest⟩ := sorted
      rw [List.foldl_cons, earlier]
      split
      next less =>
        obtain ⟨member, least⟩ := ih second (List.pairwise_cons.mpr ⟨afterSecond, rest⟩)
        refine ⟨.tail _ member, fun other otherMem => ?_⟩
        rcases List.mem_cons.mp otherMem with rfl | otherMem
        · have secondBefore : Before second.key other.key := .inl less
          exact fun before => least second (.head _) (secondBefore.trans before)
        · exact least other otherMem
      next notLess =>
        have afterFirst' : ∀ other ∈ more, first.handle.number < other.handle.number :=
          fun other otherMem => afterFirst other (.tail _ otherMem)
        obtain ⟨member, least⟩ := ih first (List.pairwise_cons.mpr ⟨afterFirst', rest⟩)
        refine ⟨?_, fun other otherMem => ?_⟩
        · rcases List.mem_cons.mp member with equal | member
          · exact List.mem_cons.mpr (.inl equal)
          · exact .tail _ (.tail _ member)
        · rcases List.mem_cons.mp otherMem with rfl | otherMem
          · exact least other (.head _)
          · rcases List.mem_cons.mp otherMem with rfl | otherMem
            · have less := afterFirst other (.head _)
              have firstBefore : Before first.key other.key := by
                simp only [Before, key]
                lia
              exact fun before => least first (.head _) (firstBefore.trans before)
            · exact least other (.tail _ otherMem)

end Due

/-- A due timer of a clock is the first one to tick. -/
structure Takes (clock : Clock τ) (target : Instant) (due : Due τ) (timer : Timer τ) :
    Prop where
  member : (due.handle, timer) ∈ clock.timers
  task_eq : timer.task = some due.task
  due_eq : timer.due = due.deadline
  deadline_le : due.deadline ≤ target
  first : ∀ entry ∈ clock.timers, entry.2.task.isSome →
    ¬Before (entry.2.due, entry.1) (due.deadline, due.handle)

/-- The clock at the deadline of a due timer, while that timer runs. -/
def taking (due : Due τ) (clock : Clock τ) : Clock τ :=
  { clock with now := due.deadline }.update due.handle fun timer =>
    { timer with due := due.deadline + timer.interval, task := none }

theorem takeDue?_eq (target : Instant) (clock : Clock τ) :
    clock.takeDue? target =
      (clock.nextDue? target).map fun due => (due, clock.taking due) := rfl

theorem timers_taking (due : Due τ) (clock : Clock τ) :
    (clock.taking due).timers =
      (clock.update due.handle fun timer =>
        { timer with due := due.deadline + timer.interval, task := none }).timers := rfl

@[simp] theorem now_taking (due : Due τ) (clock : Clock τ) :
    (clock.taking due).now = due.deadline := rfl

@[simp] theorem next_taking (due : Due τ) (clock : Clock τ) :
    (clock.taking due).next = clock.next := rfl

/-- The first of the due timers ticks next. -/
theorem takes_of_nextDue? {clock : Clock τ} (orderly : clock.Orderly) {target : Instant}
    {due : Due τ} (taken : clock.nextDue? target = some due) :
    ∃ timer, clock.Takes target due timer := by
  rw [nextDue?] at taken
  cases listed : clock.timers.filterMap (Due.ofTimer? target) with
  | nil => simp [listed] at taken
  | cons first more =>
      simp only [listed, Option.some.injEq] at taken
      have sorted : (first :: more).Pairwise fun left right =>
          left.handle.number < right.handle.number := by
        rw [← listed]
        refine orderly.sorted.filterMap _ fun entry other less left leftDue right rightDue => ?_
        rw [← (Due.ofTimer?_eq_some.mp leftDue).2.1, ← (Due.ofTimer?_eq_some.mp rightDue).2.1]
        exact less
      obtain ⟨member, least⟩ := Due.foldl_earlier first more sorted
      rw [taken, ← listed] at member
      obtain ⟨⟨handle, timer⟩, timerMem, timerDue⟩ := List.mem_filterMap.mp member
      obtain ⟨taskEq, rfl, dueEq, inTime⟩ := Due.ofTimer?_eq_some.mp timerDue
      refine ⟨timer, timerMem, taskEq, dueEq, inTime, fun entry entryMem idle before => ?_⟩
      -- An entry that came before would be due as well, so it would be among the listed.
      obtain ⟨task, entryTask⟩ := Option.isSome_iff_exists.mp idle
      have early : entry.2.due ≤ target := by
        unfold Before at before
        lia
      have entryListed : (⟨entry.1, entry.2.due, task⟩ : Due τ) ∈ first :: more := by
        rw [← listed]
        exact List.mem_filterMap.mpr
          ⟨entry, entryMem, Due.ofTimer?_eq_some.mpr ⟨entryTask, rfl, rfl, early⟩⟩
      exact (taken ▸ least _ entryListed) before

/-- If no timer ticks next, none is due. -/
theorem lt_due_of_nextDue? {clock : Clock τ} {target : Instant}
    (none : clock.nextDue? target = none) :
    ∀ entry ∈ clock.timers, entry.2.task.isSome → target < entry.2.due := by
  intro entry member idle
  obtain ⟨task, taskEq⟩ := Option.isSome_iff_exists.mp idle
  rw [nextDue?] at none
  cases listed : clock.timers.filterMap (Due.ofTimer? target) with
  | cons first more => simp [listed] at none
  | nil =>
      have notDue := List.filterMap_eq_nil_iff.mp listed entry member
      simpa [Due.ofTimer?, taskEq] using notDue

namespace Takes

variable {clock : Clock τ} {target : Instant} {due : Due τ} {timer : Timer τ}

/-- On a settled clock, every other timer ticks after the one that is taken. -/
theorem before (takes : clock.Takes target due timer) (settled : clock.Settled)
    {entry : Handle × Timer τ} (member : entry ∈ clock.timers) (other : entry.1 ≠ due.handle) :
    Before (due.deadline, due.handle) (entry.2.due, entry.1) :=
  .of_not_of_ne (takes.first entry member (settled entry member)) (Ne.symm other)

theorem deadline_le_due (takes : clock.Takes target due timer) (settled : clock.Settled)
    {entry : Handle × Timer τ} (member : entry ∈ clock.timers) :
    due.deadline ≤ entry.2.due := by
  have first := takes.first entry member (settled entry member)
  unfold Before at first
  lia

theorem now_le (takes : clock.Takes target due timer) (orderly : clock.Orderly) :
    clock.now ≤ due.deadline :=
  takes.due_eq ▸ orderly.now_le_due _ takes.member

/-- Taking a timer keeps a settled clock orderly. -/
theorem orderly_taking (takes : clock.Takes target due timer) (orderly : clock.Orderly)
    (settled : clock.Settled) : (clock.taking due).Orderly := by
  have atDeadline : Orderly { clock with now := due.deadline } :=
    { orderly with now_le_due := fun _ member => takes.deadline_le_due settled member }
  exact atDeadline.update due.handle (fun _ => rfl) (fun _ _ => Nat.le_add_right _ _)

/-- What becomes of the timers of a clock when the one that is taken is cancelled, and when it
gets a task back. -/
theorem split (takes : clock.Takes target due timer) (orderly : clock.Orderly) :
    ∃ front back, clock.timers = front ++ (due.handle, timer) :: back ∧
      (∀ entry ∈ front ++ back, entry.1 ≠ due.handle) ∧
      ((clock.taking due).cancel due.handle).timers = front ++ back ∧
      ∀ task, ((clock.taking due).putBack due.handle task).timers =
        front ++ (due.handle, ⟨timer.interval, due.deadline + timer.interval, some task⟩) ::
          back := by
  obtain ⟨front, back, split, inFront, inBack, changed⟩ := orderly.split takes.member
  have others : ∀ entry ∈ front ++ back, entry.1 ≠ due.handle := by
    intro entry member
    rcases List.mem_append.mp member with member | member
    · exact inFront entry member
    · exact inBack entry member
  have running : (clock.taking due).timers =
      front ++ (due.handle, ⟨timer.interval, due.deadline + timer.interval, none⟩) :: back :=
    changed fun timer => { timer with due := due.deadline + timer.interval, task := none }
  refine ⟨front, back, split, others, ?_, fun task => ?_⟩
  · have kept : (front ++ back).filter (fun entry => entry.1 != due.handle) = front ++ back :=
      List.filter_eq_self.mpr fun entry member => by simp [others entry member]
    rw [cancel, running, ← kept]
    simp [List.filter_append]
  · exact timers_update running inFront inBack fun timer => { timer with task := some task }

end Takes

end Clock

end PageWatch
