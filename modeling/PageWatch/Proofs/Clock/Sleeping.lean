import PageWatch.Proofs.Clock.Nesting
import PageWatch.Proofs.Clock.Wall

/-!
# Sleeping is moving a clock

Letting time go by among tasks on the wall clock comes to the same as moving their live clock by
hand, as long as the ticks neither clear timers nor move clocks.  A task that is polled on time
ticks as its timer does; polling a cancelled task changes nothing but the time.

Tasks that are due at one instant may be polled in any order.  The model polls them in the order
of their handles, and then the same timers tick in the same order on the live clock.  With any
other order this is so whenever no two live timers are due at one instant.
-/

namespace PageWatch

open WallClock

variable {τ σ α : Type} {kind : τ → Prop}

/-- The world with the live clock of its wall clock. -/
def World.live (world : World.Walled τ σ) : World.Clocked τ σ := ⟨world.timers.live, world.state⟩

/-- Two behaviours that do the same for tasks of some kind.  They neither clear the timers nor move
the clock then, and give timers tasks of that kind only. -/
structure Behaviour.Alike (kind : τ → Prop) (hand walled : Behaviour τ σ) : Prop where
  same : ∀ handle task, kind task → walled handle task = hand handle task
  modest : ∀ handle task, kind task → (hand handle task).Modest False kind kind

/-- What holds of the tasks between any two steps. -/
structure WallClock.Ready (kind : τ → Prop) (busy : Handle → Prop) (wall : WallClock τ) : Prop where
  lawful : wall.Lawful kind
  idle : wall.Idle busy

namespace WallClock

variable {wall : WallClock τ} {busy : Handle → Prop}

theorem schedule_views (wall : WallClock τ) (interval : Span) (task : Handle → τ) :
    (wall.schedule interval task).2.all = (wall.all.schedule interval task).2 ∧
      (wall.schedule interval task).2.live = (wall.live.schedule interval task).2 := by
  constructor
  · simp [all, WallClock.schedule, Clock.schedule, timersOf, WallTask.timer]
  · simp [live, WallClock.schedule, Clock.schedule, timersOf, WallTask.timer]

theorem Ready.schedule (ready : wall.Ready kind busy) (interval : Span) {task : Handle → τ}
    (fits : ∀ handle, kind (task handle)) : (wall.schedule interval task).2.Ready kind busy := by
  obtain ⟨all_eq, live_eq⟩ := schedule_views wall interval task
  refine ⟨⟨?_, ?_, ?_⟩, ?_⟩
  · rw [all_eq]
    exact ready.lawful.orderly.schedule interval task
  · rw [live_eq, Clock.handles, Clock.timers_schedule, List.map_append]
    exact congrArg (· ++ _) ready.lawful.running
  · intro entry member body holds
    cases List.mem_append.mp member with
    | inl member => exact ready.lawful.kinds entry member body holds
    | inr member =>
        rw [List.mem_singleton.mp member] at holds
        rw [← Option.some.inj holds]
        exact fits _
  · intro entry member free
    rw [all_eq, Clock.timers_schedule] at member
    cases List.mem_append.mp member with
    | inl member => exact ready.idle entry member free
    | inr member => exact List.mem_singleton.mp member ▸ rfl

theorem Ready.cancel (ready : wall.Ready kind busy) (handle : Handle) :
    (wall.cancel handle).Ready kind busy := by
  obtain ⟨all_eq, live_eq⟩ := cancel_views ready.lawful.running handle
  refine ⟨⟨?_, ?_, ?_⟩, ?_⟩
  · rw [all_eq]
    exact ready.lawful.orderly
  · rw [live_eq, running_cancel, ready.lawful.running]
    simp only [Clock.handles, Clock.cancel, List.filter_map]
    rfl
  · exact kinds_cancel ready.lawful.kinds handle
  · intro entry member free
    rw [all_eq] at member
    exact ready.idle entry member free

/-- A routine among tasks does to the live clock what it would do on a clock moved by hand. -/
theorem Ready.act {ends : α → Prop} {routine : Routine τ σ α} (ready : wall.Ready kind busy)
    (modest : routine.Modest False kind ends) (state : σ) :
    let ended := World.act WallClock.service routine ⟨wall, state⟩
    World.act Clock.service routine ⟨wall.live, state⟩ = (ended.1, ended.2.live) ∧
      ended.2.timers.Ready kind busy ∧ ended.2.timers.now = wall.now ∧ ends ended.1 := by
  induction routine generalizing wall state with
  | done result => exact ⟨rfl, ready, rfl, modest⟩
  | look next ih => exact ih _ _ ready (modest _ _) state
  | put changed next ih => exact ih ready modest changed
  | schedule interval task next ih =>
      obtain ⟨acts, after⟩ := ih _ (ready.schedule interval modest.1) (modest.2 _) state
      rw [(schedule_views wall interval task).2] at acts
      exact ⟨acts, after⟩
  | cancel handle next ih =>
      obtain ⟨acts, after, now_eq, last⟩ := ih (ready.cancel handle) modest state
      rw [(cancel_views ready.lawful.running handle).2] at acts
      exact ⟨acts, after, now_eq.trans (now_cancel handle), last⟩
  | clear next ih => exact modest.1.elim
  | advance span next => exact modest.elim

/-! ## Polls -/

/-- The wall clock while a task ticks that was polled on time. -/
def taking (handle : Handle) (deadline : Instant) (wall : WallClock τ) : WallClock τ :=
  (wall.atInstant deadline).update handle fun task =>
    { task with deadline := task.following deadline, body := none }

theorem poll_eq {handle : Handle} {task : WallTask τ}
    (found : wall.tasks.lookup handle = some task) (alive : task.cancelled = false)
    (instant : Instant) :
    (wall.atInstant instant).poll handle = (task.body, wall.taking handle instant) := by
  simp [poll, atInstant, found, alive, taking]

/-- A task that is polled on time keeps its rhythm. -/
theorem taking_views {handle : Handle} {task : WallTask τ} (lawful : wall.Lawful kind)
    (member : (handle, task) ∈ wall.tasks) (body : τ) :
    (wall.taking handle task.deadline).all = wall.all.taking ⟨handle, task.deadline, body⟩ ∧
      (wall.taking handle task.deadline).live =
        wall.live.taking ⟨handle, task.deadline, body⟩ := by
  have late : ¬task.deadline + WallTask.tolerance < task.deadline :=
    Nat.not_lt.mpr (Nat.le_add_right _ _)
  let change (other : WallTask τ) : WallTask τ :=
    { other with deadline := other.following task.deadline, body := none }
  let same (timer : Timer τ) : Timer τ :=
    { timer with due := task.deadline + timer.interval, task := none }
  have timer (other : WallTask τ) (otherMem : (handle, other) ∈ wall.tasks) :
      (change other).timer = same other.timer := by
    rw [lawful.eq_of_handle member otherMem]
    simp [change, same, WallTask.timer, WallTask.following, late]
  have flag (other : WallTask τ) : (change other).cancelled = other.cancelled := rfl
  have views : ((wall.atInstant task.deadline).update handle change).all = _ ∧
      ((wall.atInstant task.deadline).update handle change).live = _ :=
    update_views flag timer
  exact views

theorem putBack_views (wall : WallClock τ) (handle : Handle) (body : τ) :
    (wall.putBack handle body).all = wall.all.putBack handle body ∧
      (wall.putBack handle body).live = wall.live.putBack handle body :=
  update_views (fun _ => rfl) fun _ _ => rfl

theorem Ready.taking {handle : Handle} {task : WallTask τ}
    (ready : wall.Ready kind fun _ => False) (member : (handle, task) ∈ wall.tasks) (body : τ)
    (first : ∀ entry ∈ wall.all.timers, task.deadline ≤ entry.2.due) :
    (wall.taking handle task.deadline).Ready kind (· = handle) := by
  obtain ⟨all_eq, live_eq⟩ := taking_views ready.lawful member body
  have atDeadline : Clock.Orderly { wall.all with now := task.deadline } :=
    { ready.lawful.orderly with now_le_due := first }
  refine ⟨⟨?_, ?_, ?_⟩, ?_⟩
  · rw [all_eq]
    exact atDeadline.update handle (fun _ => rfl) fun _ _ => Nat.le_add_right _ _
  · rw [live_eq, Clock.handles_taking]
    exact ready.lawful.running
  · exact kinds_update ready.lawful.kinds fun _ _ => nofun
  · intro entry entryMem other
    rw [all_eq] at entryMem
    obtain ⟨former, formerMem, rfl⟩ := Clock.mem_timers_update.mp entryMem
    by_cases own : former.1 = handle
    · rw [if_pos own] at other
      exact absurd own other
    · rw [if_neg own]
      exact ready.idle former formerMem not_false

theorem Ready.putBack {handle : Handle} (ready : wall.Ready kind (· = handle)) {body : τ}
    (fits : kind body) : (wall.putBack handle body).Ready kind fun _ => False := by
  obtain ⟨all_eq, live_eq⟩ := putBack_views wall handle body
  refine ⟨⟨?_, ?_, ?_⟩, ?_⟩
  · rw [all_eq]
    exact ready.lawful.orderly.putBack handle body
  · rw [live_eq, Clock.handles_putBack]
    exact ready.lawful.running
  · apply kinds_update ready.lawful.kinds
    intro task other holds
    rw [← Option.some.inj holds]
    exact .inr fits
  · intro entry entryMem _
    rw [all_eq] at entryMem
    obtain ⟨former, formerMem, rfl⟩ := Clock.mem_timers_update.mp entryMem
    by_cases own : former.1 = handle
    · rw [if_pos own]
      rfl
    · rw [if_neg own]
      exact ready.idle former formerMem own

/-- A task that is polled on time ticks as its timer does. -/
theorem Ready.poll {hand walled : Behaviour τ σ} (alike : Behaviour.Alike kind hand walled)
    (ready : wall.Ready kind fun _ => False) (state : σ) {handle : Handle} {task : WallTask τ}
    {body : τ} (member : (handle, task) ∈ wall.tasks) (alive : task.cancelled = false)
    (holds : task.body = some body)
    (first : ∀ entry ∈ wall.all.timers, task.deadline ≤ entry.2.due) :
    let polled := World.pollTask walled handle ⟨wall.atInstant task.deadline, state⟩
    polled.live = World.beat hand ⟨handle, task.deadline, body⟩ ⟨wall.live, state⟩ ∧
      polled.timers.Ready kind fun _ => False := by
  have fits : kind body := ready.lawful.kinds _ member body holds
  obtain ⟨acts, after, -, last⟩ :=
    (ready.taking member body first).act (alike.modest handle body fits) state
  rw [(taking_views ready.lawful member body).2] at acts
  simp only [World.pollTask, World.beat, World.performWalled, acts, alike.same handle body fits,
    poll_eq (ready.lawful.lookup_eq member) alive, holds]
  generalize World.act WallClock.service (hand handle body)
    ⟨wall.taking handle task.deadline, state⟩ = ended at after last
  obtain ⟨left, ⟨timers, state⟩⟩ := ended
  refine ⟨?_, after.putBack last⟩
  simp only [World.live, (putBack_views timers handle left).2]

/-- A cancelled task that is polled, or never polled again, changes nothing but the time. -/
theorem Ready.reap (ready : wall.Ready kind fun _ => False) {handle : Handle} {task : WallTask τ}
    (member : (handle, task) ∈ wall.tasks) (cancelled : task.cancelled = true)
    {instant : Instant} (first : ∀ entry ∈ wall.all.timers, instant ≤ entry.2.due) :
    ((wall.atInstant instant).reap handle).live = { wall.live with now := instant } ∧
      ((wall.atInstant instant).reap handle).Ready kind fun _ => False := by
  obtain ⟨all_eq, live_eq⟩ := reap_views ready.lawful member cancelled
  have all_eq : ((wall.atInstant instant).reap handle).all =
      Clock.cancel handle { wall.all with now := instant } :=
    congrArg (fun clock : Clock τ => { clock with now := instant }) all_eq
  have live_eq : ((wall.atInstant instant).reap handle).live = { wall.live with now := instant } :=
    congrArg (fun clock : Clock τ => { clock with now := instant }) live_eq
  have atInstant : Clock.Orderly { wall.all with now := instant } :=
    { ready.lawful.orderly with now_le_due := first }
  refine ⟨live_eq, ⟨?_, ?_, ?_⟩, ?_⟩
  · rw [all_eq]
    exact atInstant.cancel handle
  · rw [live_eq]
    exact ready.lawful.running
  · intro entry entryMem
    exact ready.lawful.kinds entry (List.mem_filter.mp entryMem).1
  · intro entry entryMem free
    rw [all_eq] at entryMem
    exact ready.idle entry (Clock.mem_timers_cancel.mp entryMem).1 free

theorem pollTask_cancelled {behaviour : Behaviour τ σ} {handle : Handle} {task : WallTask τ}
    (found : wall.tasks.lookup handle = some task) (cancelled : task.cancelled = true)
    (instant : Instant) (state : σ) :
    World.pollTask behaviour handle ⟨wall.atInstant instant, state⟩ =
      ⟨(wall.atInstant instant).reap handle, state⟩ := by
  simp [World.pollTask, WallClock.poll, WallClock.atInstant, found, cancelled, WallClock.reap]

/-! ## Which task is polled next -/

/-- The task that is polled next is the first of all that are due, the cancelled ones included. -/
theorem nextDue?_eq (target : Instant) (wall : WallClock τ) :
    wall.nextDue? target =
      (wall.all.nextDue? target).map fun due => (due.handle, due.deadline) := by
  have listed : wall.tasks.filterMap (fun entry =>
        if entry.2.body.isSome && entry.2.deadline ≤ target then some (entry.1, entry.2.deadline)
        else none) =
      (wall.all.timers.filterMap (Clock.Due.ofTimer? target)).map
        fun due => (due.handle, due.deadline) := by
    rw [List.map_filterMap, all, timersOf, List.filterMap_map]
    congr 1
    funext entry
    obtain ⟨handle, deadline, period, cancelled, body⟩ := entry
    cases body with
    | none => simp [Clock.Due.ofTimer?, WallTask.timer]
    | some body =>
        by_cases inTime : deadline ≤ target <;>
          simp [Clock.Due.ofTimer?, WallTask.timer, inTime]
  have folded (first : Clock.Due τ) (more : List (Clock.Due τ)) :
      (more.map fun due => (due.handle, due.deadline)).foldl earlier
          (first.handle, first.deadline) =
        ((more.foldl Clock.Due.earlier first).handle,
          (more.foldl Clock.Due.earlier first).deadline) := by
    induction more generalizing first with
    | nil => rfl
    | cons second more ih =>
        have one : earlier (first.handle, first.deadline) (second.handle, second.deadline) =
            ((Clock.Due.earlier first second).handle,
              (Clock.Due.earlier first second).deadline) := by
          simp only [earlier, Clock.Due.earlier]
          split <;> rfl
        rw [List.map_cons, List.foldl_cons, List.foldl_cons, one]
        exact ih _
  rw [WallClock.nextDue?, Clock.nextDue?, listed]
  cases wall.all.timers.filterMap (Clock.Due.ofTimer? target) with
  | nil => rfl
  | cons first more =>
      simp only [List.map_cons, Option.map_some, folded]

end WallClock

/-- The timer that is taken first is the one that ticks next. -/
theorem Clock.nextDue?_of_takes {clock : Clock τ} (orderly : clock.Orderly) {target : Instant}
    {due : Due τ} {timer : Timer τ} (takes : clock.Takes target due timer) :
    clock.nextDue? target = some due := by
  cases next : clock.nextDue? target with
  | none =>
      have late := lt_due_of_nextDue? next _ takes.member (by simp [takes.task_eq])
      have inTime := takes.deadline_le
      rw [takes.due_eq] at late
      exact absurd inTime (Nat.not_le.mpr late)
  | some other =>
      obtain ⟨otherTimer, otherTakes⟩ := takes_of_nextDue? orderly next
      have before := takes.first _ otherTakes.member (by simp [otherTakes.task_eq])
      have after := otherTakes.first _ takes.member (by simp [takes.task_eq])
      rw [otherTakes.due_eq] at before
      rw [takes.due_eq] at after
      have same : other.handle = due.handle := by
        by_contra apart
        exact before (Before.of_not_of_ne after apart)
      have timers := orderly.eq_of_handle takes.member otherTakes.member same
      have tasks := otherTakes.task_eq
      have dues := otherTakes.due_eq
      rw [(Prod.mk.inj timers).2, takes.task_eq] at tasks
      rw [(Prod.mk.inj timers).2, takes.due_eq] at dues
      obtain ⟨otherHandle, otherDeadline, otherTask⟩ := other
      obtain ⟨handle, deadline, task⟩ := due
      simp only [Option.some.injEq] at same tasks dues ⊢
      rw [same, ← tasks, ← dues]

/-! ## Time goes by -/

namespace World

open Clock

variable {hand walled : Behaviour τ σ} {target : Instant}

/-- Ways in which time goes by until an instant.  A task runs at the instant at which it becomes
due, in any order where several do.  A task that was cancelled goes at any instant until its
deadline. -/
inductive Sleeps (behaviour : Behaviour τ σ) (target : Instant) :
    Walled τ σ → Walled τ σ → Prop where
  | woken {world : Walled τ σ} (later : ∀ entry ∈ world.timers.tasks, target < entry.2.deadline) :
    Sleeps behaviour target world { world with timers := world.timers.atInstant target }
  | polled {world after : Walled τ σ} {handle : Handle} {task : WallTask τ} {instant : Instant}
    (member : (handle, task) ∈ world.timers.tasks)
    (forward : world.timers.now ≤ instant) (inTime : instant ≤ target)
    (punctual : ∀ entry ∈ world.timers.tasks, instant ≤ entry.2.deadline)
    (called : task.cancelled = true ∨ task.deadline = instant)
    (onward : Sleeps behaviour target
      (pollTask behaviour handle { world with timers := world.timers.atInstant instant }) after) :
    Sleeps behaviour target world after

/-- Whether no two timers fall due together in the first ticks on the way to an instant, where no
tick moves the clock. -/
def apart (behaviour : Behaviour τ σ) (target : Instant) : Nat → Clocked τ σ → Bool
  | 0, _ => true
  | ticks + 1, world =>
    match world.timers.nextDue? target with
    | none => true
    | some due =>
      (world.timers.timers.all fun entry =>
        entry.2.due != due.deadline || entry.1 == due.handle) &&
        apart behaviour target ticks (world.beat behaviour due)

theorem apart_atInstant {behaviour : Behaviour τ σ} {ticks : Nat} {instant : Instant}
    {world : Clocked τ σ} (distinct : apart behaviour target ticks world = true) :
    apart behaviour target ticks (world.arrive instant) = true := by
  cases ticks with
  | zero => rfl
  | succ ticks => exact distinct

theorem apart_succ {behaviour : Behaviour τ σ} {ticks : Nat} {world : Clocked τ σ} {due : Due τ}
    (distinct : apart behaviour target (ticks + 1) world = true)
    (next : world.timers.nextDue? target = some due) :
    (∀ entry ∈ world.timers.timers, entry.2.due = due.deadline → entry.1 = due.handle) ∧
      apart behaviour target ticks (world.beat behaviour due) = true := by
  simp only [apart, next, Bool.and_eq_true, List.all_eq_true] at distinct
  obtain ⟨alone, onward⟩ := distinct
  refine ⟨fun entry member together => ?_, onward⟩
  simpa [together] using alone entry member

end World

namespace WallClock.Ready

open World Clock

variable {hand walled : Behaviour τ σ} {target : Instant} {wall : WallClock τ}
  {busy : Handle → Prop}

theorem atInstant (ready : wall.Ready kind busy) {instant : Instant}
    (first : ∀ entry ∈ wall.all.timers, instant ≤ entry.2.due) :
    (wall.atInstant instant).Ready kind busy :=
  ⟨⟨{ ready.lawful.orderly with now_le_due := first }, ready.lawful.running, ready.lawful.kinds⟩,
    ready.idle⟩

/-- What holds of the deadlines of all tasks holds of those of their timers. -/
theorem forall_due {holds : Instant → Prop} (all : ∀ entry ∈ wall.tasks, holds entry.2.deadline) :
    ∀ entry ∈ wall.all.timers, holds entry.2.due := by
  intro entry member
  obtain ⟨task, taskMem, rfl⟩ := List.mem_map.mp member
  exact all task taskMem

theorem live_settled (ready : wall.Ready kind fun _ => False) : wall.live.Settled :=
  fun entry member => ready.idle entry (live_sublist.mem member) not_false

/-- Nothing ticks on the live clock when every task is called later. -/
theorem live_rests (ready : wall.Ready kind busy)
    (later : ∀ entry ∈ wall.tasks, target < entry.2.deadline) :
    wall.live.nextDue? target = none := by
  cases next : wall.live.nextDue? target with
  | none => rfl
  | some due =>
      obtain ⟨timer, takes⟩ := takes_of_nextDue? ready.lawful.live_orderly next
      have late := forall_due later _ (live_sublist.mem takes.member)
      have inTime := takes.deadline_le
      rw [takes.due_eq] at late
      exact absurd inTime (Nat.not_le.mpr late)

/-- The task that is polled next, unless it was cancelled, is behind the timer that ticks next. -/
theorem live_next (ready : wall.Ready kind busy) {due : Due τ} {task : WallTask τ}
    (takes : wall.all.Takes target due task.timer) (member : (due.handle, task) ∈ wall.tasks)
    (alive : task.cancelled = false) : wall.live.nextDue? target = some due :=
  nextDue?_of_takes ready.lawful.live_orderly
    { takes with
      member := mem_live member alive
      first := fun entry entryMem => takes.first entry (live_sublist.mem entryMem) }

/-- A task that is called before any deadline has passed is behind the timer that ticks next, as no
other falls due at the same instant. -/
theorem live_alone (ready : wall.Ready kind fun _ => False) {handle : Handle} {task : WallTask τ}
    {body : τ} (member : (handle, task) ∈ wall.tasks) (alive : task.cancelled = false)
    (holds : task.body = some body) (inTime : task.deadline ≤ target)
    (first : ∀ entry ∈ wall.all.timers, task.deadline ≤ entry.2.due)
    (alone : ∀ due, wall.live.nextDue? target = some due →
      ∀ entry ∈ wall.live.timers, entry.2.due = due.deadline → entry.1 = due.handle) :
    wall.live.nextDue? target = some ⟨handle, task.deadline, body⟩ := by
  have running : (handle, task.timer) ∈ wall.live.timers := mem_live member alive
  have idle : task.timer.task.isSome := ready.live_settled _ running
  cases next : wall.live.nextDue? target with
  | none => exact absurd inTime (Nat.not_le.mpr (lt_due_of_nextDue? next _ running idle))
  | some due =>
      obtain ⟨timer, takes⟩ := takes_of_nextDue? ready.lawful.live_orderly next
      have before : due.deadline ≤ task.deadline :=
        takes.deadline_le_due ready.live_settled running
      have after : task.deadline ≤ due.deadline :=
        takes.due_eq ▸ first _ (live_sublist.mem takes.member)
      have together : task.deadline = due.deadline := Nat.le_antisymm after before
      obtain rfl : handle = due.handle := alone due next _ running together
      have timers := ready.lawful.live_orderly.eq_of_handle takes.member running rfl
      have bodies := takes.task_eq
      rw [← (Prod.mk.inj timers).2] at bodies
      rw [together, Option.some.inj (holds.symm.trans bodies)]

theorem reap_shorter {handle : Handle} {task : WallTask τ} (member : (handle, task) ∈ wall.tasks) :
    (wall.reap handle).tasks.length < wall.tasks.length :=
  List.length_filter_lt_length_iff_exists.mpr ⟨_, member, by simp⟩

/-- The task that is polled next, its deadline, and that no deadline comes before. -/
theorem exists_next (ready : wall.Ready kind fun _ => False) {due : Due τ}
    (next : wall.all.nextDue? target = some due) :
    ∃ task, (due.handle, task) ∈ wall.tasks ∧ wall.all.Takes target due task.timer ∧
      task.deadline = due.deadline ∧ ∀ entry ∈ wall.all.timers, due.deadline ≤ entry.2.due := by
  obtain ⟨timer, takes⟩ := takes_of_nextDue? ready.lawful.orderly next
  obtain ⟨⟨handle, task⟩, member, same⟩ := List.mem_map.mp takes.member
  obtain ⟨rfl, rfl⟩ := Prod.mk.inj same
  refine ⟨task, member, takes, takes.due_eq, fun entry => ?_⟩
  exact takes.deadline_le_due fun entry member => ready.idle entry member not_false

/-- Sleeping ends at once when every task is called later. -/
theorem sleepUntil_rest (walled : Behaviour τ σ) {world : Walled τ σ}
    (next : world.timers.all.nextDue? target = none) (enough : Nat) :
    sleepUntil walled (enough + 1) target world =
      some { world with timers := world.timers.atInstant target } := by
  rw [sleepUntil, nextDue?_eq, next]
  rfl

/-- Otherwise a task is polled at its deadline before sleeping goes on. -/
theorem sleepUntil_poll (walled : Behaviour τ σ) {world : Walled τ σ}
    (ready : world.timers.Ready kind fun _ => False) {due : Due τ}
    (next : world.timers.all.nextDue? target = some due) (enough : Nat) :
    sleepUntil walled (enough + 1) target world =
      sleepUntil walled enough target (pollTask walled due.handle
        { world with timers := world.timers.atInstant due.deadline }) := by
  obtain ⟨timer, takes⟩ := takes_of_nextDue? ready.lawful.orderly next
  have forward : world.timers.now ≤ due.deadline := takes.now_le ready.lawful.orderly
  rw [sleepUntil, nextDue?_eq, next]
  simp only [Option.map_some, Nat.max_eq_right forward]
  rfl

/-- Where a move of the live clock comes to an end, so does sleeping until then, with the live
clock where it was moved to. -/
theorem sleep (alike : Behaviour.Alike kind hand walled) {ticks : Nat} {world : Walled τ σ}
    {after : Clocked τ σ} (ready : world.timers.Ready kind fun _ => False)
    (drained : drain Clock.service hand ticks target world.live = some after) :
    ∃ woken, woken.live = after ∧ (woken.timers.Ready kind fun _ => False) ∧
      Sleeps walled target world woken ∧
      ComesTo (fun enough => sleepUntil walled enough target world) woken := by
  cases allowed : ticks with
  | zero => exact absurd (allowed ▸ drained) nofun
  | succ fewer =>
      rw [allowed] at drained
      cases next : world.timers.all.nextDue? target with
      | none =>
          have later : ∀ entry ∈ world.timers.tasks, target < entry.2.deadline :=
            fun entry member => lt_due_of_nextDue? next _ (mem_all member)
              (ready.idle _ (mem_all member) not_false)
          rw [drain_rest (ready.live_rests later)] at drained
          refine ⟨{ world with timers := world.timers.atInstant target },
            Option.some.inj drained, ?_, .woken later, ?_⟩
          · exact ready.atInstant (forall_due fun entry member => Nat.le_of_lt (later entry member))
          · exact ComesTo.succ (.always fun _ => rfl) (sleepUntil_rest walled next)
      | some due =>
          obtain ⟨task, member, takes, onTime, first⟩ := ready.exists_next next
          let polled := pollTask walled due.handle
            { world with timers := world.timers.atInstant due.deadline }
          -- A cancelled task is gone after it was polled, and the live clock has not ticked.
          obtain ⟨woken, live_eq, readied, sleeps, wakes⟩ :
              ∃ woken, woken.live = after ∧ (woken.timers.Ready kind fun _ => False) ∧
                Sleeps walled target polled woken ∧
                ComesTo (fun enough => sleepUntil walled enough target polled) woken := by
            cases flag : task.cancelled with
            | true =>
                obtain ⟨live_eq, readied⟩ := ready.reap member flag first
                have reaped : polled =
                    ⟨(world.timers.atInstant due.deadline).reap due.handle, world.state⟩ :=
                  pollTask_cancelled (ready.lawful.lookup_eq member) flag _ _
                rw [reaped]
                apply sleep alike readied
                rw [World.live, live_eq]
                exact (drain_atInstant ..).trans drained
            | false =>
                have fits := alike.modest due.handle due.task
                  (ready.lawful.kinds _ member due.task takes.task_eq)
                rw [drain_tick (ready.live_next takes member flag) fits.still] at drained
                have beats := ready.poll alike world.state member flag takes.task_eq
                  (onTime ▸ first)
                rw [onTime] at beats
                exact sleep alike beats.2 ((congrArg _ beats.1).trans drained)
          refine ⟨woken, live_eq, readied, ?_, wakes.succ (sleepUntil_poll walled ready next)⟩
          refine .polled member (takes.now_le ready.lawful.orderly) takes.deadline_le ?_
            (.inr onTime) sleeps
          exact fun entry entryMem => first _ (mem_all entryMem)
termination_by (ticks, world.timers.tasks.length)
decreasing_by
  · rw [allowed]
    exact Prod.Lex.left _ _ (Nat.lt_succ_self fewer)
  · rw [allowed]
    have shorter : ((world.timers.atInstant due.deadline).reap due.handle).tasks.length <
        world.timers.tasks.length := reap_shorter member
    exact Prod.Lex.right _ shorter

/-- In whatever way time goes by until an instant, the live clock is moved there, unless timers
fall due together. -/
theorem of_sleeps (alike : Behaviour.Alike kind hand walled) {world after : Walled τ σ}
    (ready : world.timers.Ready kind fun _ => False)
    (distinct : ∀ ticks, apart hand target ticks world.live = true)
    (sleeps : Sleeps walled target world after) :
    (after.timers.Ready kind fun _ => False) ∧
      ComesTo (fun ticks => drain Clock.service hand ticks target world.live) after.live := by
  induction sleeps with
  | @woken world later =>
      refine ⟨?_, ?_⟩
      · exact ready.atInstant (forall_due fun entry member => Nat.le_of_lt (later entry member))
      · exact ComesTo.succ (.always fun _ => rfl) (drain_rest (ready.live_rests later))
  | @polled world after handle task instant member forward inTime punctual called onward ih =>
      have first := forall_due punctual
      cases flag : task.cancelled with
      | true =>
          obtain ⟨live_eq, readied⟩ := ready.reap member flag first
          rw [pollTask_cancelled (ready.lawful.lookup_eq member) flag] at ih
          have live_eq : (⟨(world.timers.atInstant instant).reap handle, world.state⟩ :
              Walled τ σ).live = world.live.arrive instant := by
            rw [World.live, live_eq]
            rfl
          simp only [live_eq, drain_atInstant] at ih
          exact ih readied fun ticks => apart_atInstant (distinct ticks)
      | false =>
          obtain rfl : task.deadline = instant := by simpa [flag] using called
          obtain ⟨body, holds⟩ := Option.isSome_iff_exists.mp
            (ready.idle _ (mem_all member) not_false)
          have next := ready.live_alone member flag holds inTime first
            fun due next => (apart_succ (distinct 1) next).1
          have beats := ready.poll alike world.state member flag holds first
          obtain ⟨last, ends⟩ := ih beats.2 fun ticks =>
            beats.1 ▸ (apart_succ (distinct (ticks + 1)) next).2
          have fits := alike.modest handle body (ready.lawful.kinds _ member body holds)
          refine ⟨last, ends.succ fun ticks => ?_⟩
          rw [drain_tick next fits.still]
          exact congrArg _ beats.1.symm

end WallClock.Ready

end PageWatch
