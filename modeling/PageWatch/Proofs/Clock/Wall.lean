import PageWatch.Clock.Wall
import PageWatch.Proofs.Clock.Cancellation

/-!
# Tasks on the wall clock as timers

The tasks of a wall clock that have not been cancelled are the timers of a clock, its live clock.
A routine that runs among the tasks does to the live clock what it would do on a clock that is
moved by hand.  Cancelled tasks stay until they are polled and find their flags raised, so what is
polled next is told by another clock, that of all tasks.
-/

namespace PageWatch

variable {τ σ α : Type}

/-- The timer that a task stands for. -/
def WallTask.timer (task : WallTask τ) : Timer τ := ⟨task.period, task.deadline, task.body⟩

namespace WallClock

def timersOf (tasks : List (Handle × WallTask τ)) : List (Handle × Timer τ) :=
  tasks.map fun entry => (entry.1, entry.2.timer)

/-- The clock of all tasks, the cancelled ones included. -/
def all (wall : WallClock τ) : Clock τ :=
  ⟨wall.now, wall.scheduled, wall.scheduled, timersOf wall.tasks⟩

/-- The clock of the tasks that have not been cancelled. -/
def live (wall : WallClock τ) : Clock τ :=
  ⟨wall.now, wall.scheduled, wall.scheduled,
    timersOf (wall.tasks.filter fun entry => !entry.2.cancelled)⟩

/-- The wall clock without the task of a timer. -/
def reap (handle : Handle) (wall : WallClock τ) : WallClock τ :=
  { wall with tasks := wall.tasks.filter fun entry => entry.1 != handle }

def atInstant (instant : Instant) (wall : WallClock τ) : WallClock τ := { wall with now := instant }

section Views

variable {wall : WallClock τ} {handle : Handle}

theorem mem_all {entry : Handle × WallTask τ} (member : entry ∈ wall.tasks) :
    (entry.1, entry.2.timer) ∈ wall.all.timers :=
  List.mem_map_of_mem (f := fun entry : Handle × WallTask τ => (entry.1, entry.2.timer)) member

theorem mem_live {entry : Handle × WallTask τ} (member : entry ∈ wall.tasks)
    (alive : entry.2.cancelled = false) : (entry.1, entry.2.timer) ∈ wall.live.timers := by
  have kept : entry ∈ wall.tasks.filter fun entry => !entry.2.cancelled :=
    List.mem_filter.mpr ⟨member, by simp [alive]⟩
  exact List.mem_map_of_mem
    (f := fun entry : Handle × WallTask τ => (entry.1, entry.2.timer)) kept

/-- The live timers are some of all. -/
theorem live_sublist : wall.live.timers.Sublist wall.all.timers :=
  List.filter_sublist.map _

/-- What a wall clock keeps to.  It knows which timers run, and none of its tasks is overdue; all
tasks are of some kind. -/
structure Lawful (kind : τ → Prop) (wall : WallClock τ) : Prop where
  orderly : wall.all.Orderly
  running : wall.running = wall.live.handles
  kinds : ∀ entry ∈ wall.tasks, ∀ body, entry.2.body = some body → kind body

/-- No timer runs but those of some handles. -/
def Idle (busy : Handle → Prop) (wall : WallClock τ) : Prop :=
  ∀ entry ∈ wall.all.timers, ¬busy entry.1 → entry.2.task.isSome

namespace Lawful

variable {kind : τ → Prop}

theorem start : (WallClock.start : WallClock τ).Lawful kind where
  orderly := ⟨.nil, nofun, nofun, nofun⟩
  running := rfl
  kinds := nofun

theorem live_orderly (lawful : wall.Lawful kind) : wall.live.Orderly where
  sorted := lawful.orderly.sorted.sublist live_sublist
  below_next entry member := lawful.orderly.below_next entry (live_sublist.mem member)
  interval_pos entry member := lawful.orderly.interval_pos entry (live_sublist.mem member)
  now_le_due entry member := lawful.orderly.now_le_due entry (live_sublist.mem member)

theorem nodup (lawful : wall.Lawful kind) : (wall.tasks.map Prod.fst).Nodup := by
  have sorted := lawful.orderly.sorted
  simp only [all, timersOf, List.pairwise_map] at sorted
  rw [List.Nodup, List.pairwise_map]
  exact sorted.imp fun less same => Nat.ne_of_lt less (congrArg Handle.number same)

theorem lookup_eq (lawful : wall.Lawful kind) {task : WallTask τ}
    (member : (handle, task) ∈ wall.tasks) : wall.tasks.lookup handle = some task :=
  lookup_of_mem lawful.nodup member

/-- A handle names at most one task. -/
theorem eq_of_handle (lawful : wall.Lawful kind) {task other : WallTask τ}
    (member : (handle, task) ∈ wall.tasks) (otherMem : (handle, other) ∈ wall.tasks) :
    other = task := by
  have found := lawful.lookup_eq otherMem
  rw [lawful.lookup_eq member] at found
  exact (Option.some.inj found).symm

end Lawful

/-! ## Changes of a wall clock -/

/-- A change of one task that leaves its flag alone is a change of its timer, among all tasks and
among the live ones. -/
theorem update_views {change : WallTask τ → WallTask τ} {same : Timer τ → Timer τ}
    (flag : ∀ task, (change task).cancelled = task.cancelled)
    (timer : ∀ task, (handle, task) ∈ wall.tasks → (change task).timer = same task.timer) :
    (wall.update handle change).all = wall.all.update handle same ∧
      (wall.update handle change).live = wall.live.update handle same := by
  have entries (tasks : List (Handle × WallTask τ)) (known : ∀ entry ∈ tasks, entry ∈ wall.tasks) :
      timersOf (tasks.map fun entry =>
          if entry.1 = handle then (entry.1, change entry.2) else entry) =
        (timersOf tasks).map fun entry =>
          if entry.1 = handle then (entry.1, same entry.2) else entry := by
    simp only [timersOf, List.map_map]
    apply List.map_congr_left
    intro entry member
    obtain ⟨owner, task⟩ := entry
    by_cases own : owner = handle
    · subst own
      simp [timer task (known _ member)]
    · simp [own]
  constructor
  · simp only [all, WallClock.update, Clock.update, entries wall.tasks fun _ member => member]
  · have kept : (wall.tasks.map fun entry =>
          if entry.1 = handle then (entry.1, change entry.2) else entry).filter
            (fun entry => !entry.2.cancelled) =
        (wall.tasks.filter fun entry => !entry.2.cancelled).map fun entry =>
          if entry.1 = handle then (entry.1, change entry.2) else entry := by
      rw [List.filter_map]
      congr 1
      apply List.filter_congr
      intro entry _
      by_cases own : entry.1 = handle <;> simp [own, flag]
    simp only [live, WallClock.update, Clock.update, kept,
      entries _ fun _ member => (List.mem_filter.mp member).1]

/-- What tasks run is of some kind after a change that brings nothing else in. -/
theorem kinds_update {kind : τ → Prop} {change : WallTask τ → WallTask τ}
    (kinds : ∀ entry ∈ wall.tasks, ∀ body, entry.2.body = some body → kind body)
    (fits : ∀ task body, (change task).body = some body → task.body = some body ∨ kind body) :
    ∀ entry ∈ (wall.update handle change).tasks, ∀ body, entry.2.body = some body → kind body := by
  intro entry member body holds
  obtain ⟨former, formerMem, rfl⟩ := List.mem_map.mp member
  by_cases own : former.1 = handle
  · rw [if_pos own] at holds
    cases fits former.2 body holds with
    | inl held => exact kinds former formerMem body held
    | inr fits => exact fits
  · rw [if_neg own] at holds
    exact kinds former formerMem body holds

/-- Cancelling keeps the task and takes its timer off the live clock. -/
theorem cancel_views (running : wall.running = wall.live.handles) (handle : Handle) :
    (wall.cancel handle).all = wall.all ∧ (wall.cancel handle).live = wall.live.cancel handle := by
  rw [WallClock.cancel]
  split
  next runs =>
      constructor
      · simp only [all, WallClock.update, timersOf, List.map_map]
        congr 1
        apply List.map_congr_left
        intro entry _
        by_cases own : entry.1 = handle
        · simp only [Function.comp, if_pos own]
          rfl
        · simp only [Function.comp, if_neg own]
      · have kept : (wall.tasks.map fun entry =>
              if entry.1 = handle then (entry.1, { entry.2 with cancelled := true })
              else entry).filter (fun entry => !entry.2.cancelled) =
            (wall.tasks.filter fun entry => !entry.2.cancelled).filter
              fun entry => entry.1 != handle := by
          induction wall.tasks with
          | nil => rfl
          | cons entry tasks ih =>
              by_cases own : entry.1 = handle <;> cases flag : entry.2.cancelled <;>
                simp [own, flag, ih]
        simp only [live, WallClock.update, Clock.cancel, kept, timersOf, List.filter_map]
        rfl
  next quiet =>
      have gone : handle ∉ wall.live.handles := by
        rw [← running]
        simpa using quiet
      exact ⟨rfl, (Clock.cancel_eq_self gone).symm⟩

theorem now_cancel (handle : Handle) : (wall.cancel handle).now = wall.now := by
  rw [WallClock.cancel]
  split <;> rfl

theorem kinds_cancel {kind : τ → Prop}
    (kinds : ∀ entry ∈ wall.tasks, ∀ body, entry.2.body = some body → kind body)
    (handle : Handle) :
    ∀ entry ∈ (wall.cancel handle).tasks, ∀ body, entry.2.body = some body → kind body := by
  rw [WallClock.cancel]
  split
  next =>
      have running : ∀ entry ∈ ({ wall with running := wall.running.filter (· != handle) } :
          WallClock τ).tasks, ∀ body, entry.2.body = some body → kind body := kinds
      exact kinds_update running fun _ _ holds => .inl holds
  next => exact kinds

theorem running_cancel (handle : Handle) :
    (wall.cancel handle).running = wall.running.filter (· != handle) := by
  rw [WallClock.cancel]
  split
  next => rfl
  next quiet =>
      symm
      rw [List.filter_eq_self]
      intro other member
      have apart : other ≠ handle := by
        intro same
        subst same
        exact quiet (List.elem_eq_true_of_mem member)
      simpa using apart

/-- A cancelled task that is reaped was none of the live timers. -/
theorem reap_views {kind : τ → Prop} (lawful : wall.Lawful kind) {task : WallTask τ}
    (member : (handle, task) ∈ wall.tasks) (cancelled : task.cancelled = true) :
    (wall.reap handle).all = wall.all.cancel handle ∧ (wall.reap handle).live = wall.live := by
  constructor
  · simp only [all, reap, Clock.cancel, timersOf, List.filter_map]
    rfl
  · have kept : (wall.tasks.filter fun entry => entry.1 != handle).filter
        (fun entry => !entry.2.cancelled) =
          wall.tasks.filter fun entry => !entry.2.cancelled := by
      rw [List.filter_filter]
      apply List.filter_congr
      intro entry entryMem
      obtain ⟨owner, other⟩ := entry
      by_cases own : owner = handle
      · subst own
        rw [lawful.eq_of_handle member entryMem]
        simp [cancelled]
      · simp [own]
    simp only [live, reap, kept]

end Views

end WallClock

end PageWatch
