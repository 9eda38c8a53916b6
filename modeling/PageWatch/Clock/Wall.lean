import PageWatch.Clock.Advance

/-!
# Timers on the wall clock

Here every timer is a task of its own, which the system polls when its deadline has
come. The owner of the timers keeps a register of those that run. Cancelling takes a
timer off the register and raises a flag that the task looks at before every tick; a
task that finds its flag raised ends. A task that is polled late
puts off its following deadline instead of catching up.
-/

namespace PageWatch

/-- The task behind a timer on the wall clock. -/
structure WallTask (τ : Type) where
  deadline : Instant
  period : Span
  /-- Raised when the timer is cancelled. -/
  cancelled : Bool
  /-- What the timer runs; none while it is running. -/
  body : Option τ
  deriving Repr

namespace WallTask

/-- How late a task may be polled and still keep its rhythm. -/
def tolerance : Span := Span.ofMs 5

/-- The deadline after the one that is met at an instant. -/
def following {τ : Type} (task : WallTask τ) (now : Instant) : Instant :=
  if task.deadline + tolerance < now then now + task.period else task.deadline + task.period

end WallTask

/-- The timers of one owner and their tasks. -/
structure WallClock (τ : Type) where
  now : Instant
  /-- How many timers were ever scheduled. -/
  scheduled : Nat
  /-- The timers that were neither cancelled nor dropped. -/
  running : List Handle
  tasks : List (Handle × WallTask τ)
  deriving Repr

namespace WallClock

variable {τ : Type}

/-- No timers. -/
def start : WallClock τ := ⟨0, 0, [], []⟩

instance : Inhabited (WallClock τ) := ⟨start⟩

/-- How many timers run. -/
def active (clock : WallClock τ) : Nat := clock.running.length

/-- Starts the task of a new timer. -/
def schedule (interval : Span) (task : Handle → τ) (clock : WallClock τ) :
    Handle × WallClock τ :=
  let handle := Handle.mk clock.scheduled
  let period := interval.clamp
  let entry : WallTask τ := ⟨clock.now + period, period, false, some (task handle)⟩
  (handle,
    { clock with
      scheduled := clock.scheduled + 1
      running := clock.running ++ [handle]
      tasks := clock.tasks ++ [(handle, entry)] })

/-- Replaces the task of a timer, if it still has one. -/
def update (handle : Handle) (change : WallTask τ → WallTask τ) (clock : WallClock τ) :
    WallClock τ :=
  { clock with
    tasks := clock.tasks.map fun entry =>
      if entry.1 = handle then (entry.1, change entry.2) else entry }

/-- Stops a timer that runs; any other handle is ignored. -/
def cancel (handle : Handle) (clock : WallClock τ) : WallClock τ :=
  if clock.running.contains handle then
    { clock with running := clock.running.filter (· != handle) }.update handle
      fun task => { task with cancelled := true }
  else clock

/-- Stops every timer, as their owner does when it goes away. -/
def drop (clock : WallClock τ) : WallClock τ :=
  clock.running.foldl (fun clock handle => clock.cancel handle) clock

/-- The timers seen by a routine. The wall clock can be neither cleared nor moved. -/
def service : TimerService (WallClock τ) τ where
  now := WallClock.now
  schedule := schedule
  cancel := cancel
  clear := id

/-- Polls the task of a timer whose deadline has come: what it runs, if it may still
run, and the tasks while it does. A task whose flag is raised ends instead. -/
def poll (handle : Handle) (clock : WallClock τ) : Option τ × WallClock τ :=
  match clock.tasks.lookup handle with
  | none => (none, clock)
  | some task =>
    if task.cancelled then
      (none, { clock with tasks := clock.tasks.filter fun entry => entry.1 != handle })
    else
      (task.body,
        clock.update handle fun task =>
          { task with deadline := task.following clock.now, body := none })

/-- Gives a task its body back, if the task is still there. -/
def putBack (handle : Handle) (body : τ) (clock : WallClock τ) : WallClock τ :=
  clock.update handle fun task => { task with body := some body }

/-- The earlier of two deadlines; of equal ones the first. -/
def earlier (first second : Handle × Instant) : Handle × Instant :=
  if second.2 < first.2 then second else first

/-- The task that is polled next when time goes on until an instant. -/
def nextDue? (target : Instant) (clock : WallClock τ) : Option (Handle × Instant) :=
  let due := clock.tasks.filterMap fun entry =>
    if entry.2.body.isSome && entry.2.deadline ≤ target then some (entry.1, entry.2.deadline)
    else none
  match due with
  | [] => none
  | first :: more => some (more.foldl earlier first)

end WallClock

namespace World

variable {τ σ : Type}

/-- A world with timers on the wall clock. -/
abbrev Walled (τ σ : Type) := World (WallClock τ) σ

/-- Runs a routine among timers on the wall clock. -/
def performWalled {α : Type} (routine : Routine τ σ α) (world : Walled τ σ) :
    α × Walled τ σ :=
  world.act WallClock.service routine

/-- Polls the task of a timer and runs its tick. -/
def pollTask (behaviour : Behaviour τ σ) (handle : Handle) (world : Walled τ σ) :
    Walled τ σ :=
  match world.timers.poll handle with
  | (none, timers) => { world with timers }
  | (some body, timers) =>
    let (body, after) := performWalled (behaviour handle body) { world with timers }
    { after with timers := after.timers.putBack handle body }

/-- Lets time go on until an instant, polling every task whose deadline has come; at most
`ticks` of them. -/
def sleepUntil (behaviour : Behaviour τ σ) :
    Nat → Instant → Walled τ σ → Option (Walled τ σ)
  | 0, _, _ => none
  | ticks + 1, target, world =>
    match world.timers.nextDue? target with
    | none => some { world with timers := { world.timers with now := target } }
    | some (handle, deadline) =>
      let now := max world.timers.now deadline
      sleepUntil behaviour ticks target
        (pollTask behaviour handle { world with timers := { world.timers with now } })

/-- Lets a span of time go by. -/
def sleep (behaviour : Behaviour τ σ) (ticks : Nat) (span : Span) (world : Walled τ σ) :
    Option (Walled τ σ) :=
  sleepUntil behaviour ticks (world.timers.now + span) world

/-- Sets the wall clock forward at once, and lets overdue timers tick. -/
def jump (behaviour : Behaviour τ σ) (ticks : Nat) (span : Span) (world : Walled τ σ) :
    Option (Walled τ σ) :=
  let now := world.timers.now + span
  sleepUntil behaviour ticks now { world with timers := { world.timers with now } }

end World

end PageWatch
