/-!
# A clock that moves on demand

A clock holds periodic timers. Nothing happens on it until somebody moves it; moving it
lets every timer tick that falls due on the way. A timer's task is taken out of the
clock while it runs, so a running task may schedule and cancel timers, its own included,
and is put back afterwards if its timer is still there.

Times are numbers of nanoseconds without any limit. What happens at a sum that is too great to
be kept is said where runs have a limit.
-/

namespace PageWatch

/-- A length of time, in nanoseconds.  Any number is one, also those from `Span.limit` on, which
cannot be kept in 64 bits of seconds. -/
abbrev Span := Nat

/-- A point in time, in nanoseconds since the clock was made.  Here an instant and a span have a
sum in any case; `World.advanceKept` and its like stop at the first sum that cannot be kept. -/
abbrev Instant := Nat

namespace Span

/-- A number of milliseconds. -/
def ofMs (ms : Nat) : Span := ms * 1000000

/-- The whole milliseconds of a span. -/
def wholeMs (span : Span) : Nat := span / 1000000

/-- The interval that a timer gets when one is asked for. A timer without an interval
would never let time pass, so no interval is shorter than a millisecond. -/
def clamp (span : Span) : Span := max span (ofMs 1)

theorem clamp_pos (span : Span) : 0 < clamp span :=
  Nat.lt_of_lt_of_le (by decide) (Nat.le_max_right span (ofMs 1))

end Span

/-- The name of a timer on its clock: its place in the order of scheduling. -/
structure Handle where
  number : Nat
  deriving DecidableEq, Repr, Inhabited

/-- A periodic timer. -/
structure Timer (τ : Type) where
  interval : Span
  due : Instant
  /-- What the timer runs; none while it is running. -/
  task : Option τ
  deriving Repr

/-- A clock and its timers, in the order in which they were scheduled. -/
structure Clock (τ : Type) where
  now : Instant
  /-- The number of the timer that is scheduled next. -/
  next : Nat
  /-- How many timers were ever scheduled. -/
  scheduled : Nat
  timers : List (Handle × Timer τ)
  deriving Repr

namespace Clock

variable {τ : Type}

/-- A clock without timers. -/
def start : Clock τ := ⟨0, 0, 0, []⟩

instance : Inhabited (Clock τ) := ⟨start⟩

/-- Adds a timer that first ticks after one full interval, however late that is. Its task may
depend on its handle, since nothing ticks before the timer is there. -/
def schedule (interval : Span) (task : Handle → τ) (clock : Clock τ) : Handle × Clock τ :=
  let handle := Handle.mk clock.next
  let interval := interval.clamp
  let timer : Timer τ := ⟨interval, clock.now + interval, some (task handle)⟩
  (handle,
    { clock with
      next := clock.next + 1
      scheduled := clock.scheduled + 1
      timers := clock.timers ++ [(handle, timer)] })

/-- Removes a timer. A handle that names none is ignored. -/
def cancel (handle : Handle) (clock : Clock τ) : Clock τ :=
  { clock with timers := clock.timers.filter fun entry => entry.1 != handle }

/-- Removes every timer. -/
def clear (clock : Clock τ) : Clock τ :=
  { clock with timers := [] }

def active (clock : Clock τ) : Nat := clock.timers.length

/-- The earliest deadline of any timer. -/
def nextDeadline? (clock : Clock τ) : Option Instant :=
  (clock.timers.map fun entry => entry.2.due).min?

/-- Replaces the timer of a handle, if there is one. -/
def update (handle : Handle) (change : Timer τ → Timer τ) (clock : Clock τ) : Clock τ :=
  { clock with
    timers := clock.timers.map fun entry =>
      if entry.1 = handle then (entry.1, change entry.2) else entry }

/-- Gives a timer its task back, if the timer is still there. -/
def putBack (handle : Handle) (task : τ) (clock : Clock τ) : Clock τ :=
  clock.update handle fun timer => { timer with task := some task }

/-- A timer that falls due, with its task. -/
structure Due (τ : Type) where
  handle : Handle
  deadline : Instant
  task : τ

/-- The task of a timer that is due by an instant and not running. -/
def Due.ofTimer? (target : Instant) (entry : Handle × Timer τ) : Option (Due τ) :=
  match entry.2.task with
  | some task => if entry.2.due ≤ target then some ⟨entry.1, entry.2.due, task⟩ else none
  | none => none

/-- The earlier of two due timers; of equally early ones the first. -/
def Due.earlier (first second : Due τ) : Due τ :=
  if second.deadline < first.deadline then second else first

/-- The timer that ticks next when the clock moves to an instant: of those due by then
the one with the earliest deadline, and among equal deadlines the one scheduled first. -/
def nextDue? (target : Instant) (clock : Clock τ) : Option (Due τ) :=
  match clock.timers.filterMap (Due.ofTimer? target) with
  | [] => none
  | due :: more => some (more.foldl Due.earlier due)

/-- Moves the clock to the deadline of the timer that ticks next, takes its task out and
sets its next deadline one interval later. -/
def takeDue? (target : Instant) (clock : Clock τ) : Option (Due τ × Clock τ) :=
  (clock.nextDue? target).map fun due =>
    (due,
      { clock with now := due.deadline }.update due.handle fun timer =>
        { timer with due := due.deadline + timer.interval, task := none })

end Clock

end PageWatch
