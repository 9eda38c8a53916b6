import PageWatch.Proofs.Clock.Sleeping

/-!
# Tasks in any order

A system that runs several tasks decides itself when to poll which.  A task may be polled late, or
without being due; one that finds its deadline met looks at its flag and ticks at once, and does so
again where the next deadline has been met meanwhile.  Aborting a task takes effect only once it
has suspended, and possibly late.

An interleaving is any list of events that the system and the owner of the timers may bring about.
Whatever the interleaving, no tick of a timer begins after the timer has been cancelled, or dropped
with its owner, and the timers that count as active are those that were scheduled and not cancelled
since.  What carries it is that every task whose flag is not raised is on the register, and the
register has just the timers that are live in the history.
-/

namespace PageWatch

variable {τ σ α : Type}

namespace WallClock

/-! ## What the register says about the tasks -/

/-- A wall clock whose register has every timer with a task that may still tick. -/
structure Registered (wall : WallClock τ) : Prop where
  nodup : wall.running.Nodup
  given : ∀ handle ∈ wall.running, handle.number < wall.scheduled
  named : (wall.tasks.map Prod.fst).Nodup
  numbered : ∀ entry ∈ wall.tasks, entry.1.number < wall.scheduled
  /-- A task whose flag is not raised is the task of a timer that runs. -/
  enrolled : ∀ entry ∈ wall.tasks, entry.2.cancelled = false → entry.1 ∈ wall.running

theorem map_fst_update (wall : WallClock τ) (handle : Handle)
    (change : WallTask τ → WallTask τ) :
    (wall.update handle change).tasks.map Prod.fst = wall.tasks.map Prod.fst := by
  rw [WallClock.update, List.map_map]
  refine List.map_congr_left fun entry _ => ?_
  simp only [Function.comp]
  split <;> rfl

theorem mem_tasks_update {wall : WallClock τ} {handle : Handle}
    {change : WallTask τ → WallTask τ} {entry : Handle × WallTask τ} :
    entry ∈ (wall.update handle change).tasks ↔
      ∃ former ∈ wall.tasks,
        entry = if former.1 = handle then (former.1, change former.2) else former := by
  simp only [WallClock.update, List.mem_map, eq_comm]

/-- The owner of many timers that cancels some of them takes just these off the register. -/
theorem running_cancels (handles : List Handle) (wall : WallClock τ) :
    (handles.foldl (fun wall handle => wall.cancel handle) wall).running =
      wall.running.filter fun handle => !handles.contains handle := by
  induction handles generalizing wall with
  | nil => exact (List.filter_eq_self.mpr fun _ _ => rfl).symm
  | cons handle handles ih =>
      rw [List.foldl_cons, ih, running_cancel, List.filter_filter]
      apply List.filter_congr
      intro other _
      by_cases same : other = handle <;> simp [same]

theorem running_drop (wall : WallClock τ) : wall.drop.running = [] := by
  rw [drop, running_cancels, List.filter_eq_nil_iff]
  intro handle member
  simp [member]

theorem scheduled_cancel (wall : WallClock τ) (handle : Handle) :
    (wall.cancel handle).scheduled = wall.scheduled := by
  rw [WallClock.cancel]
  split <;> rfl

/-- What every request to cancel preserves holds of the timers that are dropped. -/
theorem drop_keeps (holds : WallClock τ → Prop) {wall : WallClock τ}
    (cancel : ∀ handle wall, holds wall → holds (wall.cancel handle)) (start : holds wall) :
    holds wall.drop := by
  rw [drop]
  generalize wall.running = handles
  induction handles generalizing wall with
  | nil => exact start
  | cons handle handles ih => exact ih (cancel handle wall start)

namespace Registered

variable {wall : WallClock τ}

theorem start : (WallClock.start : WallClock τ).Registered :=
  ⟨.nil, nofun, .nil, nofun, nofun⟩

theorem atInstant (registered : wall.Registered) (now : Instant) :
    (wall.atInstant now).Registered :=
  ⟨registered.nodup, registered.given, registered.named, registered.numbered, registered.enrolled⟩

/-- A change of one task that does not lower its flag leaves the register right. -/
theorem update (registered : wall.Registered) (handle : Handle) {change : WallTask τ → WallTask τ}
    (flag : ∀ task, (change task).cancelled = task.cancelled) :
    (wall.update handle change).Registered where
  nodup := registered.nodup
  given := registered.given
  named := by
    rw [map_fst_update]
    exact registered.named
  numbered entry member := by
    obtain ⟨former, formerMem, rfl⟩ := mem_tasks_update.mp member
    have below := registered.numbered former formerMem
    split <;> exact below
  enrolled entry member alive := by
    obtain ⟨former, formerMem, rfl⟩ := mem_tasks_update.mp member
    have enrolled := registered.enrolled former formerMem
    split at alive
    next own =>
        rw [if_pos own]
        exact enrolled ((flag former.2).symm.trans alive)
    next other =>
        rw [if_neg other]
        exact enrolled alive

theorem putBack (registered : wall.Registered) (handle : Handle) (body : τ) :
    (wall.putBack handle body).Registered :=
  registered.update handle fun _ => rfl

theorem schedule (registered : wall.Registered) (interval : Span) (task : Handle → τ) :
    (wall.schedule interval task).2.Registered where
  nodup := by
    refine List.nodup_append.mpr ⟨registered.nodup, List.pairwise_singleton _ _, ?_⟩
    rintro handle runs _ fresh rfl
    rw [List.mem_singleton.mp fresh] at runs
    exact Nat.lt_irrefl _ (registered.given _ runs)
  given handle member := by
    rcases List.mem_append.mp member with member | member
    · exact Nat.lt_succ_of_lt (registered.given handle member)
    · rw [List.mem_singleton.mp member]
      exact Nat.lt_succ_self _
  named := by
    simp only [WallClock.schedule, List.map_append]
    refine List.nodup_append.mpr ⟨registered.named, List.pairwise_singleton _ _, ?_⟩
    rintro handle known _ fresh rfl
    obtain ⟨entry, member, same⟩ := List.mem_map.mp known
    have below := registered.numbered entry member
    rw [same, List.mem_singleton.mp fresh] at below
    exact Nat.lt_irrefl _ below
  numbered entry member := by
    rcases List.mem_append.mp member with member | member
    · exact Nat.lt_succ_of_lt (registered.numbered entry member)
    · rw [List.mem_singleton.mp member]
      exact Nat.lt_succ_self _
  enrolled entry member alive := by
    rcases List.mem_append.mp member with member | member
    · exact List.mem_append_left _ (registered.enrolled entry member alive)
    · rw [List.mem_singleton.mp member]
      exact List.mem_append_right _ (.head _)

/-- Cancelling raises the flag of the task whose timer it takes off the register. -/
theorem cancel (registered : wall.Registered) (handle : Handle) :
    (wall.cancel handle).Registered := by
  have running : (wall.cancel handle).running = wall.running.filter (· != handle) :=
    running_cancel handle
  rw [WallClock.cancel] at running ⊢
  split
  next runs =>
      rw [if_pos runs] at running
      refine ⟨?_, ?_, ?_, ?_, ?_⟩
      · rw [running]
        exact registered.nodup.filter _
      · intro other member
        rw [running] at member
        exact registered.given other (List.mem_filter.mp member).1
      · rw [map_fst_update]
        exact registered.named
      · intro entry member
        obtain ⟨former, formerMem, rfl⟩ := mem_tasks_update.mp member
        have below := registered.numbered former formerMem
        split <;> exact below
      · intro entry member alive
        obtain ⟨former, formerMem, rfl⟩ := mem_tasks_update.mp member
        split at alive
        next => simp at alive
        next other =>
            rw [running, if_neg other, List.mem_filter]
            exact ⟨registered.enrolled former formerMem alive, by simpa using other⟩
  next => exact registered

theorem drop (registered : wall.Registered) : wall.drop.Registered :=
  drop_keeps _ (fun handle _ kept => kept.cancel handle) registered

theorem reap (registered : wall.Registered) (handle : Handle) : (wall.reap handle).Registered where
  nodup := registered.nodup
  given := registered.given
  named := registered.named.sublist (List.filter_sublist.map Prod.fst)
  numbered entry member := registered.numbered entry (List.mem_filter.mp member).1
  enrolled entry member := registered.enrolled entry (List.mem_filter.mp member).1

/-- A task that is polled ticks only if its timer is on the register, and is gone otherwise. -/
theorem poll (registered : wall.Registered) (handle : Handle) :
    (wall.poll handle).2.Registered ∧ (wall.poll handle).2.running = wall.running ∧
      (wall.poll handle).2.scheduled = wall.scheduled ∧
      ∀ body, (wall.poll handle).1 = some body → handle ∈ wall.running := by
  cases found : wall.tasks.lookup handle with
  | none =>
      rw [show wall.poll handle = (none, wall) by simp only [WallClock.poll, found]]
      exact ⟨registered, rfl, rfl, by simp⟩
  | some task =>
      cases flag : task.cancelled with
      | true =>
          rw [show wall.poll handle = (none, wall.reap handle) by
            simp only [WallClock.poll, found, flag, if_true, WallClock.reap]]
          exact ⟨registered.reap handle, rfl, rfl, by simp⟩
      | false =>
          rw [show wall.poll handle = (task.body, wall.taking handle wall.now) from
            poll_eq found flag wall.now]
          have taken : (wall.taking handle wall.now).Registered :=
            (registered.atInstant wall.now).update handle fun _ => rfl
          refine ⟨taken, rfl, rfl, ?_⟩
          obtain ⟨front, back, split, -⟩ := List.lookup_eq_some_iff.mp found
          have member : (handle, task) ∈ wall.tasks := by simp [split]
          exact fun _ _ => registered.enrolled _ member flag

end Registered

/-- The task that is polled next, and its deadline. -/
theorem exists_of_nextDue? {wall : WallClock τ} {target : Instant} {handle : Handle}
    {deadline : Instant} (next : wall.nextDue? target = some (handle, deadline)) :
    ∃ task, (handle, task) ∈ wall.tasks ∧ task.deadline = deadline ∧ deadline ≤ target ∧
      task.body.isSome := by
  rw [nextDue?_eq] at next
  obtain ⟨due, taken, same⟩ := Option.map_eq_some_iff.mp next
  obtain ⟨rfl, rfl⟩ := Prod.mk.inj same
  obtain ⟨timer, timerMem, holds, due_eq, inTime⟩ := Clock.exists_of_nextDue? taken
  obtain ⟨⟨owner, task⟩, member, entry_eq⟩ := List.mem_map.mp timerMem
  obtain ⟨rfl, rfl⟩ := Prod.mk.inj entry_eq
  exact ⟨task, member, due_eq, inTime, Option.isSome_of_mem holds⟩

end WallClock

/-- No time goes by during a poll. -/
theorem World.now_pollTask (behaviour : Behaviour τ σ) (handle : Handle)
    (world : World.Walled τ σ) :
    (World.pollTask behaviour handle world).timers.now = world.timers.now := by
  have polled : (world.timers.poll handle).2.now = world.timers.now := by
    rw [WallClock.poll]
    split
    next => rfl
    next => split <;> rfl
  rw [World.pollTask]
  cases taken : world.timers.poll handle with
  | mk body timers =>
      rw [taken] at polled
      cases body with
      | none => exact polled
      | some body =>
          exact World.act_keeps (fun wall : WallClock τ => wall.now = world.timers.now)
            (fun _ _ _ same => same) (fun handle _ same => (WallClock.now_cancel handle).trans same)
            (fun _ same => same) (behaviour handle body) _ polled

/-! ## The system -/

/-- What a system with timers is doing. -/
inductive Turn where
  /-- No task of a timer is polled. -/
  | elsewhere
  /-- The task of a timer is polled, and no tick of it runs. -/
  | awake (handle : Handle)
  | ticking (handle : Handle)
  deriving DecidableEq, Repr

/-- A system that polls the tasks of timers in an order of its own. -/
structure Runtime (τ : Type) where
  wall : WallClock τ
  /-- Whether the owner of the timers is still there. -/
  owned : Bool
  /-- The tasks that have never been polled. -/
  fresh : List Handle
  /-- The tasks that have been aborted. -/
  aborted : List Handle
  turn : Turn
  /-- What happened to the timers.  They are cleared when they are dropped with their owner. -/
  history : History

/-- Something that the system, or the owner of the timers, brings about. -/
inductive Runtime.Event (τ : Type) where
  | schedules (interval : Span) (task : Handle → τ)
  | cancels (handle : Handle)
  /-- The owner goes away. -/
  | drops
  /-- Time goes by, or the wall clock is set forward. -/
  | passes (span : Span)
  /-- A task is polled for the first time, and counts its first interval from then. -/
  | starts (handle : Handle)
  /-- A task is polled that has suspended, whether its deadline has been met or not. -/
  | wakes (handle : Handle)
  /-- The task that is polled finds that its deadline has been met.  It looks at its flag, and
  ticks or ends. -/
  | proceeds
  /-- The tick that runs is over and leaves what the task runs at the next. -/
  | returns (body : τ)
  /-- The task that is polled suspends. -/
  | suspends
  /-- A task that has suspended goes because it was aborted. -/
  | reaps (handle : Handle)

namespace Runtime

/-- A system before anything is scheduled. -/
def start : Runtime τ := ⟨WallClock.start, true, [], [], .elsewhere, []⟩

/-- Writes down that something happens now. -/
def note (happening : Happening) (runtime : Runtime τ) : Runtime τ :=
  { runtime with history := runtime.history ++ [(runtime.wall.now, happening)] }

/-- The system after an event, if the event may come about.  The owner may make requests at any
time, also from within a tick, as long as it is there.  A task may be woken before it is started,
as if it had been polled for the first time when it was scheduled. -/
def after? : Event τ → Runtime τ → Option (Runtime τ)
  | .schedules interval task, runtime =>
    if runtime.owned then
      let (handle, wall) := runtime.wall.schedule interval task
      some <| note (.scheduled handle interval)
        { runtime with wall, fresh := handle :: runtime.fresh }
    else none
  | .cancels handle, runtime =>
    if runtime.owned then
      some <| note (.cancelled handle)
        { runtime with
          wall := runtime.wall.cancel handle
          aborted := runtime.wall.running.filter (· == handle) ++ runtime.aborted }
    else none
  | .drops, runtime =>
    if runtime.owned then
      some <| note .cleared
        { runtime with
          wall := runtime.wall.drop
          owned := false
          aborted := runtime.wall.running ++ runtime.aborted }
    else none
  | .passes span, runtime =>
    some { runtime with wall := runtime.wall.atInstant (runtime.wall.now + span) }
  | .starts handle, runtime =>
    if runtime.turn = .elsewhere ∧ handle ∈ runtime.fresh then
      some { runtime with
        wall := runtime.wall.update handle fun task =>
          { task with deadline := runtime.wall.now + task.period }
        fresh := runtime.fresh.filter (· != handle)
        turn := .awake handle }
    else none
  | .wakes handle, runtime =>
    if runtime.turn = .elsewhere then some { runtime with turn := .awake handle } else none
  | .proceeds, runtime =>
    match runtime.turn with
    | .awake handle =>
      match runtime.wall.tasks.lookup handle with
      | none => none
      | some task =>
        if task.deadline ≤ runtime.wall.now then
          match runtime.wall.poll handle with
          | (some _, wall) => some <| note (.ticked handle)
              { runtime with wall, turn := .ticking handle }
          | (none, wall) => some { runtime with wall, turn := .elsewhere }
        else none
    | _ => none
  | .returns body, runtime =>
    match runtime.turn with
    | .ticking handle => some { runtime with
        wall := runtime.wall.putBack handle body, turn := .awake handle }
    | _ => none
  | .suspends, runtime =>
    match runtime.turn with
    | .awake _ => some { runtime with turn := .elsewhere }
    | _ => none
  | .reaps handle, runtime =>
    if runtime.turn = .elsewhere ∧ handle ∈ runtime.aborted then
      some { runtime with wall := runtime.wall.reap handle }
    else none

/-- The system after an interleaving of events, if they may come about in this order. -/
def follow (events : List (Event τ)) (runtime : Runtime τ) : Option (Runtime τ) :=
  events.foldlM (fun runtime event => runtime.after? event) runtime

@[simp] theorem follow_nil (runtime : Runtime τ) : runtime.follow [] = some runtime := rfl

@[simp] theorem follow_cons (event : Event τ) (events : List (Event τ)) (runtime : Runtime τ) :
    runtime.follow (event :: events) =
      (runtime.after? event).bind fun after => after.follow events := rfl

theorem follow_append (first second : List (Event τ)) (runtime : Runtime τ) :
    runtime.follow (first ++ second) =
      (runtime.follow first).bind fun after => after.follow second :=
  List.foldlM_append

/-! ## What the system and its history agree on -/

/-- A system whose register has the timers that are live in the history. -/
structure Tracks (runtime : Runtime τ) : Prop where
  registered : runtime.wall.Registered
  lawful : runtime.history.Lawful
  running_eq : runtime.wall.running = runtime.history.live
  below_next : ∀ time handle interval, (time, .scheduled handle interval) ∈ runtime.history →
    handle.number < runtime.wall.scheduled
  /-- Timers are dropped only when their owner goes away. -/
  kept : runtime.owned = true → ∀ entry ∈ runtime.history, entry.2 ≠ .cleared

namespace Tracks

variable {runtime after : Runtime τ}

theorem start : (Runtime.start : Runtime τ).Tracks :=
  ⟨.start, History.lawful_nil, rfl, nofun, nofun⟩

/-- Nothing that the register does not show needs to be written down. -/
theorem silent (tracks : runtime.Tracks) (registered : after.wall.Registered)
    (running : after.wall.running = runtime.wall.running)
    (scheduled : after.wall.scheduled = runtime.wall.scheduled)
    (history : after.history = runtime.history) (owned : after.owned = runtime.owned) :
    after.Tracks where
  registered
  lawful := history ▸ tracks.lawful
  running_eq := by rw [running, history, tracks.running_eq]
  below_next := by
    rw [history, scheduled]
    exact tracks.below_next
  kept := by
    rw [history, owned]
    exact tracks.kept

/-- A register that changes as is written down goes on to have the live timers. -/
theorem noted (tracks : runtime.Tracks) {happening : Happening}
    (registered : after.wall.Registered)
    (history : after.history = runtime.history ++ [(after.wall.now, happening)])
    (permitted : runtime.history.Permits happening)
    (running : after.wall.running =
      History.liveStep runtime.wall.running (after.wall.now, happening))
    (scheduled : runtime.wall.scheduled ≤ after.wall.scheduled)
    (fresh : ∀ handle interval, happening = .scheduled handle interval →
      handle.number < after.wall.scheduled)
    (kept : after.owned = true → runtime.owned = true ∧ happening ≠ .cleared) :
    after.Tracks where
  registered
  lawful := history ▸ tracks.lawful.snoc permitted
  running_eq := by rw [running, history, History.live_snoc, tracks.running_eq]
  below_next time handle interval member := by
    rw [history] at member
    rcases List.mem_append.mp member with member | member
    · exact Nat.lt_of_lt_of_le (tracks.below_next time handle interval member) scheduled
    · exact fresh handle interval (congrArg Prod.snd (List.mem_singleton.mp member)).symm
  kept owned entry member := by
    obtain ⟨owned, other⟩ := kept owned
    rw [history] at member
    rcases List.mem_append.mp member with member | member
    · exact tracks.kept owned entry member
    · rw [List.mem_singleton.mp member]
      exact other

/-- Whatever comes about, the register goes on to have the live timers. -/
theorem next (tracks : runtime.Tracks) (event : Event τ)
    (comes : runtime.after? event = some after) : after.Tracks := by
  obtain ⟨wall, owned, fresh, aborted, turn, history⟩ := runtime
  have registered : wall.Registered := tracks.registered
  cases event with
  | schedules interval task =>
      obtain ⟨there, ⟨⟩⟩ := Option.ite_none_right_eq_some.mp comes
      refine tracks.noted (registered.schedule interval task) rfl tracks.below_next rfl
        (Nat.le_succ _) ?_ fun _ => ⟨there, nofun⟩
      rintro handle other ⟨⟩
      exact Nat.lt_succ_self _
  | cancels handle =>
      obtain ⟨there, ⟨⟩⟩ := Option.ite_none_right_eq_some.mp comes
      exact tracks.noted (registered.cancel handle) rfl trivial (WallClock.running_cancel handle)
        (Nat.le_of_eq (WallClock.scheduled_cancel wall handle).symm) nofun fun _ => ⟨there, nofun⟩
  | drops =>
      obtain ⟨there, ⟨⟩⟩ := Option.ite_none_right_eq_some.mp comes
      have scheduled : wall.drop.scheduled = wall.scheduled :=
        WallClock.drop_keeps (fun other => other.scheduled = wall.scheduled)
          (fun handle other same => (WallClock.scheduled_cancel other handle).trans same) rfl
      exact tracks.noted registered.drop rfl trivial (WallClock.running_drop wall)
        (Nat.le_of_eq scheduled.symm) nofun nofun
  | passes span =>
      obtain rfl := Option.some.inj comes
      exact tracks.silent (registered.atInstant _) rfl rfl rfl rfl
  | starts handle =>
      obtain ⟨-, ⟨⟩⟩ := Option.ite_none_right_eq_some.mp comes
      have kept : (wall.update handle fun task =>
          { task with deadline := wall.now + task.period }).Registered :=
        registered.update handle fun _ => rfl
      exact tracks.silent kept rfl rfl rfl rfl
  | wakes handle =>
      obtain ⟨-, ⟨⟩⟩ := Option.ite_none_right_eq_some.mp comes
      exact tracks.silent registered rfl rfl rfl rfl
  | proceeds =>
      cases turn with
      | elsewhere | ticking handle => exact absurd comes nofun
      | awake handle =>
          obtain ⟨kept, running, scheduled, enrolled⟩ := registered.poll handle
          cases found : wall.tasks.lookup handle with
          | none => simp [after?, found] at comes
          | some task =>
              simp only [after?, found] at comes
              obtain ⟨-, comes⟩ := Option.ite_none_right_eq_some.mp comes
              generalize wall.poll handle = polled at comes kept running scheduled enrolled
              obtain ⟨_ | body, polled⟩ := polled
              · obtain rfl := Option.some.inj comes
                exact tracks.silent kept running scheduled rfl rfl
              · obtain rfl := Option.some.inj comes
                refine tracks.noted kept rfl ?_ running (Nat.le_of_eq scheduled.symm) nofun
                  fun there => ⟨there, nofun⟩
                show handle ∈ history.live
                exact tracks.running_eq ▸ enrolled body rfl
  | returns body =>
      cases turn with
      | elsewhere | awake handle => exact absurd comes nofun
      | ticking handle =>
          obtain rfl := Option.some.inj comes
          exact tracks.silent (registered.putBack handle body) rfl rfl rfl rfl
  | suspends =>
      cases turn with
      | elsewhere | ticking handle => exact absurd comes nofun
      | awake handle =>
          obtain rfl := Option.some.inj comes
          exact tracks.silent registered rfl rfl rfl rfl
  | reaps handle =>
      obtain ⟨-, ⟨⟩⟩ := Option.ite_none_right_eq_some.mp comes
      exact tracks.silent (registered.reap handle) rfl rfl rfl rfl

/-- In every interleaving, the register goes on to have the live timers. -/
theorem follow (tracks : runtime.Tracks) (events : List (Event τ))
    (followed : runtime.follow events = some after) : after.Tracks := by
  induction events generalizing runtime with
  | nil => exact Option.some.inj followed ▸ tracks
  | cons event events ih =>
      obtain ⟨next, comes, onward⟩ := Option.bind_eq_some_iff.mp followed
      exact ih (tracks.next event comes) onward

end Tracks

/-- Whatever the order in which tasks are polled, stopped timers stay stopped.  In the history of
every interleaving, no tick of a timer begins after the timer has been cancelled or dropped, even
where its deadline had been met before; and as long as their owner is there, the timers that count
as active are those that were scheduled and have not been cancelled since. -/
theorem stopped_in_any_order (events : List (Event τ)) {runtime : Runtime τ}
    (followed : start.follow events = some runtime) :
    runtime.history.Mortal ∧
      (runtime.owned = true → ∃ handles : List Handle,
        runtime.wall.active = handles.length ∧ handles.Nodup ∧
        ∀ handle, handle ∈ handles ↔
          ∃ before time interval after,
            runtime.history = before ++ (time, .scheduled handle interval) :: after ∧
              ∀ entry ∈ after, entry.2 ≠ .cancelled handle) := by
  have tracks := Tracks.start.follow events followed
  refine ⟨tracks.lawful.mortal, fun owned => ?_⟩
  refine ⟨runtime.wall.running, rfl, tracks.registered.nodup, fun handle => ?_⟩
  rw [tracks.running_eq, History.mem_live]
  constructor
  · rintro ⟨before, time, interval, after, split, undisturbed⟩
    exact ⟨before, time, interval, after, split, fun entry member => (undisturbed entry member).1⟩
  · rintro ⟨before, time, interval, after, split, kept⟩
    refine ⟨before, time, interval, after, split, fun entry member => ⟨kept entry member, ?_⟩⟩
    exact tracks.kept owned entry (by simp [split, member])

/-- Two timers are overdue when the first of them ticks.  It cancels the other one, which is polled
all the same, and then itself, although its next deadline has been met by then. -/
def overdue : List (Event Unit) :=
  [.schedules (Span.ofMs 10) (fun _ => ()), .schedules (Span.ofMs 10) (fun _ => ()),
    .passes (Span.ofMs 50), .wakes ⟨0⟩, .proceeds, .cancels ⟨1⟩, .cancels ⟨0⟩,
    .passes (Span.ofMs 50), .returns (), .proceeds, .wakes ⟨1⟩, .proceeds]

theorem stopped_in_any_order_overdue :
    ∃ runtime : Runtime Unit, start.follow overdue = some runtime ∧ runtime.history.Mortal ∧
      runtime.history =
        [(0, .scheduled ⟨0⟩ (Span.ofMs 10)), (0, .scheduled ⟨1⟩ (Span.ofMs 10)),
          (Span.ofMs 50, .ticked ⟨0⟩), (Span.ofMs 50, .cancelled ⟨1⟩),
          (Span.ofMs 50, .cancelled ⟨0⟩)] ∧
      runtime.owned = true ∧ runtime.wall.active = 0 := by
  have followed : start.follow overdue = some
      ⟨⟨Span.ofMs 100, 2, [], []⟩, true, [⟨1⟩, ⟨0⟩], [⟨0⟩, ⟨1⟩], .elsewhere,
        [(0, .scheduled ⟨0⟩ (Span.ofMs 10)), (0, .scheduled ⟨1⟩ (Span.ofMs 10)),
          (Span.ofMs 50, .ticked ⟨0⟩), (Span.ofMs 50, .cancelled ⟨1⟩),
          (Span.ofMs 50, .cancelled ⟨0⟩)]⟩ := rfl
  exact ⟨_, followed, (stopped_in_any_order overdue followed).1, rfl, rfl, rfl⟩

/-! ## Sleeping and jumping -/

/-- Events may come about after which the timers are as given, and no task is polled that was not
polled before. -/
def Brings (runtime : Runtime τ) (wall : WallClock τ) : Prop :=
  ∃ events after, runtime.follow events = some after ∧
    after.wall = wall ∧ after.turn = runtime.turn ∧ after.owned = runtime.owned

theorem Brings.refl (runtime : Runtime τ) : runtime.Brings runtime.wall :=
  ⟨[], runtime, rfl, rfl, rfl, rfl⟩

/-- What comes about after some events comes about with them. -/
theorem Brings.after {runtime next : Runtime τ} {wall : WallClock τ} (events : List (Event τ))
    (comes : runtime.follow events = some next) (turn : next.turn = runtime.turn)
    (owned : next.owned = runtime.owned) (onward : next.Brings wall) : runtime.Brings wall := by
  obtain ⟨more, last, followed, reached, sameTurn, sameOwned⟩ := onward
  refine ⟨events ++ more, last, ?_, reached, sameTurn.trans turn, sameOwned.trans owned⟩
  rw [follow_append, comes]
  exact followed

/-- What comes about in two parts comes about. -/
theorem Brings.trans {runtime : Runtime τ} {wall other : WallClock τ} (first : runtime.Brings wall)
    (second : ∀ events next, runtime.follow events = some next → next.wall = wall →
      next.turn = runtime.turn → next.owned = runtime.owned → next.Brings other) :
    runtime.Brings other := by
  obtain ⟨events, next, followed, reached, turn, owned⟩ := first
  exact .after events followed turn owned (second events next followed reached turn owned)

/-- What a routine asks of the timers, their owner may ask, in a tick or elsewhere. -/
theorem brings_act (routine : Routine τ σ α) {runtime : Runtime τ} (owned : runtime.owned = true)
    (state : σ) :
    runtime.Brings (World.performWalled routine ⟨runtime.wall, state⟩).2.timers := by
  induction routine generalizing runtime state with
  | done result => exact .refl runtime
  | look next ih => exact ih runtime.wall.now state owned state
  | put changed next ih => exact ih owned changed
  | schedule interval task next ih =>
      obtain ⟨after, comes, wall, turn, kept⟩ : ∃ after,
          runtime.after? (.schedules interval task) = some after ∧
            after.wall = (runtime.wall.schedule interval task).2 ∧ after.turn = runtime.turn ∧
              after.owned = true :=
        ⟨_, if_pos owned, rfl, rfl, owned⟩
      refine .after [.schedules interval task] (by simp [comes]) turn (kept.trans owned.symm) ?_
      have onward := ih (runtime.wall.schedule interval task).1 kept state
      rw [wall] at onward
      exact onward
  | cancel handle next ih =>
      obtain ⟨after, comes, wall, turn, kept⟩ : ∃ after,
          runtime.after? (.cancels handle) = some after ∧
            after.wall = runtime.wall.cancel handle ∧ after.turn = runtime.turn ∧
              after.owned = true :=
        ⟨_, if_pos owned, rfl, rfl, owned⟩
      refine .after [.cancels handle] (by simp [comes]) turn (kept.trans owned.symm) ?_
      have onward := ih kept state
      rw [wall] at onward
      exact onward
  | clear next ih => exact ih owned state
  | advance span next ih => exact ih owned state

variable {behaviour : Behaviour τ σ}

/-- A task whose deadline has been met may be polled. -/
theorem brings_pollTask {runtime : Runtime τ} (owned : runtime.owned = true)
    (elsewhere : runtime.turn = .elsewhere) {handle : Handle} {task : WallTask τ}
    (found : runtime.wall.tasks.lookup handle = some task)
    (met : task.deadline ≤ runtime.wall.now) (holds : task.body.isSome) (state : σ) :
    runtime.Brings (World.pollTask behaviour handle ⟨runtime.wall, state⟩).timers := by
  obtain ⟨wall, _, fresh, aborted, _, history⟩ := runtime
  obtain rfl := owned
  obtain rfl := elsewhere
  obtain ⟨body, holds⟩ := Option.isSome_iff_exists.mp holds
  cases flag : task.cancelled with
  | true =>
      have polled : wall.poll handle = (none, wall.reap handle) := by
        simp [WallClock.poll, found, flag, WallClock.reap]
      have comes : follow [.wakes handle, .proceeds]
          ⟨wall, true, fresh, aborted, .elsewhere, history⟩ =
            some ⟨wall.reap handle, true, fresh, aborted, .elsewhere, history⟩ := by
        simp [after?, found, if_pos met, polled]
      rw [World.pollTask, polled]
      exact .after _ comes rfl rfl (.refl _)
  | false =>
      have polled : wall.poll handle = (some body, wall.taking handle wall.now) :=
        (WallClock.poll_eq found flag wall.now).trans (by rw [holds])
      let begun : Runtime τ := note (.ticked handle)
        ⟨wall.taking handle wall.now, true, fresh, aborted, .ticking handle, history⟩
      obtain ⟨events, ended, followed, acted, turn, kept⟩ : begun.Brings _ :=
        brings_act (behaviour handle body) rfl state
      -- The tick lies between two polls of the task, by which nothing else comes about.
      refine ⟨[.wakes handle, .proceeds] ++ (events ++
          [.returns (World.performWalled (behaviour handle body) ⟨begun.wall, state⟩).1,
            .suspends]),
        { ended with
          wall := ended.wall.putBack handle
            (World.performWalled (behaviour handle body) ⟨begun.wall, state⟩).1
          turn := .elsewhere }, ?_, ?_, rfl, kept⟩
      · have comes : follow [.wakes handle, .proceeds]
            ⟨wall, true, fresh, aborted, .elsewhere, history⟩ = some begun := by
          simp [after?, found, if_pos met, polled, begun]
        rw [follow_append, comes, Option.bind_some, follow_append, followed, Option.bind_some]
        obtain ⟨_, _, _, _, _, _⟩ := ended
        obtain rfl := turn
        rfl
      · rw [World.pollTask, polled, acted]
        rfl

/-- Letting time go by until an instant is one of the interleavings. -/
theorem brings_sleepUntil (ticks : Nat) {target : Instant} {runtime : Runtime τ} {state : σ}
    {after : World.Walled τ σ} (tracks : runtime.Tracks) (owned : runtime.owned = true)
    (elsewhere : runtime.turn = .elsewhere) (ahead : runtime.wall.now ≤ target)
    (slept : World.sleepUntil behaviour ticks target ⟨runtime.wall, state⟩ = some after) :
    runtime.Brings after.timers := by
  induction ticks generalizing runtime state with
  | zero => exact absurd slept nofun
  | succ ticks ih =>
      rw [World.sleepUntil] at slept
      -- Time goes by up to some instant first.
      have passes (instant : Instant) (forward : runtime.wall.now ≤ instant) :
          runtime.follow [.passes (instant - runtime.wall.now)] =
            some { runtime with wall := runtime.wall.atInstant instant } := by
        simp [after?, Nat.add_sub_cancel' forward]
      cases next : runtime.wall.nextDue? target with
      | none =>
          simp only [next, Option.some.injEq] at slept
          subst slept
          exact .after _ (passes target ahead) rfl rfl (.refl _)
      | some due =>
          obtain ⟨handle, deadline⟩ := due
          simp only [next] at slept
          obtain ⟨task, member, rfl, inTime, holds⟩ := WallClock.exists_of_nextDue? next
          have forward := Nat.le_max_left runtime.wall.now task.deadline
          have passed := passes _ forward
          refine .after _ passed rfl rfl ?_
          have found := lookup_of_mem tracks.registered.named member
          let late := runtime.wall.atInstant (max runtime.wall.now task.deadline)
          have met : task.deadline ≤ late.now := Nat.le_max_right _ _
          let moved : Runtime τ := { runtime with wall := late }
          have ready : moved.owned = true ∧ moved.turn = .elsewhere := ⟨owned, elsewhere⟩
          have polls : moved.Brings (World.pollTask behaviour handle ⟨late, state⟩).timers :=
            brings_pollTask ready.1 ready.2 found met holds state
          apply polls.trans
          intro events next followed reached turn kept
          have early : next.wall.now ≤ target := by
            rw [reached, World.now_pollTask]
            exact Nat.max_le.mpr ⟨ahead, inTime⟩
          have onward : World.sleepUntil behaviour ticks target
              ⟨next.wall, (World.pollTask behaviour handle ⟨late, state⟩).state⟩ = some after := by
            rw [reached]
            exact slept
          exact ih ((tracks.follow _ passed).follow _ followed) (kept.trans owned)
            (turn.trans elsewhere) early onward

/-- Setting the wall clock forward at once is one of the interleavings. -/
theorem brings_jump (ticks : Nat) (span : Span) {runtime : Runtime τ} {state : σ}
    {after : World.Walled τ σ} (tracks : runtime.Tracks) (owned : runtime.owned = true)
    (elsewhere : runtime.turn = .elsewhere)
    (jumped : World.jump behaviour ticks span ⟨runtime.wall, state⟩ = some after) :
    runtime.Brings after.timers := by
  have passed : runtime.follow [.passes span] =
      some { runtime with wall := runtime.wall.atInstant (runtime.wall.now + span) } := rfl
  exact .after _ passed rfl rfl
    (brings_sleepUntil ticks (tracks.follow _ passed) owned elsewhere (Nat.le_refl _) jumped)

end Runtime

end PageWatch
