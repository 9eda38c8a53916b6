import PageWatch.Proofs.Clock.Schedule
import PageWatch.Proofs.Performance.Carrying
import PageWatch.Proofs.Performance.Transcript
import PageWatch.Proofs.Script.Ways

/-!
# The order of callbacks

A callback is called in one of two ways.  If its wait is over as soon as it is registered, the
script itself calls it before the registration ends, and the host has nothing to do with that.
Otherwise a tick makes it ready, and the host calls it later.  The host does so only when
nothing runs, in the order in which the ticks made callbacks ready; and ticks come in the order
of their deadlines, and those of one deadline in the order in which their timers were
scheduled.

So the callbacks that have become ready but have not been called yet are a queue, and the host
works through it.  The invariant says how the queue is read off the transcript.
-/

namespace PageWatch

open Script

/-! ## Ticks that have passed -/

namespace Clock

variable {τ : Type} {clock : Clock τ} {tick : Instant × Handle}

/-- A tick has passed: it was not later than now, and every timer is to tick after it. -/
structure Passed (tick : Instant × Handle) (clock : Clock τ) : Prop where
  le_now : tick.1 ≤ clock.now
  before : ∀ entry ∈ clock.timers, Before tick (entry.2.due, entry.1)

/-- What had passed at a tick has passed after it. -/
theorem Passed.trans {later : Instant × Handle} (before : Before tick later)
    (passed : clock.Passed later) : clock.Passed tick where
  le_now := by
    have notLater := passed.le_now
    unfold Before at before
    lia
  before entry member := before.trans (passed.before entry member)

theorem Passed.putBack (passed : clock.Passed tick) (handle : Handle) (task : τ) :
    (clock.putBack handle task).Passed tick where
  le_now := passed.le_now
  before entry member := by
    obtain ⟨former, formerMem, rfl⟩ := mem_timers_update.mp member
    have kept := passed.before former formerMem
    split <;> exact kept

/-- The tick of a timer has passed once it has begun. -/
theorem Takes.passed_taking {target : Instant} {due : Due τ} {timer : Timer τ}
    (takes : clock.Takes target due timer) (orderly : clock.Orderly) (settled : clock.Settled) :
    (clock.taking due).Passed (due.deadline, due.handle) where
  le_now := Nat.le_refl _
  before entry member := by
    obtain ⟨former, formerMem, rfl⟩ := mem_timers_update.mp member
    by_cases own : former.1 = due.handle
    · have positive := orderly.interval_pos former formerMem
      simp only [own, if_true]
      exact .inl (Nat.lt_add_of_pos_right positive)
    · simp only [own, if_false]
      exact takes.before settled formerMem own

end Clock

namespace World

variable {τ ω : Type} {world : Clocked τ ω} {tick : Instant × Handle}

/-- Work that takes no time brings back no tick that has passed. -/
theorem passed_act {α : Type} (routine : Routine τ ω α) (passed : world.timers.Passed tick) :
    (world.act Clock.service routine).2.timers.Passed tick where
  le_now := by
    rw [now_act]
    exact passed.le_now
  before := forall_timers_act routine (fun _ interval _ => .inl (Nat.lt_of_le_of_lt passed.le_now
    (Nat.lt_add_of_pos_right (Span.clamp_pos interval)))) passed.before

theorem passed_beat {behaviour : Behaviour τ ω} {target : Instant} {due : Clock.Due τ}
    {timer : Timer τ} (takes : world.timers.Takes target due timer)
    (orderly : world.timers.Orderly) (settled : world.timers.Settled) :
    (world.beat behaviour due).timers.Passed (due.deadline, due.handle) := by
  have begun : ({ world with timers := world.timers.taking due } : Clocked τ ω).timers.Passed
      (due.deadline, due.handle) := takes.passed_taking orderly settled
  exact (passed_act _ begun).putBack _ _

end World

namespace Performance

variable {σ : Type}

/-! ## Reading a transcript -/

/-- A tick that made a callback ready. -/
structure Firing where
  deadline : Instant
  handle : Handle
  callback : ObjectId

/-- What firings are sorted by. -/
def Firing.key (firing : Firing) : Instant × Handle := (firing.deadline, firing.handle)

namespace Transcript

/-- Whether something runs after an entry. -/
@[simp] def runningStep (running : Bool) : Instant × Event → Bool
  | (_, .started _) => true
  | (_, .ended _) => false
  | (_, .ticked _ _) | (_, .asked _ _) => running

/-- Whether something that was started has not ended yet. -/
def running (transcript : Transcript) : Bool := transcript.foldl runningStep false

/-- The deadline and the timer of a tick. -/
@[simp] def tick? : Instant × Event → Option (Instant × Handle)
  | (now, .ticked handle _) => some (now, handle)
  | _ => none

def ticks (transcript : Transcript) : List (Instant × Handle) := transcript.filterMap tick?

/-- The firing of a tick that makes a callback ready. -/
@[simp] def firing? : Instant × Event → Option Firing
  | (now, .ticked handle (some callback)) => some ⟨now, handle, callback⟩
  | _ => none

/-- The ticks that made callbacks ready, in order. -/
def firings (transcript : Transcript) : List Firing := transcript.filterMap firing?

/-- The callback that the host calls. -/
@[simp] def call? : Instant × Event → Option ObjectId
  | (_, .started callback) => callback
  | _ => none

/-- The callbacks that the host has called, in order. -/
def calls (transcript : Transcript) : List ObjectId := transcript.filterMap call?

variable {past more : Transcript} {entry : Instant × Event}

@[simp] theorem running_snoc : running (past ++ [entry]) = runningStep past.running entry := by
  simp [running]

theorem filterMap_snoc {α : Type} (view? : Instant × Event → Option α) :
    (past ++ [entry]).filterMap view? = past.filterMap view? ++ (view? entry).toList := by
  cases viewed : view? entry <;> simp [viewed]

@[simp] theorem ticks_snoc : ticks (past ++ [entry]) = past.ticks ++ (tick? entry).toList :=
  filterMap_snoc tick?

@[simp] theorem firings_snoc :
    firings (past ++ [entry]) = past.firings ++ (firing? entry).toList :=
  filterMap_snoc firing?

@[simp] theorem calls_snoc : calls (past ++ [entry]) = past.calls ++ (call? entry).toList :=
  filterMap_snoc call?

/-- Firings are ticks. -/
theorem firings_sublist (transcript : Transcript) :
    (transcript.firings.map Firing.key).Sublist transcript.ticks := by
  induction transcript with
  | nil => exact .slnil
  | cons entry rest ih =>
      obtain ⟨now, event⟩ := entry
      cases event with
      | ticked handle readied =>
          cases readied with
          | none => exact ih.cons _
          | some callback => exact ih.cons_cons _
      | started | asked | ended => exact ih

/-- What runs goes on as long as nothing ends. -/
theorem running_stays (runs : past.running = true)
    (goesOn : ∀ time failure, (time, .ended failure) ∉ more) : running (past ++ more) = true := by
  induction more generalizing past with
  | nil =>
      rw [List.append_nil]
      exact runs
  | cons entry more ih =>
      have here := goesOn
      rw [← List.singleton_append, ← List.append_assoc]
      refine ih ?_ fun time failure member => goesOn time failure (.tail _ member)
      rw [running_snoc]
      obtain ⟨now, event⟩ := entry
      cases event with
      | ticked | asked => exact runs
      | started => rfl
      | ended failure => exact absurd (.head _) (goesOn now failure)

/-! ## The order of a transcript -/

/-- What may come next in a transcript: while something runs, it asks or ends; otherwise timers
tick, or the first of the callbacks that are ready is called, at the deadline of its tick. -/
def Permits (past : Transcript) : Instant × Event → Prop
  | (_, .ticked _ _) => past.running = false
  | (now, .started started) => past.running = false ∧ ∀ callback, started = some callback →
      ∃ handle, past.firings[past.calls.length]? = some ⟨now, handle, callback⟩
  | (_, .asked _ _) | (_, .ended _) => past.running = true

/-- Every entry is permitted by those before it, and nothing comes after a failure. -/
def Lawful (transcript : Transcript) : Prop :=
  ∀ (past : Transcript) entry future, transcript = past ++ entry :: future →
    past.Permits entry ∧ ∀ time text, (time, .ended (some text)) ∉ past

theorem lawful_nil : Lawful [] := by
  intro past entry future split
  simp at split

theorem Lawful.snoc (lawful : past.Lawful) (permits : past.Permits entry)
    (unfailed : ∀ time text, (time, .ended (some text)) ∉ past) : Lawful (past ++ [entry]) := by
  intro before other future split
  rcases snoc_cases split with ⟨rfl, rfl, -⟩ | ⟨rest, -, earlier⟩
  · exact ⟨permits, unfailed⟩
  · exact lawful before other rest earlier

end Transcript

/-! ## The transcript tells the moment -/

/-- Whether something runs. -/
@[simp] def Mode.speaks : Mode σ → Bool
  | .speaking _ => true
  | .fresh | .idle _ _ => false

/-- The failure after which nothing runs any more. -/
@[simp] def Mode.failure? : Mode σ → Option String
  | .fresh | .speaking _ => none
  | .idle failure _ => failure

/-- A transcript leads to a moment.  The firings whose callbacks the host has not called are
the queue of the moment; they are as late as the clock. -/
structure Traces (past : Transcript) (moment : Moment σ) : Prop where
  tidy : Tidy moment.scene.timers
  lawful : past.Lawful
  running_eq : past.running = moment.mode.speaks
  failed : ∀ text,
    (∃ time, (time, .ended (some text)) ∈ past) ↔ moment.mode.failure? = some text
  sorted : past.ticks.Pairwise Before
  passed : ∀ tick ∈ past.ticks, moment.scene.timers.Passed tick
  queue : ∃ served waiting, past.firings = served ++ waiting ∧
    served.map Firing.callback = past.calls ∧
    waiting.map Firing.callback = moment.calling ++ moment.scene.state.ready ∧
    ∀ firing ∈ waiting, firing.deadline = moment.scene.timers.now

variable {performer : Performer σ} {interval : Span} {past : Transcript} {first second : Moment σ}
  {entry : Option (Instant × Event)}

theorem traces_start (page : Page) : Traces [] (.start page : Moment σ) where
  tidy := resting_start.toTidy
  lawful := Transcript.lawful_nil
  running_eq := rfl
  failed text := by simp [Moment.start]
  sorted := .nil
  passed _ member := absurd member List.not_mem_nil
  queue := ⟨[], [], rfl, rfl, rfl, fun _ member => absurd member List.not_mem_nil⟩

theorem Traces.unfailed (traces : Traces past first) (goesOn : first.mode.failure? = none) :
    ∀ time text, (time, .ended (some text)) ∉ past := by
  intro time text member
  have failed := (traces.failed text).mp ⟨time, member⟩
  rw [goesOn] at failed
  exact Option.some_ne_none text failed.symm

/-- Before time goes on, the callbacks of all firings have been called. -/
theorem punctual_at {waiting : List Firing} {ready : List ObjectId} {now target : Instant}
    (queue_eq : waiting.map Firing.callback = ready)
    (punctual : ∀ firing ∈ waiting, firing.deadline = now) (alone : ready = [] ∨ target = now) :
    ∀ firing ∈ waiting, firing.deadline = target := by
  rcases alone with rfl | rfl
  · rw [List.map_eq_nil_iff.mp queue_eq]
    exact fun _ member => absurd member List.not_mem_nil
  · exact punctual

theorem readied?_eq {before after : Scene} {readied : Option ObjectId}
    (ready_eq : after.state.ready = before.state.ready ++ readied.toList) :
    before.readied? after = readied := by
  cases readied <;> simp [Scene.readied?, ready_eq]

/-! ### One step after another -/

section Steps

variable {scene : Scene} {script : σ} {calling : List ObjectId} {dialogue : Dialogue σ}

theorem Traces.begin (traces : Traces past (⟨.fresh, scene, []⟩ : Moment σ)) :
    Traces (past ++ [(scene.timers.now, .started none)]) ⟨.speaking dialogue, scene, []⟩ := by
  have unfailed := traces.unfailed rfl
  obtain ⟨tidy, lawful, running_eq, failed, sorted, passed, queue⟩ := traces
  refine ⟨tidy, lawful.snoc ⟨running_eq, by simp⟩ unfailed, ?_, ?_, ?_, ?_, ?_⟩
  · simp
  · simpa using failed
  · simpa using sorted
  · simpa using passed
  · simpa using queue

theorem Traces.answer {request : Request} {next : Reply → Dialogue σ} (whole : interval.Whole)
    (traces : Traces past ⟨.speaking (.asks request next), scene, calling⟩) :
    let answered := scene.act (Work.answer interval request)
    Traces (past ++ [(scene.timers.now, .asked request answered.1)])
      ⟨.speaking (next answered.1), answered.2, calling⟩ := by
  have unfailed := traces.unfailed rfl
  obtain ⟨tidy, lawful, running_eq, failed, sorted, passed, queue⟩ := traces
  have effect := effect_answer whole request scene
  refine ⟨tidy.answer whole request, lawful.snoc running_eq unfailed, ?_, ?_, ?_, ?_, ?_⟩
  · simpa using running_eq
  · simpa using failed
  · simpa using sorted
  · intro tick member
    have earlier : tick ∈ past.ticks := by simpa using member
    exact World.passed_act _ (passed tick earlier)
  · simpa [effect.ready_eq, now_answer] using queue

theorem Traces.finish {failure : Option String}
    (traces : Traces past ⟨.speaking (.finished failure script), scene, calling⟩) :
    Traces (past ++ [(scene.timers.now, .ended failure)])
      ⟨.idle failure script, scene, calling⟩ := by
  have unfailed := traces.unfailed rfl
  obtain ⟨tidy, lawful, running_eq, failed, sorted, passed, queue⟩ := traces
  refine ⟨tidy, lawful.snoc running_eq unfailed, ?_, ?_, ?_, ?_, ?_⟩
  · simp
  · intro text
    have before : ∀ time, (time, .ended (some text)) ∉ past := fun time => unfailed time text
    simp [before, eq_comm]
  · simpa using sorted
  · simpa using passed
  · simpa using queue

/-- The callback that is called belongs to the first firing that has not been served. -/
theorem Traces.call {callback : ObjectId}
    (traces : Traces past ⟨.idle none script, scene, callback :: calling⟩) :
    Traces (past ++ [(scene.timers.now, .started (some callback))])
      ⟨.speaking dialogue, scene, calling⟩ := by
  have unfailed := traces.unfailed rfl
  obtain ⟨tidy, lawful, running_eq, failed, sorted, passed, served, waiting, firings_eq,
    calls_eq, queue_eq, punctual⟩ := traces
  cases waiting with
  | nil => simp at queue_eq
  | cons firing waiting =>
      obtain ⟨callback_eq, rest_eq⟩ := List.cons.inj queue_eq
      obtain ⟨now_eq, later⟩ := List.forall_mem_cons.mp punctual
      have served_next : past.firings[past.calls.length]? = some firing := by
        rw [firings_eq, ← calls_eq, List.length_map]
        simp
      have permits : past.Permits (scene.timers.now, .started (some callback)) := by
        refine ⟨running_eq, fun called same => ⟨firing.handle, served_next.trans ?_⟩⟩
        rw [← Option.some.inj same, ← callback_eq, ← now_eq]
      refine ⟨tidy, lawful.snoc permits unfailed, ?_, ?_, ?_, ?_,
        served ++ [firing], waiting, ?_, ?_, rest_eq, later⟩
      · simp
      · simpa using failed
      · simpa using sorted
      · simpa using passed
      · simpa using firings_eq
      · simp [calls_eq, callback_eq]

/-- A tick comes after all that have passed.  If it makes a callback ready, its firing is the
last of the queue. -/
theorem Traces.tick {due : Clock.Due Task}
    (next : scene.timers.nextDue? due.deadline = some due)
    (alone : scene.state.ready = [] ∨ due.deadline = scene.timers.now)
    (traces : Traces past ⟨.idle none script, scene, []⟩) :
    let ticked := scene.beat Work.tick due
    Traces (past ++ [(due.deadline, .ticked due.handle (scene.readied? ticked))])
      ⟨.idle none script, ticked, []⟩ := by
  have unfailed := traces.unfailed rfl
  obtain ⟨tidy, lawful, running_eq, failed, sorted, passed, served, waiting, firings_eq,
    calls_eq, queue_eq, punctual⟩ := traces
  obtain ⟨timer, takes⟩ := Clock.takes_of_nextDue? tidy.orderly next
  obtain ⟨-, -, -, readied, ready_eq⟩ := effect_beat takes tidy.whole
  have ticked : (scene.beat Work.tick due).timers.Passed (due.deadline, due.handle) :=
    World.passed_beat takes tidy.orderly tidy.settled
  have before : ∀ tick ∈ past.ticks, Before tick (due.deadline, due.handle) :=
    fun tick member => takes.due_eq ▸ (passed tick member).before _ takes.member
  have onTime := punctual_at queue_eq punctual alone
  dsimp only
  rw [readied?_eq ready_eq]
  refine ⟨tidy.beat next, lawful.snoc running_eq unfailed, ?_, ?_, ?_, ?_,
    served, waiting ++ (Transcript.firing? (due.deadline, .ticked due.handle readied)).toList,
    ?_, ?_, ?_, ?_⟩
  · simpa using running_eq
  · simpa using failed
  · simpa [List.pairwise_append] using ⟨sorted, fun instant handle => before (instant, handle)⟩
  · intro tick member
    have cases : tick ∈ past.ticks ∨ tick = (due.deadline, due.handle) := by
      simpa using member
    rcases cases with earlier | rfl
    · exact ticked.trans (before tick earlier)
    · exact ticked
  · simp [firings_eq]
  · simpa using calls_eq
  · rw [ready_eq]
    cases readied <;> simpa using queue_eq
  · rw [World.now_beat]
    intro firing member
    rcases List.mem_append.mp member with earlier | fired
    · exact onTime firing earlier
    · cases readied with
      | none => simp at fired
      | some callback =>
          obtain rfl : firing = ⟨due.deadline, due.handle, callback⟩ := by simpa using fired
          rfl

theorem Traces.arrive {target : Instant} (done : scene.timers.nextDue? target = none)
    (there : Span.Whole target) (early : scene.timers.now ≤ target)
    (alone : scene.state.ready = [] ∨ target = scene.timers.now)
    (traces : Traces past ⟨.idle none script, scene, []⟩) :
    Traces past ⟨.idle none script, scene.arrive target, []⟩ := by
  obtain ⟨tidy, lawful, running_eq, failed, sorted, passed, served, waiting, firings_eq,
    calls_eq, queue_eq, punctual⟩ := traces
  refine ⟨(tidy.arrive there done).toTidy, lawful, running_eq, failed, sorted,
    fun tick member => ?_, served, waiting, firings_eq, calls_eq, queue_eq, ?_⟩
  · exact ⟨Nat.le_trans (passed tick member).le_now early, (passed tick member).before⟩
  · exact punctual_at queue_eq punctual alone

end Steps

/-- Each step of a performance leads from what the transcript tells to what it tells then. -/
theorem Traces.step (traces : Traces past first)
    (step : Step performer interval first entry second) (whole : interval.Whole) :
    Traces (past ++ entry.toList) second := by
  cases step with
  | begin scene => exact traces.begin
  | answer request next scene calling => exact traces.answer whole
  | finish failure script scene calling => exact traces.finish
  | call script scene callback calling => exact traces.call
  | take failure script timers state =>
      -- The callbacks that are ready become those that are called next.
      obtain ⟨tidy, lawful, running_eq, failed, sorted, passed, queue⟩ := traces
      rw [Option.toList_none, List.append_nil]
      exact ⟨tidy, lawful, running_eq, failed, sorted, passed, by simpa using queue⟩
  | tick script scene due next alone => exact traces.tick next alone
  | arrive script scene target done there early alone =>
      rw [Option.toList_none, List.append_nil]
      exact traces.arrive done there early alone

/-- The transcript of a performance leads to its end. -/
theorem traces_perform (performer : Performer σ) (page : Page) (settings : Settings) :
    ∃ left, Traces (transcript performer page settings)
        ((perform performer page settings).moment left) ∧
      ((perform performer page settings).failure = none → left = []) := by
  have whole := Span.whole_ofMs settings.checkIntervalMs
  obtain ⟨left, steps, empty⟩ := steps_perform performer page settings
  have kept := steps.keeps Traces (fun _ _ _ _ traces step => traces.step step whole)
    (traces_start page)
  exact ⟨left, kept, empty⟩

/-! ## Callbacks in order -/

/-- A transcript in which callbacks come in order. -/
structure Transcript.InOrder (transcript : Transcript) : Prop where
  /-- While something runs, and so while a registration is going on, the host calls nothing:
  between an answer and a call, what was running has ended. -/
  alone : ∀ (past : Transcript) now request reply (between : Transcript) later callback future,
    transcript =
      past ++ (now, .asked request reply) :: (between ++ (later, .started callback) :: future) →
    ∃ time failure, (time, .ended failure) ∈ between
  /-- The host calls a callback only when everything that was started has ended. -/
  idle : ∀ (past : Transcript) now callback future,
    transcript = past ++ (now, .started callback) :: future → past.running = false
  /-- The host calls callbacks in the order in which ticks made them ready, each at the
  deadline of that tick. -/
  served : ∀ (past : Transcript) now callback future,
    transcript = past ++ (now, .started (some callback)) :: future →
    ∃ handle, past.firings[past.calls.length]? = some ⟨now, handle, callback⟩
  /-- The ticks that make callbacks ready come in the order of their deadlines, and those of
  one deadline in the order in which their timers were scheduled. -/
  sorted : transcript.firings.Pairwise fun first second => Before first.key second.key
  /-- Nothing happens after a failure. -/
  stopped : ∀ past now text future,
    transcript = past ++ (now, .ended (some text)) :: future → future = []

theorem Transcript.Lawful.idle {transcript past future : Transcript} {now : Instant}
    {callback : Option ObjectId} (lawful : transcript.Lawful)
    (split : transcript = past ++ (now, .started callback) :: future) : past.running = false :=
  (lawful past _ future split).1.1

theorem Traces.inOrder {moment : Moment σ} (traces : Traces past moment) : past.InOrder where
  alone := by
    intro before now request reply between later callback future split
    have asks : before.running = true := (traces.lawful before _ _ split).1
    rw [List.append_cons, ← List.append_assoc] at split
    have idle : Transcript.running (before ++ [(now, Event.asked request reply)] ++ between) =
        false :=
      traces.lawful.idle split
    refine Classical.byContradiction fun goesOn => ?_
    have runs : Transcript.running (before ++ [(now, Event.asked request reply)]) = true := by
      simpa using asks
    have still := Transcript.running_stays runs fun time failure member =>
      goesOn ⟨time, failure, member⟩
    rw [idle] at still
    exact Bool.false_ne_true still
  idle _ _ _ _ split := traces.lawful.idle split
  served := by
    intro before now callback future split
    exact (traces.lawful before _ future split).1.2 callback rfl
  sorted := List.pairwise_map.mp (traces.sorted.sublist past.firings_sublist)
  stopped := by
    intro before now text future split
    cases future with
    | nil => rfl
    | cons entry future =>
        rw [List.append_cons] at split
        exact absurd (List.mem_append_right before (.head _))
          ((traces.lawful _ _ _ split).2 now text)

/-- Callbacks come in order, in the transcript of the steps that a performance takes.  A callback
that is due when its wait is registered is called by the registering function before that ends.
All others are called by the host, in the order of the ticks that made them ready, and only when
nothing runs; if nothing fails, it calls all of them.  A failure is the last thing that happens,
and the output is what was printed up to then. -/
theorem callbacks_in_order (performer : Performer σ) (page : Page) (settings : Settings) :
    let events := transcript performer page settings
    let report := (perform performer page settings).outcome.report
    (∃ left, Steps performer (Span.ofMs settings.checkIntervalMs) (.start page) events
      ((perform performer page settings).moment left)) ∧
      events.InOrder ∧
      (report.success = true → events.calls = events.firings.map Firing.callback) ∧
      (∀ text, report.error = some text ↔
        ∃ past now, events = past ++ [(now, .ended (some text))]) ∧
      report.output = "\n".intercalate events.lines ∧
      (∀ interval conditions callback scene, ∃ progress after,
        Scene.act (Work.answer interval (.wait conditions callback)) scene =
          (replyTo progress, after) ∧
        Carried scene callback progress after) ∧
      ∀ name length arguments, (name, length, arguments) ∈ Library.registrations →
        ∃ function, (name, length, function) ∈ Library.waitingFunctions ∧
          Library.Registers arguments function := by
  intro events report
  obtain ⟨last, steps, -⟩ := steps_perform performer page settings
  obtain ⟨left, traces, empty⟩ := traces_perform performer page settings
  have inOrder : events.InOrder := traces.inOrder
  refine ⟨⟨last, steps⟩, inOrder, fun succeeds => ?_, fun text => ⟨fun fails => ?_, ?_⟩, ?_,
    answer_wait, fun name length arguments registers => ?_⟩
  · have succeeded : (perform performer page settings).failure = none :=
      Option.isNone_iff_eq_none.mp succeeds
    obtain ⟨served, waiting, firings_eq, calls_eq, queue_eq, -⟩ := traces.queue
    have none_waiting : waiting.map Firing.callback = [] := by
      rw [queue_eq, empty succeeded]
      exact (atRest_perform performer page settings).ready_eq
    rw [firings_eq, List.map_append, none_waiting, List.append_nil]
    exact calls_eq.symm
  · obtain ⟨now, member⟩ := (traces.failed text).mpr fails
    obtain ⟨past, future, split⟩ := List.append_of_mem member
    rw [inOrder.stopped past now text future split] at split
    exact ⟨past, now, split⟩
  · rintro ⟨past, now, events_eq⟩
    refine (traces.failed text).mp ⟨now, ?_⟩
    rw [show transcript performer page settings = _ from events_eq]
    exact List.mem_append_right past (.head _)
  · rw [← lines_transcript]
    rfl
  · exact ⟨Library.registering arguments, Library.mem_waitingFunctions registers,
      Library.registers_registering arguments⟩

end Performance

end PageWatch
