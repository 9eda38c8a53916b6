import PageWatch.Clock.Limit
import PageWatch.Proofs.Performance.Budget
import PageWatch.Proofs.Performance.Turns
import PageWatch.Script.Library.Host

/-!
# The horizon of a performance

Times are kept as seconds in 64 bits, with nanoseconds beside them, and a sum that does not fit
would end the program.  New times are sums: a timer that is scheduled is due an interval from
now, a timer that ticks is due again an interval after its deadline, and the clock moves by a
span from where it is.

No interval is longer than what 64 bits of milliseconds hold, and a timer is never due later
than one interval from now.  The time itself stays within the budget, although timers may be due
far beyond it.  So no sum goes beyond the budget and one longest interval, which fits.
-/

namespace PageWatch

open Script

variable {τ σ χ κ α β : Type}

namespace Span

/-- The longest span that is ever asked for, as milliseconds are counted in 64 bits. -/
def longest : Span := ofMs (UInt64.size - 1)

theorem ofMs_le_longest {ms : Nat} (small : ms < UInt64.size) : ofMs ms ≤ longest :=
  Nat.mul_le_mul_right _ (Nat.le_sub_one_of_lt small)

theorem clamp_le_longest {span : Span} (short : span ≤ longest) : span.clamp ≤ longest :=
  Nat.max_le.mpr ⟨short, ofMs_le_longest (by decide)⟩

/-- Two of the longest spans can be added. -/
theorem add_longest_lt_limit {span : Span} (short : span ≤ longest) : span + longest < limit := by
  have twice : longest + longest < limit := by decide
  exact Nat.lt_of_le_of_lt (Nat.add_le_add_right short longest) twice

end Span

namespace Routine

/-- The sums of times that a routine computes on a clock. -/
def sums : Routine τ σ α → World.Clocked τ σ → List Instant
  | done _, _ => []
  | look next, world => (next world.timers.now world.state).sums world
  | put state next, world => next.sums { world with state }
  | schedule interval task next, world =>
    let (handle, timers) := world.timers.schedule interval task
    (world.timers.now + interval.clamp) :: (next handle).sums { world with timers }
  | cancel handle next, world =>
    next.sums { world with timers := world.timers.cancel handle }
  | clear next, world => next.sums { world with timers := world.timers.clear }
  | advance span next, world => (world.timers.now + span) :: next.sums world

/-- A routine that never moves the clock, schedules timers with short intervals and tasks of
some kind only, and ends with a result of some kind. -/
def Brief (kind : τ → Prop) (ends : α → Prop) : Routine τ σ α → Prop
  | done result => ends result
  | look next => ∀ now state, (next now state).Brief kind ends
  | put _ next => next.Brief kind ends
  | schedule interval task next =>
    interval ≤ Span.longest ∧ (∀ handle, kind (task handle)) ∧
      ∀ handle, (next handle).Brief kind ends
  | cancel _ next | clear next => next.Brief kind ends
  | advance _ _ => False

end Routine

/-- Every timer is due within its interval from now, its interval is not too long, and its task
is of some kind. -/
def Clock.Near (kind : τ → Prop) (clock : Clock τ) : Prop :=
  ∀ entry ∈ clock.timers, entry.2.interval ≤ Span.longest ∧
    entry.2.due ≤ clock.now + entry.2.interval ∧ ∀ task, entry.2.task = some task → kind task

namespace Clock.Near

variable {kind : τ → Prop} {clock : Clock τ}

theorem due_le (near : clock.Near kind) {entry : Handle × Timer τ}
    (member : entry ∈ clock.timers) : entry.2.due ≤ clock.now + Span.longest := by
  obtain ⟨short, soon, -⟩ := near entry member
  exact Nat.le_trans soon (Nat.add_le_add_left short _)

theorem schedule (near : clock.Near kind) {interval : Span} (short : interval ≤ Span.longest)
    {task : Handle → τ} (fitting : ∀ handle, kind (task handle)) :
    (clock.schedule interval task).2.Near kind := by
  intro entry member
  rcases List.mem_append.mp member with member | member
  · exact near entry member
  · rw [List.mem_singleton.mp member]
    exact ⟨Span.clamp_le_longest short, Nat.le_refl _, fun _ eq => Option.some.inj eq ▸ fitting _⟩

theorem cancel (near : clock.Near kind) (handle : Handle) : (clock.cancel handle).Near kind :=
  fun entry member => near entry (mem_timers_cancel.mp member).1

theorem arrive (near : clock.Near kind) {instant : Instant} (later : clock.now ≤ instant) :
    ({ clock with now := instant } : Clock τ).Near kind := by
  intro entry member
  obtain ⟨short, soon, fitting⟩ := near entry member
  exact ⟨short, Nat.le_trans soon (Nat.add_le_add_right later _), fitting⟩

theorem update (near : clock.Near kind) (handle : Handle) {change : Timer τ → Timer τ}
    (interval_eq : ∀ timer, (change timer).interval = timer.interval)
    (soon : ∀ timer, timer.due ≤ clock.now + timer.interval →
      (change timer).due ≤ clock.now + timer.interval)
    (fitting : ∀ timer task, (change timer).task = some task → kind task) :
    (clock.update handle change).Near kind := by
  intro entry member
  obtain ⟨former, formerMem, rfl⟩ := mem_timers_update.mp member
  obtain ⟨short, due_le, formerFitting⟩ := near former formerMem
  split
  · rw [interval_eq]
    exact ⟨short, soon _ due_le, fitting _⟩
  · exact ⟨short, due_le, formerFitting⟩

/-- A timer that ticks is due again within its interval. -/
theorem taking (near : clock.Near kind) {due : Due τ} (later : clock.now ≤ due.deadline) :
    (clock.taking due).Near kind :=
  (near.arrive later).update due.handle (fun _ => rfl) (fun _ _ => Nat.le_refl _)
    fun _ _ eq => absurd eq.symm (Option.some_ne_none _)

theorem putBack (near : clock.Near kind) (handle : Handle) {task : τ} (fitting : kind task) :
    (clock.putBack handle task).Near kind :=
  near.update handle (fun _ => rfl) (fun _ soon => soon)
    fun _ _ eq => Option.some.inj eq ▸ fitting

end Clock.Near

namespace Routine.Brief

variable {kind : τ → Prop} {ends : α → Prop}

theorem bind {routine : Routine τ σ α} {rest : α → Routine τ σ β} {last : β → Prop}
    (brief : routine.Brief kind ends)
    (rests : ∀ result, ends result → (rest result).Brief kind last) :
    (routine.bind rest).Brief kind last := by
  induction routine with
  | done result => exact rests result brief
  | look next ih => exact fun now state => ih now state (brief now state)
  | put state next ih => exact ih brief
  | schedule interval task next ih =>
      exact ⟨brief.1, brief.2.1, fun handle => ih handle (brief.2.2 handle)⟩
  | cancel handle next ih => exact ih brief
  | clear next ih => exact ih brief
  | advance span next => exact brief.elim

theorem cancelSlot (slot : Option Handle) :
    (Routine.cancelSlot slot : Routine τ σ Unit).Brief kind fun _ => True := by
  cases slot <;> trivial

/-- Sums go no further than the longest interval from now. -/
theorem sums_le {routine : Routine τ σ α} (brief : routine.Brief kind ends)
    (world : World.Clocked τ σ) {sum : Instant} (member : sum ∈ routine.sums world) :
    sum ≤ world.timers.now + Span.longest := by
  induction routine generalizing world with
  | done result => exact absurd member List.not_mem_nil
  | look next ih => exact ih _ _ (brief _ _) world member
  | put state next ih => exact ih brief { world with state } member
  | schedule interval task next ih =>
      rcases List.mem_cons.mp member with rfl | member
      · exact Nat.add_le_add_left (Span.clamp_le_longest brief.1) _
      · exact ih _ (brief.2.2 _)
          { world with timers := (world.timers.schedule interval task).2 } member
  | cancel handle next ih =>
      exact ih brief { world with timers := world.timers.cancel handle } member
  | clear next ih => exact ih brief { world with timers := world.timers.clear } member
  | advance span next => exact brief.elim

theorem near_act {routine : Routine τ σ α} (brief : routine.Brief kind ends)
    (world : World.Clocked τ σ) (near : world.timers.Near kind) :
    ends (world.act Clock.service routine).1 ∧
      (world.act Clock.service routine).2.timers.Near kind := by
  induction routine generalizing world with
  | done result => exact ⟨brief, near⟩
  | look next ih => exact ih _ _ (brief _ _) world near
  | put state next ih => exact ih brief { world with state } near
  | schedule interval task next ih =>
      exact ih _ (brief.2.2 _)
        { world with timers := (world.timers.schedule interval task).2 }
        (near.schedule brief.1 brief.2.1)
  | cancel handle next ih =>
      exact ih brief { world with timers := world.timers.cancel handle } (near.cancel handle)
  | clear next ih =>
      exact ih brief { world with timers := world.timers.clear }
        fun entry member => absurd member List.not_mem_nil
  | advance span next => exact brief.elim

end Routine.Brief

/-- Every wait of a row polls at a short interval. -/
def Sequel.Brief : Sequel χ κ → Prop
  | .callback _ => True
  | .wait _ interval sequel => interval ≤ Span.longest ∧ sequel.Brief

theorem Sequel.brief_row {interval : Span} (short : interval ≤ Span.longest) {last : Sequel χ κ}
    (lastBrief : last.Brief) (conditions : List χ) : (row interval last conditions).Brief := by
  induction conditions with
  | nil => exact lastBrief
  | cons condition conditions ih => exact ⟨short, ih⟩

namespace Performance

/-! ## Ticks and answers -/

/-- Whatever a task waits for next, it waits for at short intervals. -/
def Task.Brief : Task → Prop
  | .wait polled => ∀ sequel, polled.callback = some sequel → sequel.Brief
  | .timeout _ _ => True

/-- Work that schedules timers with short intervals only. -/
abbrev BriefWork (ends : α → Prop) (work : Work α) : Prop := Routine.Brief Task.Brief ends work

theorem brief_check (condition : PageCondition) :
    BriefWork (fun _ => True) (Work.host.check condition) :=
  fun _ _ => trivial

theorem brief_report (notice : Notice) : BriefWork (fun _ => True) (Work.report notice) :=
  fun _ _ => trivial

theorem brief_start {interval : Span} (short : interval ≤ Span.longest)
    {sequel : Sequel PageCondition ObjectId} (sequelBrief : sequel.Brief)
    {fire : Work (Wait.Progress ObjectId)} (fires : BriefWork (fun _ => True) fire)
    (condition : PageCondition) :
    BriefWork (fun _ => True) (Wait.start Work.host interval sequel fire condition) := by
  refine (brief_check condition).bind fun checked _ => ?_
  obtain ⟨answer, condition⟩ := checked
  rcases answer with error | _ | _
  · exact (brief_report _).bind fun _ _ => trivial
  · have follower (handle : Handle) :
        Task.Brief (.wait ⟨condition, some sequel, some handle⟩) :=
      fun _ eq => Option.some.inj eq ▸ sequelBrief
    exact (brief_report _).bind fun _ _ => ⟨short, follower, fun _ => trivial⟩
  · exact fires

theorem brief_run {sequel : Sequel PageCondition ObjectId} (brief : sequel.Brief) :
    BriefWork (fun _ => True) (sequel.run Work.host) := by
  induction sequel with
  | callback value => trivial
  | wait condition interval sequel ih => exact brief_start brief.1 brief.2 (ih brief.2) condition

theorem brief_poll {polled : Wait PageCondition (Sequel PageCondition ObjectId)}
    (brief : Task.Brief (.wait polled)) :
    BriefWork (fun ended => Task.Brief (.wait ended.1))
      (polled.tick Work.host (Sequel.run Work.host)) := by
  obtain ⟨condition, callback, slot⟩ := polled
  have gone (condition : PageCondition) : Task.Brief (.wait ⟨condition, none, none⟩) :=
    fun _ eq => by simp at eq
  cases callback with
  | none => exact brief
  | some callback =>
      refine (brief_check condition).bind fun checked _ => ?_
      obtain ⟨answer, condition⟩ := checked
      rcases answer with error | _ | _
      · exact (Routine.Brief.cancelSlot slot).bind fun _ _ =>
          (brief_report _).bind fun _ _ => gone condition
      · exact brief
      · exact (Routine.Brief.cancelSlot slot).bind fun _ _ => (brief_report _).bind fun _ _ =>
          (brief_run (brief callback rfl)).bind fun _ _ => gone condition

theorem brief_tick (handle : Handle) {task : Task} (brief : task.Brief) :
    BriefWork Task.Brief (Work.tick handle task) := by
  cases task with
  | wait polled =>
      refine (brief_poll brief).bind fun ended endedBrief => ?_
      obtain ⟨next, progress⟩ := ended
      cases progress with
      | met callback => exact fun _ _ => endedBrief
      | waiting | dropped => exact endedBrief
  | timeout slot callback =>
      refine (Routine.Brief.cancelSlot slot).bind fun _ _ => ?_
      cases callback with
      | some callback => exact fun _ _ => trivial
      | none => trivial

end Performance

/-- A request for a timeout counts its milliseconds in 64 bits. -/
def Script.Request.Timely : Request → Prop
  | .timeout delayMs _ => delayMs < UInt64.size
  | _ => True

/-- All requests that may be made in a dialogue are timely. -/
def Script.Dialogue.Timely : Dialogue σ → Prop
  | .finished _ _ => True
  | .asks request next => request.Timely ∧ ∀ reply, (next reply).Timely

/-- All requests of a performer are timely. -/
structure Script.Performer.Timely (performer : Performer σ) : Prop where
  start : performer.start.Timely
  call : ∀ script callback, (performer.call script callback).Timely

/-- Every number is converted to a timely delay. -/
theorem Script.Library.timely_delayOf (number : Float) (callback : ObjectId) :
    (Request.timeout (delayOf number) callback).Timely := by
  rw [Request.Timely, delayOf]
  split
  · exact number.toUInt64.toNat_lt_size
  · decide

namespace Performance

theorem brief_answer {interval : Span} (short : interval ≤ Span.longest) {request : Request}
    (timely : request.Timely) : BriefWork (fun _ => True) (Work.answer interval request) := by
  cases request with
  | wait conditions callback =>
      simp only [Work.answer, Waiter.awaitAll_eq]
      have row : (Sequel.row interval (.callback callback) conditions).Brief :=
        Sequel.brief_row short (by trivial) conditions
      refine (brief_run row).bind fun progress _ => ?_
      cases progress <;> trivial
  | timeout delayMs callback =>
      exact ⟨Span.ofMs_le_longest timely, fun _ => trivial, fun _ => trivial⟩
  | print line => exact fun _ _ _ _ => trivial
  | load source => exact fun _ _ => trivial
  | setValue selector text =>
      have set : BriefWork (fun _ => True) (Routine.update (setting selector text) : Work _) :=
        fun _ _ => trivial
      rw [Work.answer, setValue_eq]
      refine set.bind fun answer _ => ?_
      cases answer with
      | ok controls => exact (brief_report _).bind fun _ _ => trivial
      | error error => trivial

/-! ## Steps -/

/-- The sums of times that a step computes.  An answer schedules timers.  For a timer that ticks,
the clock sets out for the next deadline, the timer gets its following one, and the tick itself
may schedule timers. -/
inductive Computes (interval : Span) : Moment σ → Moment σ → Instant → Prop
  | answer {request : Request} {next : Reply → Dialogue σ} {scene : Scene}
      {calling : List ObjectId} {sum : Instant} :
      sum ∈ (Work.answer interval request).sums scene →
      Computes interval ⟨.speaking (.asks request next), scene, calling⟩
        ⟨.speaking (next (scene.act (Work.answer interval request)).1),
          (scene.act (Work.answer interval request)).2, calling⟩ sum
  | depart {script : σ} {scene : Scene} {due : Clock.Due Task} {deadline : Instant} :
      scene.timers.nextDue? due.deadline = some due →
      scene.timers.nextDeadline? = some deadline →
      Computes interval ⟨.idle none script, scene, []⟩
        ⟨.idle none script, scene.beat Work.tick due, []⟩
        (scene.timers.now + (deadline - scene.timers.now))
  | rearm {script : σ} {scene : Scene} {due : Clock.Due Task} {timer : Timer Task} :
      scene.timers.nextDue? due.deadline = some due →
      (due.handle, timer) ∈ scene.timers.timers →
      Computes interval ⟨.idle none script, scene, []⟩
        ⟨.idle none script, scene.beat Work.tick due, []⟩ (due.deadline + timer.interval)
  | tick {script : σ} {scene : Scene} {due : Clock.Due Task} {sum : Instant} :
      scene.timers.nextDue? due.deadline = some due →
      sum ∈ (Work.tick due.handle due.task).sums
        { scene with timers := scene.timers.taking due } →
      Computes interval ⟨.idle none script, scene, []⟩
        ⟨.idle none script, scene.beat Work.tick due, []⟩ sum

/-- All timers of a moment are due within the longest interval, and what is being said is
timely. -/
structure Moment.Near (moment : Moment σ) : Prop where
  tidy : Tidy moment.scene.timers
  near : moment.scene.timers.Near Task.Brief
  timely : ∀ dialogue, moment.mode = .speaking dialogue → dialogue.Timely

variable {performer : Performer σ} {interval : Span} {first second last : Moment σ}
  {entry : Option (Instant × Event)} {page : Page}

theorem near_start : (Moment.start page : Moment σ).Near where
  tidy := resting_start.toTidy
  near _ member := absurd member List.not_mem_nil
  timely _ speaking := nomatch speaking

theorem Moment.Near.beat {scene : Scene} {due : Clock.Due Task} {target : Instant}
    (tidy : Tidy scene.timers) (near : scene.timers.Near Task.Brief)
    (next : scene.timers.nextDue? target = some due) :
    (scene.beat Work.tick due).timers.Near Task.Brief ∧
      ∀ sum ∈ (Work.tick due.handle due.task).sums
        { scene with timers := scene.timers.taking due }, sum ≤ due.deadline + Span.longest := by
  obtain ⟨timer, takes⟩ := Clock.takes_of_nextDue? tidy.orderly next
  have brief : due.task.Brief := (near _ takes.member).2.2 _ takes.task_eq
  have ticks := brief_tick due.handle brief
  have taken : (scene.timers.taking due).Near Task.Brief := near.taking (takes.now_le tidy.orderly)
  obtain ⟨leftBrief, after⟩ :=
    ticks.near_act { scene with timers := scene.timers.taking due } taken
  exact ⟨after.putBack due.handle leftBrief, fun sum member => ticks.sums_le _ member⟩

theorem Step.near (step : Step performer interval first entry second)
    (whole : interval.Whole) (short : interval ≤ Span.longest) (timely : performer.Timely)
    (near : first.Near) : second.Near where
  tidy := step.tidy whole near.tidy
  near := by
    cases step with
    | answer request next scene calling =>
        exact ((brief_answer short (near.timely _ rfl).1).near_act scene near.near).2
    | begin | finish | call | take => exact near.near
    | tick script scene due next alone => exact (Moment.Near.beat near.tidy near.near next).1
    | arrive script scene target rung there early alone => exact near.near.arrive early
  timely := by
    cases step with
    | begin scene => exact fun _ eq => Mode.speaking.inj eq ▸ timely.start
    | answer request next scene calling =>
        exact fun _ eq => Mode.speaking.inj eq ▸ (near.timely _ rfl).2 _
    | call script scene callback calling =>
        exact fun _ eq => Mode.speaking.inj eq ▸ timely.call script callback
    | finish | take | tick | arrive => exact fun _ eq => nomatch eq

/-- Whatever a step adds up goes no further than the longest interval from the time to which the
step leads. -/
theorem Computes.le {sum : Instant} (computes : Computes interval first second sum)
    (short : interval ≤ Span.longest) (near : first.Near) :
    sum ≤ second.scene.timers.now + Span.longest := by
  cases computes with
  | @answer request next scene calling _ member =>
      rw [now_answer]
      exact (brief_answer short (near.timely _ rfl).1).sums_le scene member
  | @depart script scene due deadline next ahead =>
      obtain ⟨timer, takes⟩ := Clock.takes_of_nextDue? near.tidy.orderly next
      obtain ⟨⟨entry, entryMem, rfl⟩, least⟩ := Clock.nextDeadline?_eq_some.mp ahead
      rw [World.now_beat, Nat.add_sub_cancel' (near.tidy.orderly.now_le_due entry entryMem)]
      exact Nat.le_trans (takes.due_eq ▸ least _ takes.member) (Nat.le_add_right _ _)
  | @rearm script scene due timer next member =>
      rw [World.now_beat]
      exact Nat.add_le_add_left (near.near _ member).1 _
  | @tick script scene due _ next member =>
      rw [World.now_beat]
      exact (Moment.Near.beat near.tidy near.near next).2 sum member

theorem Steps.near {added : Transcript} (steps : Steps performer interval first added last)
    (whole : interval.Whole) (short : interval ≤ Span.longest) (timely : performer.Timely)
    (near : first.Near) : last.Near := by
  induction steps with
  | refl moment => exact near
  | head step rest ih => exact ih (step.near whole short timely near)

/-- Time never goes back. -/
theorem Steps.now_le {added : Transcript} (steps : Steps performer interval first added last)
    (whole : interval.Whole) (tidy : Tidy first.scene.timers) :
    first.scene.timers.now ≤ last.scene.timers.now := by
  induction steps with
  | refl moment => exact Nat.le_refl _
  | head step rest ih => exact Nat.le_trans (step.now_le tidy) (ih (step.tidy whole tidy))

/-! ## Whole performances -/

/-- No time in a performance lies beyond its horizon, which is the budget and one longest
interval, and the horizon is a time that can be kept.  At every moment on the way to the end the
clock is within the budget, all deadlines are within the horizon, and so is every sum that the
next step computes, whether it is stored or not.  A script is run by its own performer, so this
holds of every script whose delays are counted in 64 bits, on every target. -/
theorem times_within_horizon (performer : Performer σ) (page : Page) (settings : Settings)
    (polls : settings.checkIntervalMs < UInt64.size) (bounded : settings.budgetMs < UInt64.size)
    (timely : performer.Timely) :
    let interval := Span.ofMs settings.checkIntervalMs
    let budget := Span.ofMs settings.budgetMs
    let horizon := budget + Span.longest
    let ended := perform performer page settings
    horizon < Span.limit ∧
      ∃ left, Steps performer interval (.start page) (transcript performer page settings)
          (ended.moment left) ∧
        ∀ past moment future, Steps performer interval (.start page) past moment →
          Steps performer interval moment future (ended.moment left) →
          moment.scene.timers.now ≤ budget ∧
            (∀ entry ∈ moment.scene.timers.timers, entry.2.due ≤ horizon) ∧
            ∀ entry next rest, Step performer interval moment entry next →
              Steps performer interval next rest (ended.moment left) →
              ∀ sum, Computes interval moment next sum → sum ≤ horizon := by
  intro interval budget horizon ended
  have whole : interval.Whole := Span.whole_ofMs settings.checkIntervalMs
  have short : interval ≤ Span.longest := Span.ofMs_le_longest polls
  obtain ⟨left, steps, -⟩ := steps_perform performer page settings
  have inTime : ended.scene.timers.now ≤ budget := by
    obtain ⟨-, turns, stands⟩ := stands_perform performer page settings
    exact stands.within.2
  refine ⟨Span.add_longest_lt_limit (Span.ofMs_le_longest bounded), left, steps, ?_⟩
  intro past moment future before after
  have near : moment.Near := before.near whole short timely near_start
  have now_le : moment.scene.timers.now ≤ budget :=
    Nat.le_trans (after.now_le whole near.tidy) inTime
  refine ⟨now_le, fun entry member => ?_, fun entry next rest step onward sum computes => ?_⟩
  · exact Nat.le_trans (near.near.due_le member) (Nat.add_le_add_right now_le _)
  · have nextNear : next.Near := step.near whole short timely near
    have next_le : next.scene.timers.now ≤ budget :=
      Nat.le_trans (onward.now_le whole nextNear.tidy) inTime
    exact Nat.le_trans (computes.le short near) (Nat.add_le_add_right next_le _)

/-- A script that sets the longest timeout there is, and then a short one again and again. -/
def tenacious : Performer Unit where
  start := .asks (.timeout (UInt64.size - 1) 7) fun _ =>
    .asks (.timeout (Library.delayOf 2.5) 8) fun _ => .finished none ()
  call _ _ := .asks (.timeout (Library.delayOf 2.5) 8) fun _ => .finished none ()

theorem timely_tenacious : tenacious.Timely := by
  have longest : (Request.timeout (UInt64.size - 1) 7).Timely := Nat.sub_lt (by decide) (by decide)
  have short := Library.timely_delayOf 2.5 8
  exact ⟨⟨longest, fun _ => ⟨short, fun _ => trivial⟩⟩, fun _ _ => ⟨short, fun _ => trivial⟩⟩

theorem times_within_horizon_tenacious :
    let ended := perform tenacious unseen ⟨10, 4, false⟩
    10 < UInt64.size ∧ 4 < UInt64.size ∧ tenacious.Timely ∧ ended.scene.timers.now ≤ Span.ofMs 4 ∧
      ∀ entry ∈ ended.scene.timers.timers, entry.2.due < Span.limit := by
  intro ended
  obtain ⟨fits, left, steps, throughout⟩ :=
    times_within_horizon tenacious unseen ⟨10, 4, false⟩ (by decide) (by decide) timely_tenacious
  obtain ⟨inTime, dues, -⟩ := throughout _ _ [] steps (.refl _)
  exact ⟨by decide, by decide, timely_tenacious, inTime,
    fun entry member => Nat.lt_of_le_of_lt (dues entry member) fits⟩

end Performance

end PageWatch
