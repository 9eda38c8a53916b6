import PageWatch.Proofs.Clock.Moments

/-!
# When time goes back

A move of the clock ends at the instant that was meant when it began.  A tick on the way may move
the clock further than that, or beyond the next deadline of its own timer, and then time goes back
when the tick is over.  This is the only way in which it can.  As long as every tick ends in time,
the clock never goes back, and ticks come in the order of their deadlines.
-/

namespace PageWatch

variable {τ σ α : Type}

namespace Clock

/-- No timer that could tick is overdue. -/
def Upcoming (clock : Clock τ) : Prop :=
  ∀ entry ∈ clock.timers, entry.2.task.isSome → clock.now ≤ entry.2.due

namespace Upcoming

variable {clock : Clock τ}

theorem of_ahead (ahead : clock.Ahead) : clock.Upcoming :=
  fun entry member _ => Nat.le_of_lt (ahead entry member)

theorem schedule (upcoming : clock.Upcoming) (interval : Span) (task : Handle → τ) :
    (clock.schedule interval task).2.Upcoming := by
  intro entry member idle
  rw [timers_schedule, List.mem_append, List.mem_singleton] at member
  rcases member with member | rfl
  · exact upcoming entry member idle
  · exact Nat.le_add_right _ _

theorem cancel (upcoming : clock.Upcoming) (handle : Handle) : (clock.cancel handle).Upcoming :=
  fun entry member => upcoming entry (mem_timers_cancel.mp member).1

theorem clear (_ : clock.Upcoming) : clock.clear.Upcoming :=
  fun _ member => absurd member List.not_mem_nil

theorem now_le_deadline (upcoming : clock.Upcoming) {target : Instant} {due : Due τ}
    (next : clock.nextDue? target = some due) : clock.now ≤ due.deadline := by
  obtain ⟨timer, member, holds, due_eq, -⟩ := exists_of_nextDue? next
  exact due_eq ▸ upcoming _ member (holds ▸ rfl)

/-- The timer that ticks is the first that could. -/
theorem taking (regular : clock.Regular) {target : Instant} {due : Due τ}
    (next : clock.nextDue? target = some due) : (clock.taking due).Upcoming := by
  obtain ⟨timer, takes⟩ := takes_of_nextDue? regular.orderly next
  intro entry member idle
  obtain ⟨former, formerMem, rfl⟩ := mem_timers_update.mp member
  by_cases own : former.1 = due.handle
  · simp [own] at idle
  · rw [if_neg own] at idle ⊢
    have first := takes.first former formerMem idle
    unfold Before at first
    rw [now_taking]
    lia

theorem putBack (upcoming : clock.Upcoming) {handle : Handle}
    (inTime : ∀ timer, (handle, timer) ∈ clock.timers → clock.now ≤ timer.due) (task : τ) :
    (clock.putBack handle task).Upcoming := by
  intro entry member idle
  obtain ⟨former, formerMem, rfl⟩ := mem_timers_update.mp member
  by_cases own : former.1 = handle
  · rw [if_pos own]
    exact inTime former.2 (own ▸ formerMem)
  · rw [if_neg own] at idle ⊢
    exact upcoming former formerMem idle

end Upcoming

end Clock

namespace Routine

variable {routine rest : Routine τ σ α} {world changed : World.Clocked τ σ}

theorem eq_done_of_next {result : α} (ends : routine.next world = .ends result) :
    routine = .done result := by
  cases routine with
  | done value => exact congrArg done (Next.ends.inj ends)
  | look | put | schedule | cancel | clear | advance => exact absurd ends nofun

theorem now_le_of_next {target : Instant} (moves : routine.next world = .moves target rest) :
    world.timers.now ≤ target := by
  cases routine with
  | advance span onward => exact (Next.moves.inj moves).1 ▸ Nat.le_add_right _ _
  | done | look | put | schedule | cancel | clear => exact absurd moves nofun

/-- A request to the timers takes no time, and nothing is over after it that was not before. -/
theorem upcoming_of_next (acts : routine.next world = .acts rest changed)
    (upcoming : world.timers.Upcoming) :
    changed.timers.now = world.timers.now ∧ changed.timers.Upcoming :=
  next_keeps (fun clock => clock.now = world.timers.now ∧ clock.Upcoming)
    (fun interval task _ kept => ⟨kept.1, kept.2.schedule interval task⟩)
    (fun handle _ kept => ⟨kept.1, kept.2.cancel handle⟩)
    (fun _ kept => ⟨kept.1, kept.2.clear⟩) acts ⟨rfl, upcoming⟩

end Routine

namespace World.Moment

variable {behaviour : Behaviour τ σ}

/-- What the clock shows at a moment. -/
def now (moment : Moment τ σ α) : Instant := moment.world.timers.now

/-- The tick that begins at a moment, if one does. -/
def ticking? (moment : Moment τ σ α) : Option (Clock.Due τ) :=
  moment.moving.bind fun target => moment.world.timers.nextDue? target

/-- If a tick ends at this moment, the clock has neither passed the end of the move to which the
tick belongs nor the deadline at which the same timer ticks again. -/
def InTime (moment : Moment τ σ α) : Prop :=
  moment.moving = none → ∀ tick outer task, moment.ticks = tick :: outer →
    tick.rest = .done task → moment.now ≤ tick.target ∧
      ∀ timer, (tick.handle, timer) ∈ moment.world.timers.timers → moment.now ≤ timer.due

/-- Nothing that may happen next is over. -/
structure Forward (moment : Moment τ σ α) : Prop where
  sound : moment.Sound
  upcoming : moment.world.timers.Upcoming
  moving : ∀ target, moment.moving = some target → moment.now ≤ target

/-- A moment at which the clock is not being moved. -/
theorem Forward.still {moment : Moment τ σ α} (sound : moment.Sound)
    (upcoming : moment.world.timers.Upcoming) (still : moment.moving = none) : moment.Forward :=
  ⟨sound, upcoming, fun target moves =>
    absurd (moves.symm.trans still) (Option.some_ne_none target)⟩

theorem Forward.begin (program : Routine τ σ α) {world : World.Clocked τ σ}
    (consistent : world.timers.Consistent []) (ahead : world.timers.Ahead) :
    (begin program world).Forward :=
  .still ⟨consistent, fun _ => ahead⟩ (.of_ahead ahead) rfl

theorem next?_rest (program : Routine τ σ α) (ticks : List (OpenTick τ σ)) {target : Instant}
    {world : World.Clocked τ σ} (rests : world.timers.nextDue? target = none) :
    next? behaviour ⟨program, ticks, some target, world⟩ =
      some ⟨program, ticks, none, world.arrive target⟩ := by
  simp only [next?, Clock.takeDue?_eq, rests]
  rfl

theorem next?_tick (program : Routine τ σ α) (ticks : List (OpenTick τ σ)) {target : Instant}
    {world : World.Clocked τ σ} {due : Clock.Due τ}
    (takes : world.timers.nextDue? target = some due) :
    next? behaviour ⟨program, ticks, some target, world⟩ =
      some ⟨program, ⟨due.handle, target, behaviour due.handle due.task⟩ :: ticks, none,
        { world with timers := world.timers.taking due }⟩ := by
  simp only [next?, Clock.takeDue?_eq, takes]
  rfl

/-- The ways in which a run goes on from a moment. -/
inductive Goes (behaviour : Behaviour τ σ) : Moment τ σ α → Moment τ σ α → Prop where
  | arrives {program ticks target world} (rests : world.timers.nextDue? target = none) :
    Goes behaviour ⟨program, ticks, some target, world⟩ ⟨program, ticks, none, world.arrive target⟩
  | ticks {program ticks target world due} (takes : world.timers.nextDue? target = some due) :
    Goes behaviour ⟨program, ticks, some target, world⟩
      ⟨program, ⟨due.handle, target, behaviour due.handle due.task⟩ :: ticks, none,
        { world with timers := world.timers.taking due }⟩
  | moves {program rest target world} (moves : program.next world = .moves target rest) :
    Goes behaviour ⟨program, [], none, world⟩ ⟨rest, [], some target, world⟩
  | acts {program rest world changed} (acts : program.next world = .acts rest changed) :
    Goes behaviour ⟨program, [], none, world⟩ ⟨rest, [], none, changed⟩
  | tickEnds {program tick outer task world} (ends : tick.rest.next world = .ends task) :
    Goes behaviour ⟨program, tick :: outer, none, world⟩
      ⟨program, outer, some tick.target,
        { world with timers := world.timers.putBack tick.handle task }⟩
  | tickMoves {program tick outer rest target world}
      (moves : tick.rest.next world = .moves target rest) :
    Goes behaviour ⟨program, tick :: outer, none, world⟩
      ⟨program, { tick with rest } :: outer, some target, world⟩
  | tickActs {program tick outer rest world changed}
      (acts : tick.rest.next world = .acts rest changed) :
    Goes behaviour ⟨program, tick :: outer, none, world⟩
      ⟨program, { tick with rest } :: outer, none, changed⟩

theorem goes_of_next? {before after : Moment τ σ α} (next : before.next? behaviour = some after) :
    Goes behaviour before after := by
  obtain ⟨program, ticks, moving, world⟩ := before
  cases moving with
  | some target =>
      cases taken : world.timers.nextDue? target with
      | none =>
          obtain rfl := Option.some.inj ((next?_rest program ticks taken).symm.trans next)
          exact .arrives taken
      | some due =>
          obtain rfl := Option.some.inj ((next?_tick program ticks taken).symm.trans next)
          exact .ticks taken
  | none =>
      cases ticks with
      | nil =>
          cases acts : program.next world with
          | ends result => simp [next?, acts] at next
          | moves target rest =>
              simp only [next?, acts, Option.some.injEq] at next
              exact next ▸ .moves acts
          | acts rest changed =>
              simp only [next?, acts, Option.some.injEq] at next
              exact next ▸ .acts acts
      | cons tick outer =>
          cases acts : tick.rest.next world with
          | ends task =>
              simp only [next?, acts, Option.some.injEq] at next
              exact next ▸ .tickEnds acts
          | moves target rest =>
              simp only [next?, acts, Option.some.injEq] at next
              exact next ▸ .tickMoves acts
          | acts rest changed =>
              simp only [next?, acts, Option.some.injEq] at next
              exact next ▸ .tickActs acts

/-- A tick that ends in time leaves nothing behind that is over. -/
theorem Forward.next {before after : Moment τ σ α} (forward : before.Forward)
    (inTime : before.InTime) (next : before.next? behaviour = some after) :
    before.now ≤ after.now ∧ after.Forward := by
  have sound := forward.sound.next next
  cases goes_of_next? next with
  | arrives rests =>
      refine ⟨forward.moving _ rfl, .still sound (fun entry member idle => ?_) rfl⟩
      exact Nat.le_of_lt (Clock.lt_due_of_nextDue? rests entry member idle)
  | ticks takes =>
      exact ⟨forward.upcoming.now_le_deadline takes,
        .still sound (.taking forward.sound.consistent.regular takes) rfl⟩
  | moves moves =>
      refine ⟨Nat.le_refl _, sound, forward.upcoming, ?_⟩
      rintro other ⟨⟩
      exact Routine.now_le_of_next moves
  | acts acts =>
      obtain ⟨same, upcoming⟩ := Routine.upcoming_of_next acts forward.upcoming
      exact ⟨Nat.le_of_eq same.symm, .still sound upcoming rfl⟩
  | tickEnds ends =>
      obtain ⟨within, again⟩ := inTime rfl _ _ _ rfl (Routine.eq_done_of_next ends)
      refine ⟨Nat.le_refl _, sound, forward.upcoming.putBack again _, ?_⟩
      rintro other ⟨⟩
      exact within
  | tickMoves moves =>
      refine ⟨Nat.le_refl _, sound, forward.upcoming, ?_⟩
      rintro other ⟨⟩
      exact Routine.now_le_of_next moves
  | tickActs acts =>
      obtain ⟨same, upcoming⟩ := Routine.upcoming_of_next acts forward.upcoming
      exact ⟨Nat.le_of_eq same.symm, .still sound upcoming rfl⟩

/-- Where a tick ends late, time goes back. -/
theorem goes_back (behaviour : Behaviour τ σ) {moment : Moment τ σ α} (sound : moment.Sound)
    (late : ¬moment.InTime) :
    ∃ middle after, moment.next? behaviour = some middle ∧
      middle.next? behaviour = some after ∧ after.now < middle.now := by
  obtain ⟨program, ticks, moving, world⟩ := moment
  simp only [InTime, not_forall, exists_prop] at late
  obtain ⟨still, ⟨handle, target, rest⟩, outer, task, rfl, rfl, late⟩ := late
  obtain rfl : moving = none := still
  let back : World.Clocked τ σ := { world with timers := world.timers.putBack handle task }
  have ends : next? behaviour ⟨program, ⟨handle, target, .done task⟩ :: outer, none, world⟩ =
      some ⟨program, outer, some target, back⟩ := rfl
  have late : target < world.timers.now ∨
      ∃ entry ∈ back.timers.timers, entry.2.task.isSome ∧ entry.2.due < world.timers.now := by
    by_cases within : world.timers.now ≤ target
    · obtain ⟨timer, member, overdue⟩ : ∃ timer, (handle, timer) ∈ world.timers.timers ∧
          timer.due < world.timers.now := by simpa [now, within] using late
      refine .inr ⟨(handle, { timer with task := some task }), ?_, rfl, overdue⟩
      exact Clock.mem_timers_update.mpr ⟨_, member, by rw [if_pos rfl]⟩
    · exact .inl (Nat.lt_of_not_le within)
  cases taken : back.timers.nextDue? target with
  | none =>
      refine ⟨_, _, ends, next?_rest program outer taken, ?_⟩
      change target < world.timers.now
      rcases late with beyond | ⟨entry, member, idle, overdue⟩
      · exact beyond
      · exact Nat.lt_trans (Clock.lt_due_of_nextDue? taken entry member idle) overdue
  | some due =>
      have regular : back.timers.Regular := sound.consistent.regular.putBack handle task
      obtain ⟨timer, takes⟩ := Clock.takes_of_nextDue? regular.orderly taken
      refine ⟨_, _, ends, next?_tick program outer taken, ?_⟩
      change due.deadline < world.timers.now
      rcases late with beyond | ⟨entry, member, idle, overdue⟩
      · exact Nat.lt_of_le_of_lt takes.deadline_le beyond
      · have first := takes.first entry member idle
        unfold Before at first
        lia

/-- As long as all ticks end in time, the clock does not go back. -/
theorem Forward.leadsTo {first moment : Moment τ σ α} (forward : first.Forward)
    (inTime : ∀ moment, LeadsTo behaviour first moment → moment.InTime)
    (leads : LeadsTo behaviour first moment) : first.now ≤ moment.now ∧ moment.Forward := by
  induction leads with
  | refl => exact ⟨Nat.le_refl _, forward⟩
  | tail leads next ih =>
      obtain ⟨onward, forward⟩ := ih.2.next (inTime _ leads) next
      exact ⟨Nat.le_trans ih.1 onward, forward⟩

/-- The clock goes back in a run if and only if some tick ends late. -/
theorem Forward.inTime_iff {first : Moment τ σ α} (forward : first.Forward) :
    (∀ moment, LeadsTo behaviour first moment → moment.InTime) ↔
      ∀ earlier later, LeadsTo behaviour first earlier → LeadsTo behaviour earlier later →
        earlier.now ≤ later.now := by
  constructor
  · intro inTime earlier later leads onward
    have reached := (forward.leadsTo inTime leads).2
    exact (reached.leadsTo (fun moment more => inTime moment (leads.trans more)) onward).1
  · intro goesOn moment leads
    by_contra late
    have sound := forward.sound.leadsTo leads
    obtain ⟨middle, after, next, last, back⟩ := goes_back behaviour sound late
    exact Nat.not_lt_of_le (goesOn middle after (leads.tail next) (.single last)) back

/-- As long as the clock does not go back, ticks come in the order of their deadlines. -/
theorem deadline_le_deadline {first : Moment τ σ α}
    (goesOn : ∀ earlier later, LeadsTo behaviour first earlier → LeadsTo behaviour earlier later →
      earlier.now ≤ later.now)
    {earlier later : Moment τ σ α} {due after : Clock.Due τ}
    (leads : LeadsTo behaviour first earlier) (onward : LeadsTo behaviour earlier later)
    (ticks : earlier.ticking? = some due) (again : later.ticking? = some after) :
    due.deadline ≤ after.deadline := by
  have begins {moment : Moment τ σ α} {due : Clock.Due τ} (ticks : moment.ticking? = some due) :
      ∃ next, moment.next? behaviour = some next ∧ next.now = due.deadline := by
    obtain ⟨program, outer, moving, world⟩ := moment
    obtain ⟨target, rfl, taken⟩ := Option.bind_eq_some_iff.mp ticks
    exact ⟨_, next?_tick program outer taken, rfl⟩
  obtain ⟨next, follows, nowEq⟩ := begins ticks
  obtain ⟨last, ending, lastEq⟩ := begins again
  rcases onward.cases_head with rfl | ⟨middle, step, rest⟩
  · rw [ticks] at again
    exact Nat.le_of_eq (congrArg Clock.Due.deadline (Option.some.inj again))
  · rw [follows] at step
    obtain rfl := Option.some.inj step
    rw [← nowEq, ← lastEq]
    exact goesOn next last (leads.tail follows) (rest.tail ending)

end World.Moment

/-! ## Ticks that leave the clock alone -/

/-- A routine that gives timers tasks of some kind only. -/
def Routine.Gives (kind : τ → Prop) : Routine τ σ α → Prop
  | done _ => True
  | look next => ∀ now state, (next now state).Gives kind
  | put _ next => next.Gives kind
  | schedule _ task next => (∀ handle, kind (task handle)) ∧ ∀ handle, (next handle).Gives kind
  | cancel _ next => next.Gives kind
  | clear next => next.Gives kind
  | advance _ next => next.Gives kind

namespace Routine

variable {kind : τ → Prop}

theorem Gives.bind {β : Type} {routine : Routine τ σ α} {rest : α → Routine τ σ β}
    (gives : routine.Gives kind) (rests : ∀ result, (rest result).Gives kind) :
    (routine.bind rest).Gives kind := by
  induction routine with
  | done result => exact rests result
  | look next ih => exact fun now state => ih now state (gives now state)
  | put state next ih => exact ih gives
  | schedule interval task next ih => exact ⟨gives.1, fun handle => ih handle (gives.2 handle)⟩
  | cancel handle next ih => exact ih gives
  | clear next ih => exact ih gives
  | advance span next ih => exact ih gives

theorem Modest.gives {clears : Prop} {ends : α → Prop} {routine : Routine τ σ α}
    (modest : routine.Modest clears kind ends) : routine.Gives kind := by
  induction routine with
  | done result => trivial
  | look next ih => exact fun now state => ih now state (modest now state)
  | put state next ih => exact ih modest
  | schedule interval task next ih => exact ⟨modest.1, fun handle => ih handle (modest.2 handle)⟩
  | cancel handle next ih => exact ih modest
  | clear next ih => exact ih modest.2
  | advance span next => exact modest.elim

end Routine

namespace Clock

/-- All tasks on a clock are of some kind. -/
def Holds (kind : τ → Prop) (clock : Clock τ) : Prop :=
  ∀ entry ∈ clock.timers, ∀ task, entry.2.task = some task → kind task

variable {kind : τ → Prop} {clock : Clock τ}

theorem Holds.taking (holds : clock.Holds kind) (due : Due τ) : (clock.taking due).Holds kind := by
  intro entry member task same
  obtain ⟨former, formerMem, rfl⟩ := mem_timers_update.mp member
  split at same
  · exact (Option.some_ne_none task same.symm).elim
  · exact holds former formerMem task same

theorem Holds.putBack (holds : clock.Holds kind) (handle : Handle) {task : τ} (own : kind task) :
    (clock.putBack handle task).Holds kind := by
  intro entry member given same
  obtain ⟨former, formerMem, rfl⟩ := mem_timers_update.mp member
  split at same
  · exact Option.some.inj same ▸ own
  · exact holds former formerMem given same

end Clock

namespace Routine

variable {kind : τ → Prop} {routine rest : Routine τ σ α} {world changed : World.Clocked τ σ}

theorem Gives.next (gives : routine.Gives kind) (acts : routine.next world = .acts rest changed)
    (holds : world.timers.Holds kind) : rest.Gives kind ∧ changed.timers.Holds kind := by
  cases routine with
  | done | advance => exact absurd acts nofun
  | look onward =>
      obtain ⟨rfl, rfl⟩ := Next.acts.inj acts
      exact ⟨gives _ _, holds⟩
  | put state onward =>
      obtain ⟨rfl, rfl⟩ := Next.acts.inj acts
      exact ⟨gives, holds⟩
  | schedule interval task onward =>
      obtain ⟨rfl, rfl⟩ := Next.acts.inj acts
      refine ⟨gives.2 _, fun entry member given same => ?_⟩
      rw [Clock.timers_schedule, List.mem_append, List.mem_singleton] at member
      rcases member with member | rfl
      · exact holds entry member given same
      · exact Option.some.inj same ▸ gives.1 _
  | cancel handle onward =>
      obtain ⟨rfl, rfl⟩ := Next.acts.inj acts
      exact ⟨gives, fun entry member => holds entry (Clock.mem_timers_cancel.mp member).1⟩
  | clear onward =>
      obtain ⟨rfl, rfl⟩ := Next.acts.inj acts
      exact ⟨gives, fun _ member => absurd member List.not_mem_nil⟩

theorem Gives.of_moves {target : Instant} (gives : routine.Gives kind)
    (moves : routine.next world = .moves target rest) : rest.Gives kind := by
  cases routine with
  | advance span onward => exact (Next.moves.inj moves).2 ▸ gives
  | done | look | put | schedule | cancel | clear => exact absurd moves nofun

theorem Modest.next {clears : Prop} {ends : α → Prop} (modest : routine.Modest clears kind ends)
    (acts : routine.next world = .acts rest changed) : rest.Modest clears kind ends := by
  cases routine with
  | done | advance => exact absurd acts nofun
  | look onward => exact (Next.acts.inj acts).1 ▸ modest _ _
  | put state onward => exact (Next.acts.inj acts).1 ▸ modest
  | schedule interval task onward => exact (Next.acts.inj acts).1 ▸ modest.2 _
  | cancel handle onward => exact (Next.acts.inj acts).1 ▸ modest
  | clear onward => exact (Next.acts.inj acts).1 ▸ modest.2

theorem Modest.not_moves {clears : Prop} {ends : α → Prop} {target : Instant}
    (modest : routine.Modest clears kind ends) (moves : routine.next world = .moves target rest) :
    False := by
  cases routine with
  | advance span onward => exact modest
  | done | look | put | schedule | cancel | clear => exact absurd moves nofun

/-- A request to the timers leaves the time as it is, and makes no timer overdue. -/
theorem deadlines_of_next {handle : Handle} (acts : routine.next world = .acts rest changed)
    (again : ∀ timer, (handle, timer) ∈ world.timers.timers → world.timers.now ≤ timer.due) :
    changed.timers.now = world.timers.now ∧
      ∀ timer, (handle, timer) ∈ changed.timers.timers → changed.timers.now ≤ timer.due :=
  next_keeps
    (fun clock => clock.now = world.timers.now ∧
      ∀ timer, (handle, timer) ∈ clock.timers → clock.now ≤ timer.due)
    (fun interval task _ kept => ⟨kept.1, fun timer member => by
      rw [Clock.timers_schedule, List.mem_append, List.mem_singleton] at member
      rcases member with member | member
      · exact kept.2 timer member
      · exact (Prod.mk.inj member).2 ▸ Nat.le_add_right _ _⟩)
    (fun handle _ kept => ⟨kept.1,
      fun timer member => kept.2 timer (Clock.mem_timers_cancel.mp member).1⟩)
    (fun _ kept => ⟨kept.1, fun _ member => absurd member List.not_mem_nil⟩)
    acts ⟨rfl, again⟩

end Routine

namespace World.Moment

variable {behaviour : Behaviour τ σ} {kind : τ → Prop}

/-- Ticks are made of tasks of some kind, and none moves the clock.  So at most one is under way,
and the clock shows its deadline. -/
structure Plain (kind : τ → Prop) (moment : Moment τ σ α) : Prop where
  holds : moment.world.timers.Holds kind
  program : moment.program.Gives kind
  tick : ∀ tick ∈ moment.ticks, moment.ticks = [tick] ∧ moment.moving = none ∧
    tick.rest.Modest True kind kind ∧ moment.now ≤ tick.target ∧
      ∀ timer, (tick.handle, timer) ∈ moment.world.timers.timers → moment.now ≤ timer.due

theorem Plain.inTime {moment : Moment τ σ α} (plain : moment.Plain kind) : moment.InTime := by
  intro _ tick outer task under _
  obtain ⟨-, -, -, within, again⟩ := plain.tick tick (under ▸ .head _)
  exact ⟨within, again⟩

theorem Plain.ticks_of_moving {moment : Moment τ σ α} (plain : moment.Plain kind)
    {target : Instant} (moves : moment.moving = some target) : moment.ticks = [] :=
  List.eq_nil_iff_forall_not_mem.mpr fun tick member =>
    Option.some_ne_none target (moves.symm.trans (plain.tick tick member).2.1)

theorem Plain.begin {program : Routine τ σ α} (gives : program.Gives kind)
    {world : World.Clocked τ σ} (holds : world.timers.Holds kind) :
    (begin program world).Plain kind where
  holds := holds
  program := gives
  tick _ member := absurd member List.not_mem_nil

theorem Plain.next (behaves : ∀ handle task, kind task →
      (behaviour handle task).Modest True kind kind)
    {before after : Moment τ σ α} (plain : before.Plain kind)
    (next : before.next? behaviour = some after) : after.Plain kind := by
  have holds := plain.holds
  cases goes_of_next? next with
  | @arrives program ticks target world rests =>
      obtain rfl : ticks = [] := plain.ticks_of_moving rfl
      exact ⟨holds, plain.program, fun _ member => absurd member List.not_mem_nil⟩
  | @ticks program ticks target world due takes =>
      obtain rfl : ticks = [] := plain.ticks_of_moving rfl
      obtain ⟨timer, timerMem, task_eq, -, within⟩ := Clock.exists_of_nextDue? takes
      refine ⟨holds.taking due, plain.program, fun tick member => ?_⟩
      obtain rfl := List.mem_singleton.mp member
      have ticks := behaves due.handle due.task (holds _ timerMem _ task_eq)
      refine ⟨rfl, rfl, ticks, within, fun own ownMem => ?_⟩
      obtain ⟨former, formerMem, same⟩ := Clock.mem_timers_update.mp ownMem
      by_cases own : former.1 = due.handle
      · rw [if_pos own] at same
        exact (Prod.mk.inj same).2 ▸ Nat.le_add_right _ _
      · rw [if_neg own] at same
        exact absurd (congrArg Prod.fst same).symm own
  | moves moves =>
      exact ⟨holds, plain.program.of_moves moves, fun _ member => absurd member List.not_mem_nil⟩
  | acts acts =>
      obtain ⟨gives, holds⟩ := plain.program.next acts holds
      exact ⟨holds, gives, fun _ member => absurd member List.not_mem_nil⟩
  | @tickEnds program tick outer task world ends =>
      obtain ⟨alone, -, modest, -, -⟩ := plain.tick tick (.head _)
      obtain rfl : outer = [] := (List.cons.inj alone).2
      rw [Routine.eq_done_of_next ends] at modest
      exact ⟨holds.putBack tick.handle modest, plain.program,
        fun _ member => absurd member List.not_mem_nil⟩
  | tickMoves moves =>
      exact ((plain.tick _ (.head _)).2.2.1.not_moves moves).elim
  | @tickActs program tick outer rest world changed acts =>
      obtain ⟨alone, -, modest, within, again⟩ := plain.tick tick (.head _)
      obtain rfl : outer = [] := (List.cons.inj alone).2
      obtain ⟨same, again⟩ := Routine.deadlines_of_next acts again
      refine ⟨(modest.gives.next acts holds).2, plain.program, fun other member => ?_⟩
      obtain rfl := List.mem_singleton.mp member
      exact ⟨rfl, rfl, modest.next acts, Nat.le_trans (Nat.le_of_eq same) within, again⟩

/-- Ticks that leave the clock alone end in time. -/
theorem Plain.leadsTo (behaves : ∀ handle task, kind task →
      (behaviour handle task).Modest True kind kind)
    {first moment : Moment τ σ α} (plain : first.Plain kind)
    (leads : LeadsTo behaviour first moment) : moment.Plain kind := by
  induction leads with
  | refl => exact plain
  | tail _ next ih => exact ih.next behaves next

end World.Moment

/-- A program on a clock that is moved by hand never makes time go back, as long as nothing but its
own moves is seen. -/
theorem World.now_le_perform {behaviour : Behaviour τ σ} {allowed : Nat} {program : Routine τ σ α}
    {world after : World.Clocked τ σ} {result : α}
    (performed : World.perform Clock.service behaviour allowed program world =
      some (result, after)) :
    world.timers.now ≤ after.timers.now := by
  unfold World.perform at performed
  induction program generalizing world with
  | done result => exact Nat.le_of_eq (congrArg (·.2.timers.now) (Option.some.inj performed))
  | look next ih => exact ih _ _ performed
  | put state next ih =>
      have onward := ih performed
      exact onward
  | schedule interval task next ih =>
      have onward := ih _ performed
      exact onward
  | cancel handle next ih =>
      have onward := ih performed
      exact onward
  | clear next ih =>
      have onward := ih performed
      exact onward
  | advance span next ih =>
      obtain ⟨middle, moved, onward⟩ := Option.bind_eq_some_iff.mp performed
      refine Nat.le_trans ?_ (ih onward)
      rw [World.now_drain moved]
      exact Nat.le_add_right _ _

end PageWatch
