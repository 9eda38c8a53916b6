import PageWatch.Proofs.Clock.Splitting
import PageWatch.Proofs.Session.Alongside
import PageWatch.Proofs.Session.Guest

/-!
# A session beside the same with a guest

A session and the same with a guest are run side by side.  They share all timers but the guest's,
in the same order but under other numbers, so where a shared timer ticks in the one session, its
counterpart ticks in the other.  Where the guest ticks, the session without it has nothing to do.
-/

namespace PageWatch.Session

variable {callback : Callback} {pairs : Pairing} {plain : World.Clocked Task State}
  {full : World.Clocked Task (State × Visit)}

/-- The guest polls with one timer until it is resolved, and has none otherwise. -/
inductive Attending (callback : Callback) (its : List (Handle × Timer Task)) (unresolved : Bool) :
    Prop
  | polling {handle : Handle} {timer : Timer Task} {task : Task} (waits : unresolved = true)
    (only : its = [(handle, timer)]) (holds : timer.task = some task)
    (polls : Polls callback handle task)
  | resolved (settled : unresolved = false) (gone : its = [])

/-- A session, and the same with a guest. -/
structure Visiting (callback : Callback) (pairs : Pairing) (plain : World.Clocked Task State)
    (full : World.Clocked Task (State × Visit)) : Prop where
  timers : plain.timers.Alongside full.state.2.timers pairs (Task.Kin pairs) full.timers
  page : ∃ document, plain.state.page = .snapshot document ∧
    full.state.1.page = .snapshot document
  names : List.Forall₂ (Named pairs) plain.state.names full.state.1.names
  recorded : full.state.2.records.map Prod.snd = full.state.1.log
  shared : Visit.others full.state.2.records = plain.state.log
  orderly : full.timers.Orderly
  settled : full.timers.Settled
  attending : Attending callback (full.timers.its full.state.2.timers) full.state.2.unresolved
  unbegun : full.state.2.begun = false → full.state.2.ended = false

/-- The latest records are noted as the guest's or otherwise. -/
theorem ascribe_append {visit : Visit} {log : List (Instant × Event)}
    (recorded : visit.records.map Prod.snd = log) (guest : Bool) (fresh : List (Instant × Event)) :
    visit.ascribe guest (fresh ++ log) =
      { visit with
        records := fresh.map (fun record => (guest, record)) ++ visit.records
        begun := visit.begun || guest
        ended := visit.ended || guest && concluded fresh } := by
  subst recorded
  have latest : (fresh ++ visit.records.map Prod.snd).take
      ((fresh ++ visit.records.map Prod.snd).length - visit.records.length) = fresh := by
    simp
  simp only [Visit.ascribe, latest, concluded]

section Records

variable (fresh : List (Instant × Event)) (former : List (Bool × Instant × Event))

theorem map_noted (guest : Bool) :
    (fresh.map (fun record => (guest, record)) ++ former).map Prod.snd =
      fresh ++ former.map Prod.snd := by
  rw [List.map_append, List.map_map]
  exact congrArg (· ++ _) (List.map_id fresh)

theorem others_foreign :
    Visit.others (fresh.map (fun record => (false, record)) ++ former) =
      fresh ++ Visit.others former := by
  induction fresh with
  | nil => rfl
  | cons record fresh ih => exact congrArg (record :: ·) ih

theorem others_own :
    Visit.others (fresh.map (fun record => (true, record)) ++ former) = Visit.others former := by
  induction fresh with
  | nil => rfl
  | cons record fresh ih => exact ih

end Records

namespace Visiting

/-- What else goes on in a session with a guest is not the guest's. -/
theorem elsewhere (visiting : Visiting callback pairs plain full) {grown : Pairing}
    {plainAfter fullAfter : World.Clocked Task State}
    (alike : Alike ⟨full.state.2.timers, full.timers.its full.state.2.timers, plain.state.log,
      full.state.1.log⟩ grown plainAfter fullAfter)
    (orderly : fullAfter.timers.Orderly) (settled : fullAfter.timers.Settled) :
    Visiting callback grown plainAfter
      ⟨fullAfter.timers, fullAfter.state, full.state.2.ascribe false fullAfter.state.log⟩ := by
  obtain ⟨fresh, plainLog, fullLog⟩ := alike.logs
  have noted := ascribe_append visiting.recorded false fresh
  rw [fullLog, noted]
  refine ⟨alike.timers, alike.page, alike.names, ?_, ?_, orderly, settled, ?_, ?_⟩
  · rw [map_noted, visiting.recorded, fullLog]
  · rw [others_foreign, visiting.shared, plainLog]
  · have polls : fullAfter.timers.its full.state.2.timers = full.timers.its full.state.2.timers :=
      alike.polls
    simpa [Visit.unresolved, polls] using visiting.attending
  · simpa using visiting.unbegun

/-- What goes on in a session with a guest is the guest's. -/
theorem own (visiting : Visiting callback pairs plain full) {after : World.Clocked Task State}
    {timers : List Handle} {fresh : List (Instant × Event)}
    (state : after.state = { full.state.1 with log := fresh ++ full.state.1.log })
    (now_eq : after.timers.now = full.timers.now) (next_le : full.timers.next ≤ after.timers.next)
    (others_eq : after.timers.others timers = full.timers.others full.state.2.timers)
    (grows : ∀ handle ∈ timers, handle ∈ full.state.2.timers ∨
      full.timers.next ≤ handle.number ∧ handle.number < after.timers.next)
    (orderly : after.timers.Orderly) (settled : after.timers.Settled)
    (attending : Attending callback (after.timers.its timers)
      (!(full.state.2.ended || concluded fresh))) :
    Visiting callback pairs plain
      ⟨after.timers, after.state,
        { full.state.2 with timers }.ascribe true after.state.log⟩ := by
  have recorded : ({ full.state.2 with timers } : Visit).records.map Prod.snd =
      full.state.1.log := visiting.recorded
  have noted := ascribe_append recorded true fresh
  rw [state, noted]
  refine ⟨visiting.timers.apart now_eq next_le others_eq grows, visiting.page, visiting.names, ?_,
    ?_, orderly, settled, ?_, ?_⟩
  · exact (map_noted fresh _ true).trans (congrArg (fresh ++ ·) recorded)
  · exact (others_own fresh _).trans visiting.shared
  · simpa [Visit.unresolved] using attending
  · simp

/-- Time may go by until something is due. -/
theorem arrive (visiting : Visiting callback pairs plain full) {instant : Instant}
    (first : ∀ entry ∈ full.timers.timers, instant ≤ entry.2.due) :
    Visiting callback pairs (plain.arrive instant) (full.arrive instant) :=
  { visiting with
    timers := visiting.timers.atInstant instant
    orderly := { visiting.orderly with now_le_due := first } }

end Visiting

/-! ## The guest's timers -/

/-- Which timers of a clock are whose depends only on the timers that are there. -/
theorem its_congr {clock : Clock Task} {mine grown : List Handle}
    (same : ∀ entry ∈ clock.timers, entry.1 ∈ grown ↔ entry.1 ∈ mine) :
    clock.others grown = clock.others mine ∧ clock.its grown = clock.its mine := by
  constructor
  · apply List.filter_congr
    intro entry member
    simp [same entry member]
  · apply List.filter_congr
    intro entry member
    simp [same entry member]

/-- What a guest that has no timer leaves behind. -/
theorem Leaves.attending {before after : World.Clocked Task State}
    (leaves : Leaves callback before after) {mine grown : List Handle}
    (below : ∀ entry ∈ before.timers.timers, entry.1.number < before.timers.next)
    (gone : before.timers.its mine = [])
    (mem : ∀ handle, handle ∈ grown ↔ handle ∈ mine ∨
      before.timers.next ≤ handle.number ∧ handle.number < after.timers.next) :
    after.timers.others grown = before.timers.others mine ∧
      ∃ fresh, after.state = { before.state with log := fresh ++ before.state.log } ∧
        Attending callback (after.timers.its grown) (!concluded fresh) ∧
        ∀ entry ∈ after.timers.timers,
          entry ∈ before.timers.timers ∨ before.timers.next ≤ entry.1.number := by
  have former : before.timers.others grown = before.timers.others mine ∧
      before.timers.its grown = before.timers.its mine := by
    apply its_congr
    intro entry member
    have given := below entry member
    rw [mem]
    lia
  cases leaves with
  | ended fresh ends =>
      exact ⟨former.1, fresh, rfl, .resolved (by simp [ends]) (former.2.trans gone),
        fun _ member => .inl member⟩
  | polls fresh silent interval task polls =>
      have new : (⟨before.timers.next⟩ : Handle) ∈ grown :=
        (mem _).mpr (.inr ⟨Nat.le_refl _, Nat.lt_succ_self _⟩)
      have only : (before.timers.schedule interval task).2.its grown =
          before.timers.its grown ++ [(⟨before.timers.next⟩, ⟨interval.clamp,
            before.timers.now + interval.clamp, some (task ⟨before.timers.next⟩)⟩)] := by
        simp [Clock.its, new]
      rw [former.2, gone] at only
      refine ⟨?_, fresh, rfl, .polling (by simp [silent]) only rfl (polls ⟨before.timers.next⟩),
        fun entry member => ?_⟩
      · rw [← former.1]
        simp [Clock.others, World.logged, new]
      · rcases List.mem_append.mp member with member | member
        · exact .inl member
        · rw [List.mem_singleton.mp member]
          exact .inr (Nat.le_refl _)

/-! ## Ticks -/

open Work

/-- At a tick, what the timer does is noted as the guest's if the guest has asked for the timer. -/
theorem beat_visited (setup : Setup) (due : Clock.Due Task)
    (full : World.Clocked Task (State × Visit)) :
    let after := full.forget.beat (tick setup) due
    full.timers.next ≤ after.timers.next ∧ ∃ timers,
      full.beat (tickVisited setup) due =
        ⟨after.timers, after.state,
          { full.state.2 with timers }.ascribe (full.state.2.timers.contains due.handle)
            after.state.log⟩ ∧
      (due.handle ∉ full.state.2.timers → timers = full.state.2.timers) ∧
      (due.handle ∈ full.state.2.timers → ∀ handle, handle ∈ timers ↔
        handle ∈ full.state.2.timers ∨
          full.timers.next ≤ handle.number ∧ handle.number < after.timers.next) := by
  obtain ⟨later, timers, acts, foreign, own⟩ :=
    act_asked (full.state.2.timers.contains due.handle) (tick setup due.handle due.task)
      { full with timers := full.timers.taking due }
  refine ⟨later, timers, ?_, fun unknown => ?_, fun known handle => ?_⟩
  · simp only [World.beat, tickVisited, World.act_look, act_visited, acts]
    rfl
  · exact foreign (by simpa using unknown)
  · have contained : full.state.2.timers.contains due.handle = true := by simpa using known
    rw [own]
    simp only [contained, true_and]
    rfl

theorem forget_beat (setup : Setup) (due : Clock.Due Task)
    (full : World.Clocked Task (State × Visit)) :
    (full.beat (tickVisited setup) due).forget = full.forget.beat (tick setup) due := by
  obtain ⟨-, timers, ticks, -⟩ := beat_visited setup due full
  rw [ticks]
  rfl

section Own

variable {due : Clock.Due Task} {timer : Timer Task} (world : World.Clocked Task State)
  {mine timers : List Handle}

/-- A guest that is still waiting keeps its timer. -/
theorem beat_stays {setup : Setup} (only : world.timers.its mine = [(due.handle, timer)])
    (polls : Polls callback due.handle due.task) {fresh : List (Instant × Event)}
    (silent : concluded fresh = false)
    (stays : World.act Clock.service (tick setup due.handle due.task)
      { world with timers := world.timers.taking due } =
        (due.task, World.logged fresh { world with timers := world.timers.taking due }))
    (mem : ∀ handle, handle ∈ timers ↔ handle ∈ mine ∨ world.timers.next ≤ handle.number ∧
      handle.number < (world.beat (tick setup) due).timers.next) :
    (world.beat (tick setup) due).timers.others timers = world.timers.others mine ∧
      (world.beat (tick setup) due).state =
        { world.state with log := fresh ++ world.state.log } ∧
      Attending callback ((world.beat (tick setup) due).timers.its timers) (!concluded fresh) := by
  have beaten : world.beat (tick setup) due =
      ⟨(world.timers.taking due).putBack due.handle due.task,
        { world.state with log := fresh ++ world.state.log }⟩ := by
    simp only [World.beat]
    rw [stays]
    rfl
  have known : due.handle ∈ mine :=
    (Clock.mem_its.mp (only ▸ .head _ : (due.handle, timer) ∈ world.timers.its mine)).2
  rw [beaten] at mem ⊢
  obtain ⟨others_eq, its_eq⟩ :
      ((world.timers.taking due).putBack due.handle due.task).others timers =
          ((world.timers.taking due).putBack due.handle due.task).others mine ∧
        ((world.timers.taking due).putBack due.handle due.task).its timers =
          ((world.timers.taking due).putBack due.handle due.task).its mine := by
    apply its_congr
    intro entry _
    rw [mem]
    simp only [Clock.next_putBack, Clock.next_taking]
    lia
  have kept : ((world.timers.taking due).putBack due.handle due.task).its mine =
      [(due.handle, ⟨timer.interval, due.deadline + timer.interval, some due.task⟩)] := by
    have taken : (world.timers.taking due).its mine = (world.timers.its mine).map _ :=
      Clock.its_update _
    rw [Clock.putBack, Clock.its_update, taken, only]
    simp
  refine ⟨?_, rfl, .polling (by simp [silent]) (its_eq.trans kept) rfl polls⟩
  rw [others_eq, Clock.putBack, Clock.others_update_of_mem known]
  exact Clock.others_update_of_mem known _

/-- A guest that goes on has a new timer, or it is resolved. -/
theorem beat_leaves {setup : Setup} (orderly : world.timers.Orderly)
    (only : world.timers.its mine = [(due.handle, timer)])
    (leaves : Leaves callback
      { world with timers := (world.timers.taking due).cancel due.handle }
      (World.act Clock.service (tick setup due.handle due.task)
        { world with timers := world.timers.taking due }).2)
    (mem : ∀ handle, handle ∈ timers ↔ handle ∈ mine ∨ world.timers.next ≤ handle.number ∧
      handle.number < (world.beat (tick setup) due).timers.next) :
    (world.beat (tick setup) due).timers.others timers = world.timers.others mine ∧
      ∃ fresh, (world.beat (tick setup) due).state =
          { world.state with log := fresh ++ world.state.log } ∧
        Attending callback ((world.beat (tick setup) due).timers.its timers)
          (!concluded fresh) := by
  have own : (due.handle, timer) ∈ world.timers.its mine := only ▸ .head _
  have known : due.handle ∈ mine := (Clock.mem_its.mp own).2
  have given : due.handle.number < world.timers.next :=
    orderly.below_next _ (Clock.mem_its.mp own).1
  have gone : ((world.timers.taking due).cancel due.handle).its mine = [] := by
    have taken : (world.timers.taking due).its mine = (world.timers.its mine).map _ :=
      Clock.its_update _
    rw [Clock.its_cancel, taken, only]
    simp
  have below : ∀ entry ∈ ((world.timers.taking due).cancel due.handle).timers,
      entry.1.number < world.timers.next := by
    intro entry member
    obtain ⟨former, formerMem, rfl⟩ :=
      Clock.mem_timers_update.mp (Clock.mem_timers_cancel.mp member).1
    have given := orderly.below_next former formerMem
    split <;> exact given
  obtain ⟨others_eq, fresh, state, attending, entries⟩ := leaves.attending below gone mem
  -- The timer that ticks is gone, so its task is not put back.
  have same : (world.beat (tick setup) due).timers =
      (World.act Clock.service (tick setup due.handle due.task)
        { world with timers := world.timers.taking due }).2.timers := by
    apply Clock.putBack_gone
    intro entry member
    rcases entries entry member with former | late
    · exact (Clock.mem_timers_cancel.mp former).2
    · intro same
      rw [same] at late
      exact Nat.lt_irrefl _ (Nat.lt_of_lt_of_le given late)
  rw [same]
  refine ⟨others_eq.trans ?_, fresh, state, attending⟩
  rw [Clock.others_cancel_of_mem known]
  exact Clock.others_update_of_mem known _

/-- A tick of the guest concerns only the guest, which still waits with one timer or is resolved. -/
theorem beat_polls {setup : Setup} {texts : List String} (marks : callback.next = texts.map .mark)
    (orderly : world.timers.Orderly) (page : ∃ document, world.state.page = .snapshot document)
    (only : world.timers.its mine = [(due.handle, timer)])
    (polls : Polls callback due.handle due.task)
    (mem : ∀ handle, handle ∈ timers ↔ handle ∈ mine ∨ world.timers.next ≤ handle.number ∧
      handle.number < (world.beat (tick setup) due).timers.next) :
    (world.beat (tick setup) due).timers.others timers = world.timers.others mine ∧
      ∃ fresh, (world.beat (tick setup) due).state =
          { world.state with log := fresh ++ world.state.log } ∧
        Attending callback ((world.beat (tick setup) due).timers.its timers)
          (!concluded fresh) := by
  let taken : World.Clocked Task State := { world with timers := world.timers.taking due }
  have shown : ∃ document, taken.state.page = .snapshot document := page
  rcases leaves_tick setup marks polls shown with ⟨fresh, silent, stays⟩ | leaves
  · obtain ⟨others_eq, state, attending⟩ := beat_stays world only polls silent stays mem
    exact ⟨others_eq, fresh, state, attending⟩
  · exact beat_leaves world orderly only leaves mem

end Own

theorem still_visited {α : Type} (guest : Bool) {work : Work α} (still : work.Still) :
    (visited guest work).Still :=
  (still.beside.watched _).bind fun _ _ _ => trivial

theorem still_tickVisited {setup : Setup} {handle : Handle} {task : Task}
    (still : (tick setup handle task).Still) : (tickVisited setup handle task).Still :=
  fun _ _ => still_visited _ still

/-- Shared timers leave the clock alone at their ticks. -/
theorem still_of_kin (setup : Setup) {task same : Task} (kin : Task.Kin pairs task same)
    (first second : Handle) :
    (tick setup first task).Still ∧ (tick setup second same).Still := by
  have carries : Task.Carries Action.quiet task ∧ Task.Carries Action.quiet same := by
    cases kin with
    | bare name ticks all => exact ⟨all, all⟩
    | wait all slots => exact ⟨all, all⟩
  exact ⟨(modest_tick setup Action.rests_of_quiet first task carries.1).still,
    (modest_tick setup Action.rests_of_quiet second same carries.2).still⟩

theorem quiet_marks (texts : List String) :
    everywhereInList Action.quiet (texts.map .mark) = true := by
  induction texts with
  | nil => rfl
  | cons text texts ih => exact ih

/-- So do the guest's timers. -/
theorem still_of_polls (setup : Setup) {texts : List String}
    (marks : callback.next = texts.map .mark) {handle : Handle} {task : Task}
    (polls : Polls callback handle task) : (tick setup handle task).Still := by
  have carries : Task.Carries Action.quiet task := by
    obtain ⟨condition, onPage, rfl⟩ := polls
    intro sequel same
    rw [← Option.some.inj same, marks]
    exact quiet_marks texts
  exact (modest_tick setup Action.rests_of_quiet handle task carries).still

namespace Visiting

variable (setup : Setup) {target : Instant} {due : Clock.Due Task}

/-- If a timer ticks next that is not the guest's, its counterpart ticks next without the guest. -/
theorem tick_foreign (visiting : Visiting callback pairs plain full)
    (next : full.timers.nextDue? target = some due) (foreign : due.handle ∉ full.state.2.timers) :
    ∃ same grown, plain.timers.nextDue? target = some same ∧
      (tick setup same.handle same.task).Still ∧ (tick setup due.handle due.task).Still ∧
      (full.forget.TickKept (tick setup) due → plain.TickKept (tick setup) same) ∧
      (full.beat (tickVisited setup) due).state.2.begun = full.state.2.begun ∧
      Visiting callback grown (plain.beat (tick setup) same)
        (full.beat (tickVisited setup) due) := by
  obtain ⟨same, plainNext, paired, deadline, kin⟩ :=
    visiting.timers.nextDue?_some visiting.orderly next foreign
  obtain ⟨timer, takes⟩ := Clock.takes_of_nextDue? visiting.orderly next
  obtain ⟨plainStill, fullStill⟩ := still_of_kin setup kin same.handle due.handle
  -- Both timers tick alike.
  let frame : Frame := ⟨full.state.2.timers, full.timers.its full.state.2.timers, plain.state.log,
    full.state.1.log⟩
  obtain ⟨taken, polls⟩ := visiting.timers.taking paired deadline
  have before : Alike frame pairs { plain with timers := plain.timers.taking same }
      { full.forget with timers := full.timers.taking due } :=
    ⟨taken, polls, visiting.page, visiting.names, [], rfl, rfl⟩
  obtain ⟨keeps, grown, grows, after, left⟩ :=
    agrees_tick setup kin same.handle due.handle _ _ before
  obtain ⟨back, kept⟩ := after.timers.putBack (grows paired) left
  have alike : Alike frame grown (plain.beat (tick setup) same)
      (full.forget.beat (tick setup) due) :=
    ⟨back, kept.trans after.polls, after.page, after.names, after.logs⟩
  obtain ⟨-, timers, ticks, unasked, -⟩ := beat_visited setup due full
  obtain rfl := unasked foreign
  have known : full.state.2.timers.contains due.handle = false := by simpa using foreign
  rw [known] at ticks
  refine ⟨same, grown, plainNext, plainStill, fullStill,
    fun ticked => ⟨taken.kept ticked.kept, keeps ticked.keeps⟩, ?_, ?_⟩
  · rw [ticks]
    exact Bool.or_false _
  · rw [ticks]
    exact visiting.elsewhere alike (World.orderly_beat takes visiting.orderly visiting.settled)
      (World.settled_beat visiting.settled)

/-- If a timer of the guest ticks next, nothing happens without the guest. -/
theorem tick_own (visiting : Visiting callback pairs plain full) {texts : List String}
    (marks : callback.next = texts.map .mark)
    (next : full.timers.nextDue? target = some due) (own : due.handle ∈ full.state.2.timers) :
    (tick setup due.handle due.task).Still ∧
      (full.beat (tickVisited setup) due).state.2.begun = full.state.2.begun ∧
      Visiting callback pairs (plain.arrive due.deadline)
        (full.beat (tickVisited setup) due) := by
  obtain ⟨timer, takes⟩ := Clock.takes_of_nextDue? visiting.orderly next
  have member : (due.handle, timer) ∈ full.timers.its full.state.2.timers :=
    Clock.mem_its.mpr ⟨takes.member, own⟩
  obtain ⟨waits, only, polls⟩ : full.state.2.unresolved = true ∧
      full.timers.its full.state.2.timers = [(due.handle, timer)] ∧
      Polls callback due.handle due.task := by
    cases visiting.attending with
    | resolved _ gone =>
        rw [gone] at member
        exact absurd member List.not_mem_nil
    | polling waits only holds polls =>
        rw [only, List.mem_singleton] at member
        obtain ⟨rfl, rfl⟩ := Prod.mk.inj member
        rw [takes.task_eq] at holds
        rw [Option.some.inj holds]
        exact ⟨waits, only, polls⟩
  obtain ⟨begun, unended⟩ : full.state.2.begun = true ∧ full.state.2.ended = false := by
    simpa [Visit.unresolved] using waits
  obtain ⟨later, timers, ticks, -, asks⟩ := beat_visited setup due full
  have mem := asks own
  obtain ⟨document, -, page⟩ := visiting.page
  obtain ⟨others_eq, fresh, state, attending⟩ :=
    beat_polls full.forget marks visiting.orderly ⟨document, page⟩ only polls mem
  have contained : full.state.2.timers.contains due.handle = true := by simpa using own
  rw [contained] at ticks
  refine ⟨still_of_polls setup marks polls, ?_, ?_⟩
  · rw [ticks, begun]
    exact Bool.or_true _
  · rw [ticks]
    have before := visiting.arrive fun entry member => takes.deadline_le_due visiting.settled member
    refine before.own state (World.now_beat _ _ _) later others_eq (fun handle => (mem handle).mp)
      (World.orderly_beat takes visiting.orderly visiting.settled)
      (World.settled_beat visiting.settled) ?_
    rw [show (full.arrive due.deadline).state.2.ended = false from unended, Bool.false_or]
    exact attending

end Visiting

/-! ## Actions -/

/-- Whether an action moves the clock, or neither it nor anything that it can set off moves the
clock or clears the timers. -/
def Action.calm (action : Action) : Bool := action.moves || action.everywhere Action.quiet

/-- What a session does, it does with a guest as well, and comes to the same.  It meets a time that
cannot be kept only if that happens with the guest. -/
def Unhindered (setup : Setup) (callback : Callback) (plain : World.Clocked Task State)
    (full : World.Clocked Task (State × Visit)) (work : Work Outcome) : Prop :=
  ∃ outcome plainAfter fullAfter grown,
    ComesTo (fun ticks => plain.perform Clock.service (tick setup) ticks work)
      (outcome, plainAfter) ∧
    ComesTo (fun ticks => full.perform Clock.service (tickVisited setup) ticks
      (visited false work)) (outcome, fullAfter) ∧
    fullAfter.state.2.begun = full.state.2.begun ∧ Visiting callback grown plainAfter fullAfter ∧
    (Sound (fun ticks => full.forget.performKept Clock.service (tick setup) ticks work) →
      Sound fun ticks => plain.performKept Clock.service (tick setup) ticks work)

namespace Visiting

variable (setup : Setup) {texts : List String}

/-- A move of the clock lets the same timers tick, but for the guest's. -/
theorem drains (marks : callback.next = texts.map .mark) {target : Instant} {allowed : Nat}
    {after : World.Clocked Task (State × Visit)} (visiting : Visiting callback pairs plain full)
    (drained : World.drain Clock.service (tickVisited setup) allowed target full = some after) :
    ∃ plainAfter grown,
      ComesTo (fun ticks => World.drain Clock.service (tick setup) ticks target plain)
        plainAfter ∧
      after.state.2.begun = full.state.2.begun ∧ Visiting callback grown plainAfter after ∧
      (Sound (fun ticks =>
          World.drainKept Clock.service (tick setup) ticks target full.forget) →
        Sound fun ticks => World.drainKept Clock.service (tick setup) ticks target plain) := by
  induction allowed generalizing pairs plain full with
  | zero => exact absurd drained nofun
  | succ allowed ih =>
      cases next : full.timers.nextDue? target with
      | none =>
          rw [World.drain_rest next, Option.some.injEq] at drained
          subst drained
          have rests := visiting.timers.nextDue?_none visiting.orderly next
          refine ⟨plain.arrive target, pairs,
            ComesTo.succ (.always fun _ => rfl) (World.drain_rest rests), rfl, ?_,
            fun _ => World.sound_drainKept_rest rests⟩
          apply visiting.arrive
          intro entry member
          exact Nat.le_of_lt
            (Clock.lt_due_of_nextDue? next entry member (visiting.settled entry member))
      | some due =>
          by_cases own : due.handle ∈ full.state.2.timers
          · obtain ⟨still, begun, ticked⟩ := visiting.tick_own setup marks next own
            rw [World.drain_tick next (still_tickVisited still)] at drained
            obtain ⟨plainAfter, grown, comes, begun', onward, sound⟩ := ih ticked drained
            simp only [World.drain_atInstant] at comes
            simp only [World.drainKept_atInstant, forget_beat] at sound
            have shared : full.forget.timers.nextDue? target = some due := next
            refine ⟨plainAfter, grown, comes, begun'.trans begun, onward, fun kept => ?_⟩
            exact sound ((World.sound_drainKept_tick shared still).mp kept).2
          · obtain ⟨same, grown, plainNext, plainStill, fullStill, spared, begun, ticked⟩ :=
              visiting.tick_foreign setup next own
            rw [World.drain_tick next (still_tickVisited fullStill)] at drained
            obtain ⟨plainAfter, grown, comes, begun', onward, sound⟩ := ih ticked drained
            rw [forget_beat] at sound
            have shared : full.forget.timers.nextDue? target = some due := next
            refine ⟨plainAfter, grown, comes.succ (World.drain_tick plainNext plainStill),
              begun'.trans begun, onward, fun kept => ?_⟩
            obtain ⟨tickKept, rest⟩ := (World.sound_drainKept_tick shared fullStill).mp kept
            exact (World.sound_drainKept_tick plainNext plainStill).mpr
              ⟨spared tickKept, sound rest⟩

/-- An action that leaves the clock alone does the same with a guest and without. -/
theorem acts_still (visiting : Visiting callback pairs plain full) {work : Work Outcome}
    (still : work.Still) (agrees : ∀ frame, Agrees frame (fun _ => Eq) pairs work work) :
    Unhindered setup callback plain full work := by
  let frame : Frame := ⟨full.state.2.timers, full.timers.its full.state.2.timers, plain.state.log,
    full.state.1.log⟩
  have before : Alike frame pairs plain full.forget :=
    ⟨visiting.timers, rfl, visiting.page, visiting.names, [], rfl, rfl⟩
  obtain ⟨keeps, grown, -, after, same⟩ := agrees frame plain full.forget before
  obtain ⟨-, timers, acts, unasked, -⟩ := act_asked false work full
  obtain rfl := unasked rfl
  have ends := visiting.elsewhere after (World.orderly_act work visiting.orderly)
    (World.forall_timers_act work (fun _ _ _ => rfl) visiting.settled)
  refine ⟨(plain.act Clock.service work).1, _, _, grown,
    .always fun ticks => Routine.run_eq_act _ _ still plain, .always fun ticks => ?_, ?_, ends,
    fun kept =>
      World.sound_performKept_still still (keeps (Routine.keeps_of_runKept still (kept 0)))⟩
  · rw [World.perform, Routine.run_eq_act _ _ (still_visited false still), act_visited, acts]
    exact congrArg (fun outcome => some (outcome, _)) same.symm
  · exact Bool.or_false _

/-- A move of the clock does the same with a guest and without. -/
theorem advances (visiting : Visiting callback pairs plain full)
    (marks : callback.next = texts.map .mark) (span : Span) :
    Unhindered setup callback plain full (.advance span (.done .nothing)) := by
  -- A move ends with a guest because it ends without notes.
  obtain ⟨erased, comes, -⟩ := move_comesTo setup span full.forget visiting.orderly.regular
  obtain ⟨allowed, ends⟩ := comes.once
  have mirrored := World.drain_mirrors Clock.service (mirrors_tickVisited setup) allowed
    (full.timers.now + span) full
  rw [show World.drain _ _ allowed (full.timers.now + span) full.forget = some erased from ends]
    at mirrored
  obtain ⟨after, drained, -⟩ := Option.map_eq_some_iff.mp mirrored
  obtain ⟨plainAfter, grown, plainComes, begun, onward, sound⟩ :=
    visiting.drains setup marks drained
  have noted : after.state.2.ascribe false after.state.1.log = after.state.2 := by
    simpa using ascribe_append onward.recorded false []
  refine ⟨.nothing, plainAfter, after, grown, ?_, ?_, begun, onward, fun kept => ?_⟩
  · rw [visiting.timers.now_eq] at plainComes
    have comes := plainComes.map fun after => (Outcome.nothing, after)
    simp only [Option.map_eq_bind] at comes
    exact comes
  · have comes := (World.comesTo_drain_iff.mpr ⟨allowed, drained⟩).map fun after =>
      (Outcome.nothing, (⟨after.timers, after.state.1,
        after.state.2.ascribe false after.state.1.log⟩ : World.Clocked Task (State × Visit)))
    rw [noted] at comes
    simp only [Option.map_eq_bind] at comes
    exact comes
  · rw [World.sound_performKept_advance] at kept ⊢
    rw [← visiting.timers.now_eq]
    exact ⟨kept.1, sound kept.2⟩

/-- An action of the session does the same with a guest and without. -/
theorem acts (visiting : Visiting callback pairs plain full)
    (marks : callback.next = texts.map .mark) {action : Action} (calm : action.calm = true) :
    Unhindered setup callback plain full (perform setup action) := by
  cases Bool.or_eq_true_iff.mp calm with
  | inr all =>
      exact visiting.acts_still setup
        (modest_perform setup Action.rests_of_quiet action all).still
        fun frame => agrees_perform setup action all
  | inl moves =>
      obtain ⟨span, rfl⟩ := Action.exists_of_moves moves
      cases byHand : setup.byHand with
      | false =>
          have unsupported : perform setup (.advance span) = .done .unsupported := by
            simp [perform_advance, byHand]
          rw [unsupported]
          exact visiting.acts_still setup trivial fun frame => .done rfl
      | true =>
          have moved : perform setup (.advance span) = .advance span (.done .nothing) := by
            simp [perform_advance, byHand]
          rw [moved]
          exact visiting.advances setup marks span

/-- Starting the guest does nothing else. -/
theorem begins (visiting : Visiting callback pairs plain full)
    (unbegun : full.state.2.begun = false) {label : String} {target : Target}
    (onPage : target.onPage = true) (interval : Option Span)
    (same : callback = ⟨label, texts.map .mark⟩) :
    ∃ after,
      (∀ ticks, full.perform Clock.service (tickVisited setup) ticks
        (visited true (perform setup (.wait label target interval (texts.map .mark)))) =
          some (.nothing, after)) ∧
      Visiting callback pairs plain after := by
  let work := perform setup (.wait label target interval (texts.map .mark))
  have still : work.Still :=
    (modest_perform setup Action.rests_of_quiet _ (by
      rw [Action.everywhere, quiet_marks]
      rfl)).still
  obtain ⟨document, -, page⟩ := visiting.page
  have shown : ∃ document, full.forget.state.page = .snapshot document := ⟨document, page⟩
  obtain ⟨left, leaves, acts⟩ := leaves_perform setup label onPage interval texts shown
  obtain ⟨later, timers, asks, -, mem⟩ := act_asked true work full
  simp only [work, acts, true_and] at later asks mem
  have unended := visiting.unbegun unbegun
  have gone : full.timers.its full.state.2.timers = [] := by
    cases visiting.attending with
    | resolved settled gone => exact gone
    | polling waits => simp [Visit.unresolved, unbegun] at waits
  obtain ⟨others_eq, fresh, state, attending, -⟩ :=
    leaves.attending visiting.orderly.below_next gone mem
  have orderly : (full.forget.act Clock.service work).2.timers.Orderly :=
    World.orderly_act work visiting.orderly
  have settled : (full.forget.act Clock.service work).2.timers.Settled :=
    World.forall_timers_act work (fun _ _ _ => rfl) visiting.settled
  have now_eq := World.now_act full.forget work
  simp only [work, acts] at orderly settled now_eq
  refine ⟨_, fun ticks => ?_, visiting.own state now_eq later others_eq
    (fun handle => (mem handle).mp) orderly settled ?_⟩
  · rw [World.perform, Routine.run_eq_act _ _ (still_visited true still), act_visited, asks]
    rfl
  · rw [unended, Bool.false_or, same]
    exact attending

end Visiting

end PageWatch.Session
