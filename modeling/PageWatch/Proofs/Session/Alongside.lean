import PageWatch.Proofs.Clock.Alongside
import PageWatch.Proofs.Clock.Limit
import PageWatch.Proofs.Session.Actions

/-!
# Sessions that share timers

Two sessions on the same document may differ in some timers that only one of them has, and then in
the handles of those that they share.  What either does with shared timers, the other does as well:
the same is recorded, and the shared timers stay alike.  What is recorded elsewhere, and the timers
that are not shared, are left alone.

The sessions do not clear their timers, and only moves of the clock by the sessions themselves let
time go by.
-/

namespace PageWatch.Session

variable {α β γ δ : Type}

/-- Whether an action neither moves the clock nor clears the timers. -/
def Action.quiet (action : Action) : Bool := !action.moves && !action.clears

theorem Action.rests_of_quiet (action : Action) (quiet : action.quiet = true) :
    action.moves = false ∧ (action.clears = true → False) := by
  simpa [Action.quiet] using quiet

/-- Two timers that stand for each other. -/
abbrev Slots (pairs : Pairing) (plain full : Handle) : Prop := (plain, full) ∈ pairs

/-- Tasks that do the same with shared timers. -/
inductive Task.Kin (pairs : Pairing) : Task → Task → Prop
  | bare (name : String) (ticks : List (List Action))
    (all : everywhereInLists Action.quiet ticks = true) :
    Kin pairs (.bare name ticks) (.bare name ticks)
  | wait {condition : Condition} {callback : Option (Sequel Condition Callback)}
    {plain full : Option Handle}
    (all : Task.Carries Action.quiet (.wait ⟨condition, callback, plain⟩))
    (slots : Option.Rel (Slots pairs) plain full) :
    Kin pairs (.wait ⟨condition, callback, plain⟩) (.wait ⟨condition, callback, full⟩)

theorem Task.Kin.mono {pairs grown : Pairing} (grows : pairs ⊆ grown) {plain full : Task}
    (kin : Task.Kin pairs plain full) : Task.Kin grown plain full := by
  cases kin with
  | bare name ticks all => exact .bare name ticks all
  | wait all slots =>
      refine .wait all ?_
      cases slots with
      | none => exact .none
      | some paired => exact .some (grows paired)

/-- Names of timers that stand for each other. -/
abbrev Named (pairs : Pairing) (plain full : String × Handle) : Prop :=
  plain.1 = full.1 ∧ (plain.2, full.2) ∈ pairs

/-- What is left alone by actions on shared timers. -/
structure Frame where
  /-- The timers that only the full session has. -/
  mine : List Handle
  /-- Those of them that are on its clock. -/
  polls : List (Handle × Timer Task)
  /-- What was recorded before, in the plain session and in the full one. -/
  plainLog : List (Instant × Event)
  fullLog : List (Instant × Event)

/-- Two sessions that differ in some timers only. -/
structure Alike (frame : Frame) (pairs : Pairing) (plain full : World.Clocked Task State) :
    Prop where
  timers : plain.timers.Alongside frame.mine pairs (Task.Kin pairs) full.timers
  polls : full.timers.its frame.mine = frame.polls
  page : ∃ document, plain.state.page = .snapshot document ∧ full.state.page = .snapshot document
  names : List.Forall₂ (Named pairs) plain.state.names full.state.names
  logs : ∃ fresh, plain.state.log = fresh ++ frame.plainLog ∧
    full.state.log = fresh ++ frame.fullLog

/-- Two routines do the same in sessions that differ in some timers only, and end with results that
are related.  The first meets no time that cannot be kept if the second does not. -/
def Agrees (frame : Frame) (ends : Pairing → α → β → Prop) (pairs : Pairing) (first : Work α)
    (second : Work β) : Prop :=
  ∀ plain full, Alike frame pairs plain full →
    (second.Keeps full → first.Keeps plain) ∧
    ∃ grown, pairs ⊆ grown ∧
      Alike frame grown (plain.act Clock.service first).2 (full.act Clock.service second).2 ∧
      ends grown (plain.act Clock.service first).1 (full.act Clock.service second).1

namespace Agrees

variable {frame : Frame} {ends : Pairing → α → β → Prop} {last : Pairing → γ → δ → Prop}
  {pairs : Pairing}

theorem done {first : α} {second : β} (related : ends pairs first second) :
    Agrees frame ends pairs (.done first) (.done second) :=
  fun _ _ alike => ⟨id, pairs, fun _ member => member, alike, related⟩

theorem bind {first : Work α} {second : Work β} {rest : α → Work γ} {others : β → Work δ}
    (begins : Agrees frame ends pairs first second)
    (onward : ∀ grown, pairs ⊆ grown → ∀ result same, ends grown result same →
      Agrees frame last grown (rest result) (others same)) :
    Agrees frame last pairs (first.bind rest) (second.bind others) := by
  intro plain full alike
  obtain ⟨begun, grown, grows, after, related⟩ := begins plain full alike
  obtain ⟨kept, whole, extends', ended, results⟩ := onward grown grows _ _ related _ _ after
  rw [World.act_bind, World.act_bind, Routine.keeps_bind, Routine.keeps_bind]
  exact ⟨And.imp begun kept, whole, fun _ member => extends' (grows member), ended, results⟩

/-- Where two routines end with the same, what follows may depend on it. -/
theorem andThen {first second : Work α} {rest : α → Work γ} {others : α → Work δ}
    (begins : Agrees frame (fun _ => Eq) pairs first second)
    (onward : ∀ grown, pairs ⊆ grown → ∀ result,
      Agrees frame last grown (rest result) (others result)) :
    Agrees frame last pairs (first.bind rest) (second.bind others) :=
  begins.bind fun grown grows result _ same => same ▸ onward grown grows result

/-- Both sessions record what happens, and see the same time. -/
theorem record (event : Event) :
    Agrees frame (fun _ => Eq) pairs (Work.record event) (Work.record event) := by
  intro plain full alike
  obtain ⟨fresh, plainLog, fullLog⟩ := alike.logs
  refine ⟨id, pairs, fun _ member => member, ⟨alike.timers, alike.polls, alike.page, alike.names,
    (plain.timers.now, event) :: fresh, ?_, ?_⟩, rfl⟩
  · exact congrArg ((plain.timers.now, event) :: ·) plainLog
  · exact congrArg₂ (fun now log => (now, event) :: log) alike.timers.now_eq fullLog

/-- A change of the document is the same in both sessions. -/
theorem update {change : State → α × State}
    (does : ∀ document, ∃ answer changed, ∀ names log,
      change ⟨.snapshot document, names, log⟩ = (answer, ⟨.snapshot changed, names, log⟩)) :
    Agrees frame (fun _ => Eq) pairs (Routine.update change) (Routine.update change) := by
  intro plain full alike
  obtain ⟨document, plainPage, fullPage⟩ := alike.page
  obtain ⟨answer, changed, does⟩ := does document
  have changes (world : World.Clocked Task State) (page : world.state.page = .snapshot document) :
      change world.state = (answer, { world.state with page := .snapshot changed }) := by
    rw [← does, ← page]
  simp only [Routine.update, World.act_look, changes _ plainPage, changes _ fullPage,
    World.act_put, World.act_done]
  exact ⟨id, pairs, fun _ member => member, ⟨alike.timers, alike.polls, ⟨_, rfl, rfl⟩, alike.names,
    alike.logs⟩, trivial⟩

/-- A timer that is scheduled by both sessions is shared. -/
theorem schedule (interval : Span) {task : Handle → Task} {rest : Handle → Work α}
    {others : Handle → Work β}
    (kin : ∀ grown first second, Slots grown first second →
      Task.Kin grown (task first) (task second))
    (onward : ∀ grown, pairs ⊆ grown → ∀ first second, Slots grown first second →
      Agrees frame ends grown (rest first) (others second)) :
    Agrees frame ends pairs (.schedule interval task rest) (.schedule interval task others) := by
  intro plain full alike
  have grows : pairs ⊆ (⟨plain.timers.next⟩, ⟨full.timers.next⟩) :: pairs :=
    List.subset_cons_self _ _
  obtain ⟨timers, polls⟩ := alike.timers.schedule interval (fun _ _ => Task.Kin.mono grows)
    (kin _ _ _ (.head _))
  obtain ⟨kept, grown, extends', ended, results⟩ := onward _ grows _ _ (.head _)
    { plain with timers := (plain.timers.schedule interval task).2 }
    { full with timers := (full.timers.schedule interval task).2 }
    ⟨timers, polls.trans alike.polls, alike.page,
      alike.names.imp fun _ _ named => ⟨named.1, .tail _ named.2⟩, alike.logs⟩
  exact ⟨And.imp timers.kept kept, grown, fun _ member => extends' (grows member), ended, results⟩

/-- A shared timer may be cancelled by both sessions. -/
theorem cancel {first second : Handle} (paired : Slots pairs first second) {rest : Work α}
    {others : Work β} (onward : Agrees frame ends pairs rest others) :
    Agrees frame ends pairs (.cancel first rest) (.cancel second others) := by
  intro plain full alike
  obtain ⟨timers, polls⟩ := alike.timers.cancel paired
  exact onward { plain with timers := plain.timers.cancel first }
    { full with timers := full.timers.cancel second }
    ⟨timers, polls.trans alike.polls, alike.page, alike.names, alike.logs⟩

theorem cancelSlot {first second : Option Handle} (slots : Option.Rel (Slots pairs) first second) :
    Agrees frame (fun _ => Eq) pairs (Routine.cancelSlot first) (Routine.cancelSlot second) := by
  cases slots with
  | none => exact .done rfl
  | some paired => exact .cancel paired (.done rfl)

end Agrees

/-! ## Parts of a session -/

namespace Work

variable {frame : Frame} {pairs : Pairing} (setup : Setup)

theorem agrees_query (selector : String) :
    Agrees frame (fun _ => Eq) pairs (query setup selector) (query setup selector) := by
  have asks (grown : Pairing) : Agrees frame (fun _ => Eq) grown
      (Routine.update fun state =>
        ((state.page.select selector).1, { state with page := (state.page.select selector).2 }))
      (Routine.update fun state =>
        ((state.page.select selector).1,
          { state with page := (state.page.select selector).2 })) := by
    apply Agrees.update
    exact fun document => ⟨document.select selector, document, fun _ _ => rfl⟩
  rw [query]
  cases setup.queries with
  | true => exact (Agrees.record _).andThen fun grown _ _ => asks grown
  | false => exact asks pairs

theorem agrees_check (condition : Condition) :
    Agrees frame (fun _ => Eq) pairs (check setup condition) (check setup condition) := by
  cases condition with
  | page condition =>
      have checked : Agrees frame (fun _ => Eq) pairs (condition.check (query setup))
          (condition.check (query setup)) :=
        (agrees_query setup _).andThen fun _ _ _ => .done rfl
      exact checked.andThen fun _ _ _ => .done rfl
  | prepared label replies fallible => exact (Agrees.record _).andThen fun _ _ _ => .done rfl

/-- A row of waits comes to the same, and hands its callback on to timers that are shared. -/
theorem agrees_run {sequel : Sequel Condition Callback}
    (all : everywhereInList Action.quiet sequel.final.next = true) :
    Agrees frame (fun _ progress same => progress = same ∧ Brings Action.quiet progress) pairs
      (sequel.run (host setup)) (sequel.run (host setup)) := by
  induction sequel generalizing pairs with
  | callback value =>
      refine .done ⟨rfl, fun callback met => ?_⟩
      rw [Wait.Progress.met.inj met] at all
      exact all
  | wait condition interval sequel ih =>
      apply (agrees_check setup condition).andThen
      intro grown grows checked
      obtain ⟨answer, condition⟩ := checked
      rcases answer with error | _ | _
      · exact (Agrees.record _).andThen fun _ _ _ => .done ⟨rfl, nofun⟩
      · apply (Agrees.record _).andThen
        intro grown _ _
        apply Agrees.schedule
        · intro grown first second paired
          refine .wait (fun other same => ?_) (.some paired)
          rw [← Option.some.inj same]
          exact all
        · exact fun _ _ _ _ _ => .done ⟨rfl, nofun⟩
      · exact ih all

theorem agrees_awaitAll (waiter : Waiter Condition Callback)
    (all : everywhereInList Action.quiet waiter.sequel.final.next = true)
    (conditions : List Condition) :
    Agrees frame (fun _ progress same => progress = same ∧ Brings Action.quiet progress) pairs
      (waiter.awaitAll (host setup) conditions) (waiter.awaitAll (host setup) conditions) := by
  rw [Waiter.awaitAll_eq]
  apply agrees_run
  rw [Sequel.final_row]
  exact all

/-- What polls of waits that stand for each other come to. -/
abbrev Polled (pairs : Pairing)
    (plain full : Wait Condition (Sequel Condition Callback) × Wait.Progress Callback) : Prop :=
  Task.Kin pairs (.wait plain.1) (.wait full.1) ∧ plain.2 = full.2 ∧ Brings Action.quiet plain.2

theorem agrees_poll {condition : Condition} {callback : Option (Sequel Condition Callback)}
    {first second : Option Handle}
    (all : Task.Carries Action.quiet (.wait ⟨condition, callback, first⟩))
    (slots : Option.Rel (Slots pairs) first second) :
    Agrees frame Polled pairs
      (Wait.tick (host setup) (Sequel.run (host setup)) ⟨condition, callback, first⟩)
      (Wait.tick (host setup) (Sequel.run (host setup)) ⟨condition, callback, second⟩) := by
  cases callback with
  | none => exact .done ⟨.wait all slots, rfl, nofun⟩
  | some sequel =>
      have resting (grown : Pairing) (condition : Condition) :
          Task.Kin grown (.wait ⟨condition, none, none⟩) (.wait ⟨condition, none, none⟩) :=
        .wait nofun .none
      apply (agrees_check setup condition).andThen
      intro grown grows checked
      obtain ⟨answer, condition⟩ := checked
      have slots : Option.Rel (Slots grown) first second := by
        cases slots with
        | none => exact .none
        | some paired => exact .some (grows paired)
      rcases answer with error | _ | _
      · exact (Agrees.cancelSlot slots).andThen fun _ _ _ =>
          (Agrees.record _).andThen fun grown _ _ =>
            .done ⟨resting grown condition, rfl, nofun⟩
      · exact .done ⟨.wait all slots, rfl, nofun⟩
      · exact (Agrees.cancelSlot slots).andThen fun _ _ _ =>
          (Agrees.record _).andThen fun _ _ _ =>
            (agrees_run setup (all sequel rfl)).bind fun grown _ _ _ related =>
              .done ⟨resting grown condition, related⟩

theorem agrees_setValue (selector value : String) :
    Agrees frame (fun _ => Eq) pairs (setValue selector value) (setValue selector value) := by
  apply Agrees.andThen
  · apply Agrees.update
    intro document
    simp only
    cases document.setValue selector value with
    | error error => exact ⟨.failed error, document, fun _ _ => rfl⟩
    | ok changed => exact ⟨.count changed.1, changed.2, fun _ _ => rfl⟩
  · intro grown grows outcome
    cases outcome with
    | count controls => exact (Agrees.record _).andThen fun _ _ _ => .done rfl
    | nothing | unsupported | noSuchName | unknownAction | nodes | failed => exact .done rfl

/-- A name stands for shared timers, or for none. -/
theorem lookup_named {plain full : List (String × Handle)}
    (names : List.Forall₂ (Named pairs) plain full) (name : String) :
    Option.Rel (Slots pairs) (plain.lookup name) (full.lookup name) := by
  induction names with
  | nil => exact .none
  | @cons first second _ _ named _ ih =>
      obtain ⟨text, handle⟩ := first
      obtain ⟨_, other⟩ := second
      obtain ⟨rfl, paired⟩ := named
      rw [List.lookup_cons, List.lookup_cons]
      cases name == text with
      | true => exact .some paired
      | false => exact ih

theorem agrees_simple {action : Action} (quiet : action.quiet = true)
    (all : action.everywhere Action.quiet = true) :
    Agrees frame (fun _ => Eq) pairs (simple setup action) (simple setup action) := by
  cases action with
  | advance | clear => exact absurd quiet nofun
  | mark text => exact (Agrees.record _).andThen fun _ _ _ => .done rfl
  | schedule name interval ticks =>
      rw [Action.everywhere, Bool.and_eq_true] at all
      apply Agrees.schedule
      · exact fun _ _ _ _ => .bare name ticks all.2
      · intro grown grows first second paired plain full alike
        refine ⟨id, grown, fun _ member => member,
          ⟨alike.timers, alike.polls, alike.page, ?_, alike.logs⟩, rfl⟩
        refine .cons ⟨rfl, paired⟩ (List.rel_filter (fun former other named => ?_) alike.names)
        simp [named.1]
  | cancel name =>
      intro plain full alike
      have names := lookup_named alike.names name
      simp only [simple, Routine.state, Routine.bind_eq, Routine.bind, Routine.Keeps,
        World.act_look]
      generalize plain.state.names.lookup name = first at names
      generalize full.state.names.lookup name = second at names
      cases names with
      | none => exact Agrees.done rfl plain full alike
      | some paired => exact Agrees.cancel paired (.done rfl) plain full alike
  | load html =>
      apply Agrees.update
      exact fun _ => ⟨.nothing, Snapshot.parse html, fun _ _ => rfl⟩
  | set selector value => exact agrees_setValue selector value
  | reply selector replies =>
      apply Agrees.update
      exact fun document => ⟨.unsupported, document, fun _ _ => rfl⟩
  | select selector =>
      apply (agrees_query setup selector).andThen
      intro grown grows answer
      cases answer with
      | error error => exact .done rfl
      | ok found => exact .done rfl
  | sleep | jump | wait | unknown => exact .done rfl

mutual

/-- Actions that neither move the clock nor clear the timers do the same in both sessions. -/
theorem agrees_perform {frame : Frame} {pairs : Pairing} (setup : Setup) :
    ∀ action : Action, action.everywhere Action.quiet = true →
      Agrees frame (fun _ => Eq) pairs (perform setup action) (perform setup action)
  | .wait label target interval next, all => by
      rw [Action.everywhere, Bool.and_eq_true] at all
      apply (agrees_awaitAll setup ⟨.callback ⟨label, next⟩, _⟩ all.2 _).bind
      rintro grown grows progress _ ⟨rfl, brings⟩
      cases progress with
      | met callback =>
          exact (Agrees.record _).andThen fun _ _ _ =>
            (agrees_performAll setup next all.2).andThen fun _ _ _ => .done rfl
      | waiting | dropped => exact .done rfl
  | .mark _, all | .advance _, all | .sleep _, all | .jump _, all | .clear, all
  | .schedule _ _ _, all | .cancel _, all | .load _, all | .set _ _, all | .reply _ _, all
  | .select _, all | .unknown, all =>
      agrees_simple setup (Action.holds_of_everywhere all) all

theorem agrees_performAll {frame : Frame} {pairs : Pairing} (setup : Setup) :
    ∀ actions : List Action, everywhereInList Action.quiet actions = true →
      Agrees frame (fun _ => Eq) pairs (performAll setup actions) (performAll setup actions)
  | [], _ => .done rfl
  | action :: more, all => by
      rw [everywhereInList, Bool.and_eq_true] at all
      rw [performAll]
      apply (agrees_perform setup action all.1).andThen
      intro grown grows outcome
      by_cases telling : outcome ≠ .nothing
      · simp only [if_pos telling]
        exact (Agrees.record _).andThen fun _ _ _ => agrees_performAll setup more all.2
      · simp only [if_neg telling]
        exact agrees_performAll setup more all.2

end

/-- Timers that stand for each other do the same at a tick, and go on to stand for each other. -/
theorem agrees_tick {plain full : Task} (kin : Task.Kin pairs plain full) (first second : Handle) :
    Agrees frame Task.Kin pairs (tick setup first plain) (tick setup second full) := by
  cases kin with
  | bare name ticks all =>
      apply (Agrees.record _).andThen
      intro grown grows _
      cases ticks with
      | nil => exact .done (.bare name [] all)
      | cons actions more =>
          rw [everywhereInLists, Bool.and_eq_true] at all
          exact (agrees_performAll setup actions all.1).andThen fun _ _ _ =>
            .done (.bare name more all.2)
  | wait all slots =>
      apply (agrees_poll setup all slots).bind
      rintro grown grows ⟨plain, progress⟩ ⟨full, _⟩ ⟨kin, rfl, brings⟩
      cases progress with
      | met callback =>
          exact (Agrees.record _).andThen fun _ before _ =>
            (agrees_performAll setup callback.next (brings callback rfl)).andThen
              fun _ after _ => .done (kin.mono (List.Subset.trans before after))
      | waiting | dropped => exact .done kin

end Work

end PageWatch.Session
