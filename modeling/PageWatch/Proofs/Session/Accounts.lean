import PageWatch.Proofs.Session.Books
import PageWatch.Proofs.Session.Ending

/-!
# Sessions neither leak timers nor lose them

Every routine of a session keeps its books balanced: the checks do not touch them, a wait that
begins or is polled settles its own accounts before anything else happens, and bare timers are
scheduled and cancelled by name.  Callbacks and ticks may move the clock, so ticks are nested, and
during a tick the timer that ticks is without its task.  What carries the proof is that handles are
given once: what was foreign to the waits or gone when a tick began is so when it ends.
-/

namespace PageWatch.Session

open Work

variable {α β : Type} {setup : Setup} {world : World.Clocked Task (State × Ledger)}

/-! ## Routines that leave the books alone -/

theorem noted_bind (wait? : Option Nat) (work : Work α) (rest : α → Work β) :
    noted wait? (work.bind rest) =
      (noted wait? work).bind fun result => noted wait? (rest result) := by
  simp only [noted, Routine.beside_bind, Routine.watched_bind]

theorem still_noted (wait? : Option Nat) {work : Work α} (still : work.Still) :
    (noted wait? work).Still :=
  still.beside.watched _

@[simp] theorem act_noted_done (wait? : Option Nat) (result : α)
    (world : World.Clocked Task (State × Ledger)) :
    World.act Clock.service (noted wait? (.done result)) world = (result, world) := rfl

/-- A timer that is scheduled gets into the books. -/
theorem books_schedule (wait? : Option Nat) (interval : Span) (task : Handle → Task) (result : α)
    (world : World.Clocked Task (State × Ledger)) :
    let ended := World.act Clock.service
      (noted wait? (.schedule interval task fun _ => .done result)) world
    ended.1 = result ∧ booksOf ended.2 = (booksOf world).schedule wait? interval task :=
  ⟨rfl, rfl⟩

/-- A routine that leaves the books of a session alone. -/
def Quiet (work : Work α) : Prop :=
  ∀ wait? world, booksOf (World.act Clock.service (noted wait? work) world).2 = booksOf world

namespace Quiet

theorem done (result : α) : Quiet (.done result) := fun _ _ => rfl

theorem bind {work : Work α} {rest : α → Work β} (first : Quiet work)
    (second : ∀ result, Quiet (rest result)) : Quiet (work.bind rest) := by
  intro wait? world
  rw [noted_bind, World.act_bind, second _ wait?, first wait?]

theorem update {change : State → α × State} (same : ∀ state, (change state).2.names = state.names) :
    Quiet (Routine.update change) := by
  intro wait? world
  show Books.mk _ (change world.state.1).2.names _ = _
  rw [same]
  rfl

theorem modify {change : Instant → State → State}
    (same : ∀ now state, (change now state).names = state.names) :
    Quiet (Routine.modify change) := by
  intro wait? world
  show Books.mk _ (change _ world.state.1).names _ = _
  rw [same]
  rfl

end Quiet

theorem quiet_record (event : Event) : Quiet (record event) := .modify fun _ _ => rfl

theorem quiet_query (setup : Setup) (selector : String) : Quiet (query setup selector) := by
  rw [query]
  cases setup.queries with
  | true =>
      apply (quiet_record _).bind
      intro _
      apply Quiet.update
      exact fun _ => rfl
  | false =>
      rw [if_neg Bool.false_ne_true]
      apply Quiet.update
      exact fun _ => rfl

theorem quiet_check (setup : Setup) (condition : Condition) : Quiet (check setup condition) := by
  cases condition with
  | page condition => exact ((quiet_query setup _).bind fun _ => .done _).bind fun _ => .done _
  | prepared label replies fallible => exact (quiet_record _).bind fun _ => .done _

theorem quiet_setValue (selector value : String) : Quiet (setValue selector value) := by
  apply Quiet.bind
  · apply Quiet.update
    intro state
    cases state.page with
    | scripted page => rfl
    | snapshot document =>
        simp only
        cases document.setValue selector value <;> rfl
  · intro outcome
    cases outcome with
    | count controls => exact (quiet_record _).bind fun _ => .done _
    | nothing | unsupported | noSuchName | unknownAction | nodes | failed => exact .done _

/-! ## Waits settle their accounts -/

/-- What a wait comes to on its way to its callback.  It gets there, or a new timer polls for it,
or it is dropped. -/
inductive Carried (wait? : Option Nat) (before : Books) (callback : Callback) :
    Wait.Progress Callback → Books → Prop
  | met : Carried wait? before callback (.met callback) before
  | waiting (interval : Span) (condition : Condition) (sequel : Sequel Condition Callback) :
      sequel.final = callback →
      Carried wait? before callback .waiting
        (before.schedule wait? interval fun handle => .wait ⟨condition, some sequel, some handle⟩)
  | dropped : Carried wait? before callback .dropped before

theorem Carried.eq_of_met {wait? : Option Nat} {before after : Books} {value callback : Callback}
    {progress : Wait.Progress Callback} (carried : Carried wait? before value progress after)
    (met : progress = .met callback) : callback = value := by
  subst met
  cases carried
  rfl

theorem carried_run (setup : Setup) (wait? : Option Nat) (sequel : Sequel Condition Callback)
    (world : World.Clocked Task (State × Ledger)) :
    let ended := World.act Clock.service (noted wait? (sequel.run (host setup))) world
    Carried wait? (booksOf world) sequel.final ended.1 (booksOf ended.2) := by
  induction sequel generalizing world with
  | callback value => exact .met
  | wait condition interval sequel ih =>
      have quiet := quiet_check setup condition wait? world
      simp only [Sequel.run, Wait.start, Routine.bind_eq, noted_bind, World.act_bind, host]
      generalize World.act Clock.service (noted wait? (check setup condition)) world = checked
        at quiet ⊢
      obtain ⟨⟨answer, condition⟩, after⟩ := checked
      rcases answer with error | _ | _
      · have reported := quiet_record (.notice (.waitDropped error)) wait? after
        simp only [noted_bind, World.act_bind, report, Routine.pure_eq, act_noted_done]
        rw [reported, quiet]
        exact .dropped
      · have reported := quiet_record (.notice (.polling interval.wholeMs)) wait? after
        simp only [noted_bind, World.act_bind, report, Routine.pure_eq, books_schedule]
        rw [reported, quiet]
        exact .waiting interval condition sequel rfl
      · rw [← quiet]
        exact ih after

/-- What a wait comes to is settled when it has a timer again or needs none. -/
theorem Carried.settle {number : Nat} {before after : Books} {callback : Callback}
    {progress : Wait.Progress Callback}
    (carried : Carried (some number) before callback progress after)
    (balanced : before.Balanced [number]) (free : clearFree callback.next = true) :
    (after.enter (Ledger.settle (some number) progress)).Balanced [] ∧
      Books.Grows before (after.enter (Ledger.settle (some number) progress)) := by
  have noteGrows (books : Books) :
      Books.Grows books (books.enter (Ledger.settle (some number) progress)) :=
    Books.grows_enter (Books.settle_eq _ _ _).2.2
  cases carried with
  | met => exact ⟨balanced.settle nofun, noteGrows _⟩
  | dropped => exact ⟨balanced.settle nofun, noteGrows _⟩
  | waiting interval condition sequel ends =>
      refine ⟨?_, (Books.grows_schedule _ _ _ _).trans (noteGrows _)⟩
      have kept (books : Books) : books.enter (Ledger.settle (some number) .waiting) = books := rfl
      rw [kept]
      apply Books.Balanced.schedule interval
      · exact balanced
      · exact ⟨condition, sequel, number, rfl, List.mem_append_right _ (.head _), ends ▸ free⟩

/-- A wait begins with balanced books and leaves them balanced. -/
theorem balanced_awaitNoted (setup : Setup) (label : String) (target : Target)
    (interval : Option Span) {next : List Action} (free : clearFree next = true)
    (balanced : (booksOf world).Balanced []) :
    let ended := World.act Clock.service (awaitNoted setup label target interval next) world
    (booksOf ended.2).Balanced [] ∧ Books.Grows (booksOf world) (booksOf ended.2) ∧
      ∀ callback, ended.1 = .met callback → callback = ⟨label, next⟩ := by
  have carried := carried_run setup (some world.state.2.begun)
    (Sequel.row (interval.getD (usualInterval setup target)) (.callback ⟨label, next⟩)
      (conditions label target))
    ⟨world.timers, world.state.1, world.state.2.begin⟩
  rw [Sequel.final_row] at carried
  have begins : Books.Grows (booksOf world) ((booksOf world).enter Ledger.begin) :=
    Books.grows_enter rfl
  obtain ⟨settled, grows⟩ := carried.settle balanced.begin free
  simp only [awaitNoted, Waiter.awaitAll_eq, World.act_look, World.act_bind]
  refine ⟨settled, begins.trans grows, ?_⟩
  intro callback met
  simp only [World.act_done] at met
  exact carried.eq_of_met met

/-- The timer of a wait ticks.  Afterwards its task is as before, or the timer is gone. -/
inductive Polled (before after : Books) (handle : Handle) (sequel : Sequel Condition Callback) :
    Wait Condition (Sequel Condition Callback) → Wait.Progress Callback → Prop
  | held (condition : Condition) : after = before →
      Polled before after handle sequel ⟨condition, some sequel, some handle⟩ .waiting
  | ended {wait : Wait Condition (Sequel Condition Callback)} {progress : Wait.Progress Callback} :
      after.Gone handle → (∀ callback, progress = .met callback → callback = sequel.final) →
      Polled before after handle sequel wait progress

/-- A wait is polled with balanced books and leaves them balanced. -/
theorem balanced_pollNoted (setup : Setup) {handle : Handle} {condition : Condition}
    {sequel : Sequel Condition Callback} {number : Nat}
    (polls : (handle, number) ∈ world.state.2.polls)
    (free : clearFree sequel.final.next = true) (balanced : (booksOf world).Balanced []) :
    let ended := World.act Clock.service
      (pollNoted setup handle ⟨condition, some sequel, some handle⟩) world
    (booksOf ended.2).Balanced [] ∧ Books.Grows (booksOf world) (booksOf ended.2) ∧
      Polled (booksOf world) (booksOf ended.2) handle sequel ended.1.1 ended.1.2 := by
  have owner : world.state.2.pollOf? handle = some number := balanced.pollOf?_eq polls
  have given : handle.number < (booksOf world).clock.next :=
    balanced.below handle (balanced.handle_mem polls)
  have stopped : ((booksOf world).cancel handle).Balanced [number] := by
    have cancelled := balanced.cancel handle
    rwa [show (booksOf world).ledger.pollOf? handle = some number from owner] at cancelled
  have stops := Books.grows_cancel handle (booksOf world)
  have gone := Books.gone_cancel given
  have quiet := quiet_check setup condition (some number) world
  simp only [pollNoted, Wait.tick, World.act_look, World.act_bind, owner, Routine.bind_eq,
    noted_bind, host]
  generalize World.act Clock.service (noted (some number) (check setup condition)) world = checked
    at quiet ⊢
  obtain ⟨⟨answer, condition⟩, after⟩ := checked
  -- If the check decides, the timer is cancelled before anything else happens.
  let away := (World.act Clock.service
    (noted (some number) (Routine.cancelSlot (some handle))) after).2
  have away_eq : booksOf away = (booksOf world).cancel handle := by
    rw [← quiet]
    rfl
  rcases answer with error | _ | _
  · have reported := quiet_record (.notice (.waitDropped error)) (some number) away
    have ended : Carried (some number) (booksOf away) sequel.final .dropped
        (booksOf (World.act Clock.service (noted (some number)
          (record (.notice (.waitDropped error)))) away).2) := reported ▸ .dropped
    rw [away_eq] at ended
    obtain ⟨settled, grows⟩ := ended.settle stopped free
    simp only [noted_bind, World.act_bind, report, Routine.pure_eq, act_noted_done]
    exact ⟨settled, stops.trans grows, .ended (grows.gone handle gone) nofun⟩
  · simp only [Routine.pure_eq, act_noted_done]
    have same : booksOf after = booksOf world := quiet
    exact ⟨same ▸ balanced, same ▸ .refl _, .held condition same⟩
  · have reported := quiet_record (.notice .conditionMet) (some number) away
    have carried := carried_run setup (some number) sequel
      (World.act Clock.service (noted (some number) (record (.notice .conditionMet))) away).2
    rw [reported, away_eq] at carried
    obtain ⟨settled, grows⟩ := carried.settle stopped free
    simp only [noted_bind, World.act_bind, report, Routine.pure_eq, act_noted_done]
    exact ⟨settled, stops.trans grows,
      .ended (grows.gone handle gone) fun callback met => carried.eq_of_met met⟩

/-! ## Whole runs -/

/-- From one moment to another, balanced books stay balanced. -/
def Leads (before after : World.Clocked Task (State × Ledger)) : Prop :=
  (booksOf before).Balanced [] →
    (booksOf after).Balanced [] ∧ Books.Grows (booksOf before) (booksOf after)

namespace Leads

variable {first second third : World.Clocked Task (State × Ledger)}

theorem of_eq (same : booksOf second = booksOf first) : Leads first second := by
  intro balanced
  rw [same]
  exact ⟨balanced, .refl _⟩

theorem trans (left : Leads first second) (right : Leads second third) : Leads first third := by
  intro balanced
  obtain ⟨between, grows⟩ := left balanced
  obtain ⟨last, more⟩ := right between
  exact ⟨last, grows.trans more⟩

end Leads

/-- A routine that leads from balanced books to balanced books, for some way to move the clock. -/
def Leading
    (move : Span → World.Clocked Task (State × Ledger) →
      Option (World.Clocked Task (State × Ledger)))
    (routine : Noted α) : Prop :=
  ∀ world ended, routine.run Clock.service move world = some ended → Leads world ended.2

section Leading

variable {move : Span → World.Clocked Task (State × Ledger) →
  Option (World.Clocked Task (State × Ledger))}

namespace Leading

theorem still {routine : Noted α} (still : routine.Still)
    (leads : ∀ world, Leads world (World.act Clock.service routine world).2) :
    Leading move routine := by
  intro world ended ran
  rw [Routine.run_eq_act _ _ still] at ran
  rw [← Option.some.inj ran]
  exact leads world

theorem quiet (wait? : Option Nat) {work : Work α} (still : work.Still) (quiet : Quiet work) :
    Leading move (noted wait? work) :=
  .still (still_noted wait? still) fun world => .of_eq (quiet wait? world)

theorem done (result : α) : Leading move (.done result) := by
  intro world ended ran
  rw [← Option.some.inj ran]
  exact .of_eq rfl

theorem bind {routine : Noted α} {rest : α → Noted β} (first : Leading move routine)
    (second : ∀ result, Leading move (rest result)) : Leading move (routine.bind rest) := by
  intro world ended ran
  rw [Routine.run_bind] at ran
  obtain ⟨middle, reached, onward⟩ := Option.bind_eq_some_iff.mp ran
  exact (first world middle reached).trans (second middle.1 middle.2 ended onward)

/-- What follows a routine may be no more than a result. -/
theorem ends {routine : Noted α} (leading : Leading move routine) {result : β}
    {world : World.Clocked Task (State × Ledger)} {ended : β × World.Clocked Task (State × Ledger)}
    (ran : (routine.bind fun _ => .done result).run Clock.service move world = some ended) :
    ended.1 = result ∧ Leads world ended.2 := by
  rw [Routine.run_bind] at ran
  obtain ⟨middle, reached, last⟩ := Option.bind_eq_some_iff.mp ran
  rw [← Option.some.inj last]
  exact ⟨rfl, leading world middle reached⟩

end Leading

theorem leading_record (event : Event) : Leading move (noted none (record event)) :=
  .quiet none (still_record event) (quiet_record event)

/-- A bare timer is scheduled under its name. -/
theorem leading_schedule (setup : Setup) (name : String) (interval : Span)
    {ticks : List (List Action)}
    (free : everywhereInLists (fun action => !action.clears) ticks = true) :
    Leading move (noted none (simple setup (.schedule name interval ticks))) := by
  have still : (simple setup (.schedule name interval ticks)).Still := fun _ _ _ => trivial
  apply Leading.still (still_noted none still)
  intro world balanced
  let scheduled := (booksOf world).schedule none interval fun _ => .bare name ticks
  have foreign : scheduled.Foreign ⟨world.timers.next⟩ := by
    refine ⟨Nat.lt_succ_self _, ?_⟩
    intro wait member
    exact balanced.fresh (balanced.handle_mem member)
  have grows : Books.Grows (booksOf world) scheduled := Books.grows_schedule _ _ _ _
  have after : scheduled.Balanced [] := Books.Balanced.schedule interval balanced ⟨foreign, free⟩
  refine ⟨after.rename ?_, grows.foreign, grows.gone⟩
  intro known handle member
  cases List.mem_cons.mp member with
  | inl member => exact (Prod.mk.inj member).2 ▸ foreign
  | inr member =>
      exact grows.foreign handle (balanced.names known handle (List.mem_filter.mp member).1)

/-- A bare timer is cancelled by its name, and no wait loses a timer. -/
theorem leading_cancel (setup : Setup) (name : String) :
    Leading move (noted none (simple setup (.cancel name))) := by
  have modest : (simple setup (.cancel name)).Modest True (Task.Carries fun _ => true) fun _ =>
      True := modest_simple setup rfl (fun _ => trivial) rfl
  apply Leading.still (still_noted none modest.still)
  intro world balanced
  cases found : world.state.1.names.lookup name with
  | none =>
      have same : booksOf (World.act Clock.service
          (noted none (simple setup (.cancel name))) world).2 = booksOf world := by
        simp only [simple, Routine.state, Routine.bind_eq, Routine.bind, noted, Routine.beside,
          Routine.watched, World.act_look, found]
        rfl
      rw [same]
      exact ⟨balanced, .refl _⟩
  | some handle =>
      have stopped : booksOf (World.act Clock.service
          (noted none (simple setup (.cancel name))) world).2 = (booksOf world).cancel handle := by
        simp only [simple, Routine.state, Routine.bind_eq, Routine.bind, noted, Routine.beside,
          Routine.watched, World.act_look, found]
        rfl
      rw [stopped]
      refine ⟨?_, Books.grows_cancel _ _⟩
      obtain ⟨front, back, split, -⟩ := List.lookup_eq_some_iff.mp found
      have foreign : (booksOf world).Foreign handle := by
        apply balanced.names name handle
        show (name, handle) ∈ world.state.1.names
        simp [split]
      have cancelled := balanced.cancel handle
      rwa [foreign.pollOf?_eq] at cancelled

theorem leading_awaitNoted (setup : Setup) (label : String) (target : Target)
    (interval : Option Span) {next : List Action} (free : clearFree next = true) :
    Leading move (awaitNoted setup label target interval next) := by
  apply Leading.still
  · intro _ _ _ _
    exact (still_noted _ (still_awaitAll setup _ _)).bind fun _ _ _ => trivial
  · intro world balanced
    obtain ⟨after, grows, -⟩ :=
      balanced_awaitNoted setup label target interval free balanced
    exact ⟨after, grows⟩

theorem leading_simple (setup : Setup) {action : Action}
    (moves : ∀ span world after, move span world = some after → Leads world after)
    (free : action.everywhere (fun action => !action.clears) = true) :
    Leading move (noted none (simple setup action)) := by
  have still (stays : action.moves = false) : (simple setup action).Still := by
    have modest : (simple setup action).Modest True (Task.Carries fun action => !action.clears)
        fun _ => True := modest_simple setup stays (fun _ => trivial) free
    exact modest.still
  cases action with
  | advance span =>
      intro world ended ran
      rw [simple] at ran
      cases byHand : setup.byHand with
      | false =>
          rw [byHand] at ran
          exact .of_eq (by rw [← Option.some.inj ran])
      | true =>
          rw [byHand] at ran
          obtain ⟨moved, reached, done⟩ := Option.bind_eq_some_iff.mp ran
          rw [← Option.some.inj done]
          exact moves span world moved reached
  | clear => simp [Action.everywhere, Action.clears] at free
  | schedule name interval ticks =>
      rw [Action.everywhere, Bool.and_eq_true] at free
      exact leading_schedule setup name interval free.2
  | cancel name => exact leading_cancel setup name
  | mark text => exact .quiet none (still rfl) ((quiet_record _).bind fun _ => .done _)
  | load html =>
      apply Leading.quiet none (still rfl)
      apply Quiet.update
      intro state
      cases state.page <;> rfl
  | set selector value => exact .quiet none (still rfl) (quiet_setValue selector value)
  | reply selector replies =>
      apply Leading.quiet none (still rfl)
      apply Quiet.update
      intro state
      cases state.page <;> rfl
  | select selector =>
      apply Leading.quiet none (still rfl)
      apply (quiet_query setup selector).bind
      intro answer
      cases answer <;> exact .done _
  | sleep | jump | wait | unknown => exact .done _

mutual

theorem leading_performNoted
    (moves : ∀ span world after, move span world = some after → Leads world after) :
    ∀ action : Action, action.everywhere (fun action => !action.clears) = true →
      Leading move (performNoted setup action)
  | .wait label target interval next, free => by
      rw [Action.everywhere, Bool.and_eq_true] at free
      apply (leading_awaitNoted setup label target interval free.2).bind
      intro progress
      cases progress with
      | met callback =>
          exact (leading_record _).bind fun _ =>
            (leading_performAllNoted moves next free.2).bind fun _ => .done _
      | waiting | dropped => exact .done _
  | .mark _, free | .advance _, free | .sleep _, free | .jump _, free | .clear, free
  | .schedule _ _ _, free | .cancel _, free | .load _, free | .set _ _, free | .reply _ _, free
  | .select _, free | .unknown, free => leading_simple setup moves free

theorem leading_performAllNoted
    (moves : ∀ span world after, move span world = some after → Leads world after) :
    ∀ actions : List Action, clearFree actions = true →
      Leading move (performAllNoted setup actions)
  | [], _ => .done ()
  | action :: more, free => by
      rw [clearFree, everywhereInList, Bool.and_eq_true] at free
      apply (leading_performNoted moves action free.1).bind
      intro outcome
      by_cases telling : outcome ≠ .nothing
      · simp only [if_pos telling]
        exact (leading_record _).bind fun _ => leading_performAllNoted moves more free.2
      · simp only [if_neg telling]
        exact leading_performAllNoted moves more free.2

end

/-- A tick leaves a task that fits its timer, or the timer is gone. -/
def Returns (handle : Handle) (task : Task) (books : Books) : Prop :=
  books.Fits handle task ∨ books.Gone handle

/-- What a tick does, whatever the timer, if ticks that are nested in it do so. -/
theorem leads_tickNoted (setup : Setup)
    (moves : ∀ span world after, move span world = some after → Leads world after)
    {handle : Handle} {task : Task} {world : World.Clocked Task (State × Ledger)}
    {ended : Task × World.Clocked Task (State × Ledger)}
    (fits : (booksOf world).Fits handle task) (balanced : (booksOf world).Balanced [])
    (ran : (tickNoted setup handle task).run Clock.service move world = some ended) :
    (booksOf ended.2).Balanced [] ∧ Books.Grows (booksOf world) (booksOf ended.2) ∧
      Returns handle ended.1 (booksOf ended.2) := by
  cases task with
  | bare name ticks =>
      obtain ⟨foreign, free⟩ := fits
      cases ticks with
      | nil =>
          obtain ⟨result, leads⟩ := (leading_record (.tick name)).ends ran
          obtain ⟨after, grows⟩ := leads balanced
          rw [result]
          exact ⟨after, grows, .inl ⟨grows.foreign handle foreign, free⟩⟩
      | cons actions more =>
          rw [everywhereInLists, Bool.and_eq_true] at free
          have performs : Leading move ((noted none (record (.tick name))).bind fun _ =>
              performAllNoted setup actions) :=
            (leading_record _).bind fun _ => leading_performAllNoted moves actions free.1
          obtain ⟨result, leads⟩ := performs.ends ran
          obtain ⟨after, grows⟩ := leads balanced
          rw [result]
          exact ⟨after, grows, .inl ⟨grows.foreign handle foreign, free.2⟩⟩
  | wait wait =>
      obtain ⟨condition, sequel, number, rfl, polls, free⟩ := fits
      have stillPoll : (pollNoted setup handle ⟨condition, some sequel, some handle⟩).Still := by
        intro _ _
        exact (still_noted _ (still_poll setup _)).bind fun _ _ _ => trivial
      obtain ⟨settled, grows, polled⟩ := balanced_pollNoted setup polls free balanced
      rw [tickNoted, Routine.bind_eq, Routine.run_bind, Routine.run_eq_act _ _ stillPoll] at ran
      generalize World.act Clock.service (pollNoted setup handle _) world = poll
        at ran settled grows polled
      obtain ⟨⟨left, progress⟩, middle⟩ := poll
      cases polled with
      | held condition same =>
          rw [← Option.some.inj ran]
          refine ⟨settled, grows, .inl ?_⟩
          show (booksOf middle).Fits handle _
          rw [show booksOf middle = booksOf world from same]
          exact ⟨condition, sequel, number, rfl, polls, free⟩
      | ended gone last =>
          cases progress with
          | met callback =>
              rw [← last callback rfl] at free
              have performs : Leading move
                  ((noted none (record (.fire callback.label))).bind fun _ =>
                    performAllNoted setup callback.next) :=
                (leading_record _).bind fun _ => leading_performAllNoted moves callback.next free
              obtain ⟨result, leads⟩ := performs.ends ran
              obtain ⟨after, more⟩ := leads settled
              exact ⟨after, grows.trans more, .inr (more.gone handle gone)⟩
          | waiting | dropped =>
              rw [← Option.some.inj ran]
              exact ⟨settled, grows, .inr gone⟩

end Leading

/-- A timer that is taken off for its tick is still in the books. -/
theorem Books.Balanced.taking {due : Clock.Due Task}
    (balanced : (booksOf world).Balanced []) :
    (booksOf { world with timers := world.timers.taking due }).Balanced [] := by
  refine Books.Balanced.retime balanced (Clock.handles_taking due) rfl ?_
  intro handle timer task member holds
  obtain ⟨former, formerMem, same⟩ := Clock.mem_timers_update.mp member
  by_cases own : former.1 = due.handle
  · rw [if_pos own] at same
    rw [(Prod.mk.inj same).2] at holds
    exact absurd holds nofun
  · rw [if_neg own] at same
    subst same
    exact balanced.tasks _ _ _ formerMem holds

/-- A task that is put back into its timer goes with it. -/
theorem Books.Balanced.putBack {handle : Handle} {task : Task}
    (balanced : (booksOf world).Balanced []) (returns : Returns handle task (booksOf world)) :
    (booksOf { world with timers := world.timers.putBack handle task }).Balanced [] := by
  refine Books.Balanced.retime balanced (Clock.handles_putBack handle task) rfl ?_
  intro known timer stored member holds
  obtain ⟨former, formerMem, same⟩ := Clock.mem_timers_update.mp member
  by_cases own : former.1 = handle
  · rw [if_pos own] at same
    obtain ⟨rfl, rfl⟩ := Prod.mk.inj same
    rw [← Option.some.inj holds]
    cases returns with
    | inl fits => exact own ▸ fits
    | inr gone => exact absurd (List.mem_map.mpr ⟨former, formerMem, own⟩) gone.2
  · rw [if_neg own] at same
    subst same
    exact balanced.tasks _ _ _ formerMem holds

/-- A change of the clock that gives no handle and takes no timer away. -/
theorem grows_retime {clock : Clock Task} (handles : clock.handles = world.timers.handles)
    (next : clock.next = world.timers.next) :
    Books.Grows (booksOf world) (booksOf { world with timers := clock }) := by
  constructor
  · intro known foreign
    exact ⟨Nat.lt_of_lt_of_eq foreign.1 next.symm, foreign.2⟩
  · intro known gone
    refine ⟨Nat.lt_of_lt_of_eq gone.1 next.symm, fun member => gone.2 ?_⟩
    exact (show clock.handles = _ from handles) ▸ member

/-- A move of the clock keeps the books balanced, however deeply moves are nested in it. -/
theorem leads_drain (setup : Setup) (ticks : Nat) (target : Instant)
    (world after : World.Clocked Task (State × Ledger))
    (drained : World.drain Clock.service (tickNoted setup) ticks target world = some after) :
    Leads world after := by
  induction ticks generalizing target world after with
  | zero => exact absurd drained nofun
  | succ ticks ih =>
      intro balanced
      rw [World.drain, Clock.takeDue?_eq] at drained
      cases next : world.timers.nextDue? target with
      | none =>
          rw [next] at drained
          rw [← Option.some.inj drained]
          refine ⟨?_, grows_retime rfl rfl⟩
          exact balanced.retime rfl rfl balanced.tasks
      | some due =>
          rw [next] at drained
          obtain ⟨ended, ticked, onward⟩ := Option.bind_eq_some_iff.mp drained
          obtain ⟨timer, member, holds, -⟩ := Clock.exists_of_nextDue? next
          let taken : World.Clocked Task (State × Ledger) :=
            { world with timers := world.timers.taking due }
          have takes : Books.Grows (booksOf world) (booksOf taken) :=
            grows_retime (Clock.handles_taking due) rfl
          have fits : (booksOf taken).Fits due.handle due.task :=
            (balanced.tasks due.handle timer due.task member holds).grows takes fun _ same => same
          obtain ⟨middle, grows, returns⟩ := leads_tickNoted setup
            (fun span inner moved => ih (inner.timers.now + span) inner moved) fits
            balanced.taking ticked
          have back : Books.Grows (booksOf ended.2) (booksOf
              { ended.2 with timers := ended.2.timers.putBack due.handle ended.1 }) :=
            grows_retime (Clock.handles_putBack due.handle ended.1) rfl
          obtain ⟨last, more⟩ := ih target _ after onward (middle.putBack returns)
          exact ⟨last, takes.trans (grows.trans (back.trans more))⟩

/-! ## Sessions -/

/-- The account that a session gives of its timers after an action.  The timers that are live and
the bare timers, together with the unresolved waits, correspond one to one. -/
structure Account.Balanced (account : Account) : Prop where
  /-- Every live timer is a bare one or polls for a wait, and it is only one of them. -/
  distinct : account.live.Nodup
  timers : account.live.Perm (account.ledger.bare ++ account.ledger.polls.map Prod.fst)
  /-- Every unresolved wait has one timer, and no other wait has any. -/
  waits : (account.ledger.polls.map Prod.snd).Perm account.ledger.unresolved
  resolved : ∀ wait, account.ledger.Resolved wait → ∀ handle, (handle, wait) ∉ account.ledger.polls
  active : account.step.active = account.ledger.bare.length + account.ledger.unresolved.length

theorem Books.Balanced.account {books : Books} (balanced : books.Balanced []) (step : ClockStep)
    (active : step.active = books.clock.active) :
    Account.Balanced ⟨step, books.clock.handles, books.ledger⟩ where
  distinct := balanced.nodup
  timers := balanced.timers
  waits := balanced.waits
  resolved := by
    intro wait resolved handle polls
    have member : wait ∈ books.ledger.unresolved :=
      balanced.waits.mem_iff.mp (List.mem_map.mpr ⟨_, polls, rfl⟩)
    exact (mem_unresolved.mp member).2 resolved
  active := by
    have timers := balanced.timers.length_eq
    have waits := balanced.waits.length_eq
    simp only [Clock.handles, List.length_map, List.length_append, List.length_nil] at timers waits
    simp only [active, Clock.active]
    lia

theorem balanced_runNoted (setup : Setup) (ticks : Nat) {actions : List Action}
    (free : clearFree actions = true) {world : World.Clocked Task (State × Ledger)}
    (balanced : (booksOf world).Balanced []) {accounts : List Account}
    (ran : runNoted setup ticks actions world = some accounts) :
    ∀ account ∈ accounts, account.Balanced := by
  induction actions generalizing world accounts with
  | nil =>
      rw [← Option.some.inj ran]
      exact fun _ member => absurd member List.not_mem_nil
  | cons action more ih =>
      rw [clearFree, everywhereInList, Bool.and_eq_true] at free
      obtain ⟨⟨outcome, clock, state, ledger⟩, performed, rest⟩ :=
        Option.bind_eq_some_iff.mp ran
      obtain ⟨others, onward, same⟩ := Option.bind_eq_some_iff.mp rest
      obtain ⟨after, -⟩ := leading_performNoted
        (fun span inner moved => leads_drain setup ticks _ inner moved) action free.1 world _
        performed balanced
      rw [← Option.some.inj same]
      intro account member
      cases member with
      | head => exact after.account _ rfl
      | tail _ member =>
          have between : (booksOf ⟨clock, (takeLog state).2, ledger⟩).Balanced [] := after
          exact ih free.2 between onward account member

theorem balanced_start (page : Page) :
    (booksOf ⟨Clock.start, State.start page, Ledger.empty⟩).Balanced [] := by
  refine ⟨.nil, ?_, .refl _, .refl _, ?_, ?_, ?_⟩
  · exact fun _ member => absurd member List.not_mem_nil
  · intro wait resolved
    cases resolved with
    | inl member => exact absurd member List.not_mem_nil
    | inr member => exact absurd member List.not_mem_nil
  · exact fun _ _ _ member => absurd member List.not_mem_nil
  · exact fun _ _ member => absurd member List.not_mem_nil

/-- A wait whose callback starts another one, and a timer whose tick moves the clock. -/
def relay : List Action :=
  [.wait "first" (.checks [.answer false, .answer true] false) none
      [.schedule "bare" (Span.ofMs 5) [[.advance (Span.ofMs 20)]],
        .wait "second" (.checks [.answer false] true) none []],
    .advance (Span.ofMs 15)]

end PageWatch.Session
