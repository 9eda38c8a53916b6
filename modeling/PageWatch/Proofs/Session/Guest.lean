import PageWatch.Proofs.Session.Visit

/-!
# What a wait on a document leaves behind

A wait on a document whose callback only leaves marks does nothing but record, and ask for one
timer at a time.  Whenever it has been started or polled, it either polls with a timer and has not
ended yet, or it has recorded its end and has no timer.
-/

namespace PageWatch

/-- The world after something has been recorded. -/
def World.logged {κ : Type} (fresh : List (Instant × Session.Event))
    (world : World κ Session.State) : World κ Session.State :=
  { world with state := { world.state with log := fresh ++ world.state.log } }

theorem World.logged_logged {κ : Type} (fresh former : List (Instant × Session.Event))
    (world : World κ Session.State) :
    (world.logged former).logged fresh = world.logged (fresh ++ former) := by
  simp [logged]

namespace Session

/-- Whether a target is looked for on the page. -/
def Target.onPage : Target → Bool
  | .checks _ _ => false
  | _ => true

/-- A row of waits for conditions on the page. -/
def OnPage : Sequel Condition Callback → Prop
  | .callback _ => True
  | .wait (.page _) _ sequel => OnPage sequel
  | .wait (.prepared _ _ _) _ _ => False

theorem onPage_row (label : String) {target : Target} (onPage : target.onPage = true)
    (interval : Span) (callback : Callback) :
    OnPage (Sequel.row interval (.callback callback) (Work.conditions label target)) := by
  cases target with
  | element | value => exact trivial
  | checks => exact absurd onPage nofun
  | all selectors =>
      simp only [Work.conditions]
      induction selectors with
      | nil => exact trivial
      | cons selector selectors ih => exact ih rfl

/-- Whether the end of a wait has been recorded. -/
def concluded (fresh : List (Instant × Event)) : Bool := fresh.any fun record => record.2.resolves

@[simp] theorem concluded_append (first second : List (Instant × Event)) :
    concluded (first ++ second) = (concluded first || concluded second) := by
  simp [concluded, List.any_append]

/-- The task of a timer with which a row of waits on the page polls. -/
inductive Polls (callback : Callback) (handle : Handle) : Task → Prop
  | task (condition : PageCondition) {sequel : Sequel Condition Callback}
    (onPage : OnPage sequel) (ends : sequel.final = callback) :
    Polls callback handle (.wait ⟨.page condition, some sequel, some handle⟩)

/-- What a row of waits leaves behind on its way to its callback. -/
inductive Strides (callback : Callback) (before : World.Clocked Task State) :
    Wait.Progress Callback × World.Clocked Task State → Prop
  | met (fresh : List (Instant × Event)) (silent : concluded fresh = false) :
    Strides callback before (.met callback, before.logged fresh)
  | waiting (fresh : List (Instant × Event)) (silent : concluded fresh = false) (interval : Span)
    (task : Handle → Task) (polls : ∀ handle, Polls callback handle (task handle)) :
    Strides callback before (.waiting,
      World.logged fresh
        { before with timers := (before.timers.schedule interval task).2 })
  | dropped (fresh : List (Instant × Event)) (ends : concluded fresh = true) :
    Strides callback before (.dropped, before.logged fresh)

/-- What has been recorded before does not matter, unless a wait has ended. -/
theorem Strides.of_logged {callback : Callback} {before : World.Clocked Task State}
    {former : List (Instant × Event)} {ended : Wait.Progress Callback × World.Clocked Task State}
    (strides : Strides callback (before.logged former) ended) (quiet : concluded former = false) :
    Strides callback before ended := by
  cases strides with
  | met fresh silent =>
      rw [World.logged_logged]
      exact .met _ (by simp [silent, quiet])
  | waiting fresh silent interval task polls =>
      have whole : Strides callback before (.waiting, World.logged (fresh ++ former)
          { before with timers := (before.timers.schedule interval task).2 }) :=
        .waiting _ (by simp [silent, quiet]) interval task polls
      rw [← World.logged_logged] at whole
      exact whole
  | dropped fresh ends =>
      rw [World.logged_logged]
      exact .dropped _ (by simp [ends])

/-- What a row of waits leaves behind, what its callback does included. -/
inductive Leaves (callback : Callback) (before : World.Clocked Task State) :
    World.Clocked Task State → Prop
  | polls (fresh : List (Instant × Event)) (silent : concluded fresh = false) (interval : Span)
    (task : Handle → Task) (polls : ∀ handle, Polls callback handle (task handle)) :
    Leaves callback before
      (World.logged fresh
        { before with timers := (before.timers.schedule interval task).2 })
  | ended (fresh : List (Instant × Event)) (ends : concluded fresh = true) :
    Leaves callback before (before.logged fresh)

namespace Work

variable (setup : Setup) {world before : World.Clocked Task State}

theorem act_record (event : Event) (world : World.Clocked Task State) :
    world.act Clock.service (record event) = ((), world.logged [(world.timers.now, event)]) := rfl

/-- A query of a document changes nothing. -/
theorem act_query (selector : String) {document : Snapshot}
    (page : world.state.page = .snapshot document) :
    ∃ fresh, concluded fresh = false ∧
      world.act Clock.service (query setup selector) =
        (document.select selector, world.logged fresh) := by
  obtain ⟨timers, _, names, log⟩ := world
  obtain rfl := page
  cases queries : setup.queries with
  | true =>
      refine ⟨[(timers.now, .query selector)], rfl, ?_⟩
      rw [query, queries]
      rfl
  | false =>
      refine ⟨[], rfl, ?_⟩
      rw [query, queries]
      rfl

theorem act_check (condition : PageCondition)
    (page : ∃ document, world.state.page = .snapshot document) :
    ∃ answer fresh, concluded fresh = false ∧
      world.act Clock.service (check setup (.page condition)) =
        ((answer, .page condition), world.logged fresh) := by
  obtain ⟨document, page⟩ := page
  obtain ⟨fresh, silent, acts⟩ := act_query setup condition.selector page
  refine ⟨(document.select condition.selector).map condition.holds, fresh, silent, ?_⟩
  simp only [check, PageCondition.check, Routine.bind_eq, World.act_bind, acts]
  rfl

/-- Marks are recorded and nothing else. -/
theorem act_marks (texts : List String) (world : World.Clocked Task State) :
    ∃ fresh, concluded fresh = false ∧
      world.act Clock.service (performAll setup (texts.map .mark)) = ((), world.logged fresh) := by
  induction texts generalizing world with
  | nil => exact ⟨[], rfl, rfl⟩
  | cons text texts ih =>
      obtain ⟨fresh, silent, acts⟩ := ih (world.logged [(world.timers.now, .mark text)])
      refine ⟨fresh ++ [(world.timers.now, .mark text)], ?_, ?_⟩
      · rw [concluded_append, silent]
        rfl
      · rw [List.map_cons, performAll, Routine.bind_eq, World.act_bind]
        refine acts.trans ?_
        simp [World.logged]

/-- A wait fires whose callback only leaves marks. -/
theorem act_fire {callback : Callback} {texts : List String}
    (marks : callback.next = texts.map .mark) (world : World.Clocked Task State) :
    ∃ fresh, concluded fresh = true ∧ ∀ {α : Type} (rest : Unit → Work α),
      world.act Clock.service ((record (.fire callback.label)).bind fun _ =>
          (performAll setup callback.next).bind rest) =
        (world.logged fresh).act Clock.service (rest ()) := by
  obtain ⟨left, -, acts⟩ := act_marks setup texts
    (world.logged [(world.timers.now, .fire callback.label)])
  refine ⟨left ++ [(world.timers.now, .fire callback.label)], ?_, fun rest => ?_⟩
  · rw [concluded_append]
    exact Bool.or_true _
  · rw [World.act_bind, World.act_bind, act_record, marks, acts, World.logged_logged]

theorem strides_run {sequel : Sequel Condition Callback} (onPage : OnPage sequel)
    (page : ∃ document, before.state.page = .snapshot document) :
    Strides sequel.final before (before.act Clock.service (sequel.run (host setup))) := by
  induction sequel generalizing before with
  | callback value => exact .met [] rfl
  | wait condition interval sequel ih =>
      cases condition with
      | prepared => exact onPage.elim
      | page condition =>
          obtain ⟨answer, fresh, silent, acts⟩ := act_check setup condition page
          simp only [Sequel.run, Wait.start, host, Routine.bind_eq, World.act_bind, acts]
          rcases answer with error | _ | _
          · exact .dropped ((before.timers.now, .notice (.waitDropped error)) :: fresh) rfl
          · exact .waiting ((before.timers.now, .notice (.polling interval.wholeMs)) :: fresh)
              silent interval (fun handle => .wait ⟨.page condition, some sequel, some handle⟩)
              fun handle => .task condition onPage rfl
          · have logged : ∃ document, (before.logged fresh).state.page = .snapshot document := page
            exact (ih onPage logged).of_logged silent

/-- A wait that is started, and all that it sets off. -/
theorem leaves_perform (label : String) {target : Target} (onPage : target.onPage = true)
    (interval : Option Span) (texts : List String)
    (page : ∃ document, before.state.page = .snapshot document) :
    ∃ after, Leaves ⟨label, texts.map .mark⟩ before after ∧
      before.act Clock.service (perform setup (.wait label target interval (texts.map .mark))) =
        (.nothing, after) := by
  have strides := strides_run setup
    (onPage_row label onPage (interval.getD (usualInterval setup target))
      ⟨label, texts.map .mark⟩) page
  rw [Sequel.final_row] at strides
  rw [perform, Waiter.awaitAll_eq, Routine.bind_eq, World.act_bind]
  generalize before.act Clock.service _ = ended at strides
  cases strides with
  | met fresh silent =>
      obtain ⟨fired, ends, fires⟩ := act_fire setup (rfl : Callback.next ⟨label, _⟩ = _)
        (before.logged fresh)
      refine ⟨before.logged (fired ++ fresh), .ended _ (by simp [ends]), ?_⟩
      rw [← World.logged_logged]
      exact fires _
  | waiting fresh silent interval task polls =>
      exact ⟨_, .polls fresh silent interval task polls, rfl⟩
  | dropped fresh ends => exact ⟨_, .ended fresh ends, rfl⟩

/-- A wait that is polled.  It goes on to wait, or it has cancelled its timer before it does
anything else. -/
theorem strides_poll (condition : PageCondition) {sequel : Sequel Condition Callback}
    (onPage : OnPage sequel) (handle : Handle)
    (page : ∃ document, before.state.page = .snapshot document) :
    let wait : Wait Condition (Sequel Condition Callback) :=
      ⟨.page condition, some sequel, some handle⟩
    let ended := before.act Clock.service (wait.tick (host setup) (Sequel.run (host setup)))
    (∃ fresh, concluded fresh = false ∧ ended = ((wait, .waiting), before.logged fresh)) ∨
      Strides sequel.final { before with timers := before.timers.cancel handle }
        (ended.1.2, ended.2) := by
  obtain ⟨answer, fresh, silent, checks⟩ := act_check setup condition page
  simp only [Wait.tick, host, Routine.bind_eq, World.act_bind, checks]
  rcases answer with error | _ | _
  · exact .inr (.dropped ((before.timers.now, .notice (.waitDropped error)) :: fresh) rfl)
  · exact .inl ⟨fresh, silent, rfl⟩
  · -- The timer is gone when the rest of the row begins.
    let freed : World.Clocked Task State :=
      { before with timers := before.timers.cancel handle }
    let met := freed.logged ((before.timers.now, .notice .conditionMet) :: fresh)
    have onward : Strides sequel.final met (met.act Clock.service (sequel.run (host setup))) :=
      strides_run setup onPage page
    let rest (progress : Wait.Progress Callback) :
        Work (Wait Condition (Sequel Condition Callback) × Wait.Progress Callback) :=
      .done (⟨.page condition, none, none⟩, progress)
    have polled : Strides sequel.final freed
        ((met.act Clock.service ((sequel.run (host setup)).bind rest)).1.2,
          (met.act Clock.service ((sequel.run (host setup)).bind rest)).2) := by
      rw [World.act_bind]
      exact onward.of_logged silent
    exact .inr polled

/-- A wait that is polled, and all that it sets off. -/
theorem leaves_tick {callback : Callback} {texts : List String}
    (marks : callback.next = texts.map .mark) {handle : Handle} {task : Task}
    (polls : Polls callback handle task)
    (page : ∃ document, before.state.page = .snapshot document) :
    (∃ fresh, concluded fresh = false ∧
      before.act Clock.service (tick setup handle task) = (task, before.logged fresh)) ∨
      Leaves callback { before with timers := before.timers.cancel handle }
        (before.act Clock.service (tick setup handle task)).2 := by
  cases polls with
  | @task condition sequel onPage ends =>
      subst ends
      have strides := strides_poll setup condition onPage handle page
      dsimp only at strides
      rw [tick, Routine.bind_eq, World.act_bind]
      generalize before.act Clock.service _ = ended at strides
      obtain ⟨⟨wait, progress⟩, after⟩ := ended
      rcases strides with ⟨fresh, silent, same⟩ | strides
      · obtain ⟨both, rfl⟩ := Prod.mk.inj same
        obtain ⟨rfl, rfl⟩ := Prod.mk.inj both
        exact .inl ⟨fresh, silent, rfl⟩
      · right
        cases strides with
        | met fresh silent =>
            let met : World.Clocked Task State :=
              World.logged fresh { before with timers := before.timers.cancel handle }
            obtain ⟨fired, ends, fires⟩ := act_fire setup marks met
            have left : Leaves sequel.final
                { before with timers := before.timers.cancel handle }
                (met.act Clock.service ((record (.fire sequel.final.label)).bind fun _ =>
                  (performAll setup sequel.final.next).bind fun _ =>
                    .done (Task.wait wait))).2 := by
              rw [fires, World.act_done, World.logged_logged]
              exact .ended _ (by simp [ends])
            exact left
        | waiting fresh silent interval task polls =>
            exact .polls fresh silent interval task polls
        | dropped fresh ends => exact .ended fresh ends

end Work

end Session

end PageWatch
