import PageWatch.Proofs.Performance.Balance
import PageWatch.Proofs.Performance.Transcript

/-!
# Ticks read the document

A tick asks the page questions and leaves the document on it as it is.  What a wait comes to at
a tick is therefore decided by one document: the callback becomes ready if all the conditions
that are left hold of it.  The views of a routine are the states that it gets to see on its way;
they show that there is no other document that a tick could have asked.
-/

namespace PageWatch

open Script

variable {τ σ κ α β : Type}

/-! ## What a routine gets to see -/

namespace Routine

/-- The states that a routine gets to see, in order. -/
def views (service : TimerService κ τ) : Routine τ σ α → World κ σ → List σ
  | done _, _ => []
  | look next, world =>
    world.state :: (next (service.now world.timers) world.state).views service world
  | put state next, world => next.views service { world with state }
  | schedule interval task next, world =>
    let (handle, timers) := service.schedule interval task world.timers
    (next handle).views service { world with timers }
  | cancel handle next, world =>
    next.views service { world with timers := service.cancel handle world.timers }
  | clear next, world => next.views service { world with timers := service.clear world.timers }
  | advance _ next, world => next.views service world

theorem views_bind (service : TimerService κ τ) (routine : Routine τ σ α)
    (rest : α → Routine τ σ β) (world : World κ σ) :
    (routine.bind rest).views service world =
      routine.views service world ++
        (rest (world.act service routine).1).views service (world.act service routine).2 := by
  induction routine generalizing world with
  | done result => rfl
  | look next ih => exact congrArg (world.state :: ·) (ih _ _ world)
  | put state next ih => exact ih _
  | schedule interval task next ih => exact ih _ _
  | cancel handle next ih => exact ih _
  | clear next ih => exact ih _
  | advance span next ih => exact ih world

end Routine

namespace Performance

/-- With a certain document on the page, some work sees that document alone and leaves it
there. -/
def Reads (document : Snapshot) (work : Work α) : Prop :=
  ∀ scene : Scene, scene.state.page = .snapshot document →
    (∀ state ∈ work.views Clock.service scene, state.page = .snapshot document) ∧
      (scene.act work).2.state.page = .snapshot document

namespace Reads

variable {document : Snapshot} {work : Work α}

theorem done (value : α) : Reads document (.done value) := by
  intro scene page
  exact ⟨fun _ member => absurd member List.not_mem_nil, page⟩

theorem bind {rest : α → Work β} (first : Reads document work)
    (second : ∀ value, Reads document (rest value)) : Reads document (work.bind rest) := by
  intro scene page
  obtain ⟨seen, kept⟩ := first scene page
  obtain ⟨seenNext, keptNext⟩ := second (scene.act work).1 (scene.act work).2 kept
  rw [act_bind]
  refine ⟨?_, keptNext⟩
  intro state member
  rw [Routine.views_bind, List.mem_append] at member
  cases member with
  | inl member => exact seen state member
  | inr member => exact seenNext state member

/-- Looking at the state once and changing it, the page apart. -/
theorem update {change : State → α × State}
    (same : ∀ state : State, state.page = .snapshot document →
      (change state).2.page = .snapshot document) :
    Reads document (Routine.update change) := by
  intro scene page
  refine ⟨?_, same scene.state page⟩
  intro state member
  rw [List.mem_singleton.mp member]
  exact page

theorem modify {change : Instant → State → State}
    (same : ∀ now state, (change now state).page = state.page) :
    Reads document (Routine.modify change) := by
  intro scene page
  refine ⟨?_, (same _ _).trans page⟩
  intro state member
  rw [List.mem_singleton.mp member]
  exact page

theorem cancelSlot (slot : Option Handle) :
    Reads document (Routine.cancelSlot slot : Work Unit) := by
  cases slot with
  | none => exact done ()
  | some handle =>
      intro scene page
      exact ⟨fun _ member => absurd member List.not_mem_nil, page⟩

theorem schedule (interval : Span) (task : Handle → Task) (value : α) :
    Reads document (.schedule interval task fun _ => .done value) := by
  intro scene page
  exact ⟨fun _ member => absurd member List.not_mem_nil, page⟩

end Reads

section Ticks

variable {document : Snapshot}

theorem reads_report (notice : Notice) : Reads document (Work.report notice) :=
  .modify fun _ _ => rfl

theorem reads_enqueue (callback : ObjectId) : Reads document (Work.enqueue callback) :=
  .modify fun _ _ => rfl

theorem reads_check (condition : PageCondition) :
    Reads document (Work.host.check condition) := by
  have asks : Reads document (Work.query condition.selector) := by
    apply Reads.update
    intro state page
    simp only [page]
    rfl
  exact asks.bind fun _ => .done _

theorem reads_run (sequel : Sequel PageCondition ObjectId) :
    Reads document (sequel.run Work.host) := by
  induction sequel with
  | callback value => exact .done _
  | wait condition interval sequel ih =>
      apply (reads_check condition).bind
      intro checked
      obtain ⟨answer, condition⟩ := checked
      rcases answer with error | _ | _
      · exact (reads_report _).bind fun _ => .done _
      · exact (reads_report _).bind fun _ => .schedule interval _ _
      · exact ih

theorem reads_poll (polled : Wait PageCondition (Sequel PageCondition ObjectId)) :
    Reads document (polled.tick Work.host (Sequel.run Work.host)) := by
  obtain ⟨condition, callback, slot⟩ := polled
  cases callback with
  | none => exact .done _
  | some sequel =>
      apply (reads_check condition).bind
      intro checked
      obtain ⟨answer, condition⟩ := checked
      rcases answer with error | _ | _
      · exact (Reads.cancelSlot slot).bind fun _ => (reads_report _).bind fun _ => .done _
      · exact .done _
      · exact (Reads.cancelSlot slot).bind fun _ => (reads_report _).bind fun _ =>
          (reads_run sequel).bind fun _ => .done _

/-- A tick sees one document and leaves it alone. -/
theorem reads_tick (handle : Handle) (task : Task) : Reads document (Work.tick handle task) := by
  cases task with
  | wait polled =>
      apply (reads_poll polled).bind
      intro ticked
      obtain ⟨polled, progress⟩ := ticked
      cases progress with
      | met callback => exact (reads_enqueue callback).bind fun _ => .done _
      | waiting | dropped => exact .done _
  | timeout slot callback =>
      apply (Reads.cancelSlot slot).bind
      intro _
      cases callback with
      | none => exact .done _
      | some callback => exact (reads_enqueue callback).bind fun _ => .done _

end Ticks

end Performance

/-! ## What a document decides -/

/-- Whether a condition holds of a document.  None holds that cannot be checked. -/
def PageCondition.holdsOn (document : Snapshot) (condition : PageCondition) : Bool :=
  match document.select condition.selector with
  | .ok nodes => condition.holds nodes
  | .error _ => false

/-- The callback that a row of waits ends with, if all of its conditions hold of a document. -/
def Sequel.firesOn (document : Snapshot) : Sequel PageCondition κ → Option κ
  | .callback value => some value
  | .wait condition _ sequel =>
    if condition.holdsOn document then sequel.firesOn document else none

/-- The callback that is to run now. -/
def Wait.Progress.met? : Wait.Progress κ → Option κ
  | .met callback => some callback
  | .waiting | .dropped => none

theorem Sequel.firesOn_row (document : Snapshot) (interval : Span) (value : κ)
    (conditions : List PageCondition) :
    (Sequel.row interval (.callback value) conditions).firesOn document =
      if ∀ condition ∈ conditions, condition.holdsOn document = true then some value
      else none := by
  induction conditions with
  | nil => simp [Sequel.row, firesOn]
  | cons condition conditions ih =>
      simp only [Sequel.row, List.foldr_cons, firesOn] at ih ⊢
      cases holds : condition.holdsOn document <;> simp [holds, ih]

namespace Performance

/-- The callback that a tick of a task makes ready if all of its checks are made on one
document.  A timeout's callback asks for no document. -/
def Task.firesOn (document : Snapshot) : Task → Option ObjectId
  | .wait ⟨condition, some sequel, _⟩ =>
    if condition.holdsOn document then sequel.firesOn document else none
  | .wait ⟨_, none, _⟩ => none
  | .timeout _ callback => callback

section Decides

variable {document : Snapshot} {scene : Scene}

theorem act_check_on (page : scene.state.page = .snapshot document) (condition : PageCondition) :
    scene.act (Work.host.check condition) =
      (((document.select condition.selector).map condition.holds, condition), scene) := by
  obtain ⟨timers, ⟨onPage, ready, printed, notices⟩⟩ := scene
  cases page
  rfl

/-- A row of waits comes to its end at once if all of its conditions hold of the document. -/
theorem met_run (page : scene.state.page = .snapshot document)
    (sequel : Sequel PageCondition ObjectId) :
    (scene.act (sequel.run Work.host)).1.met? = sequel.firesOn document := by
  induction sequel with
  | callback value => rfl
  | wait condition interval sequel ih =>
      simp only [Sequel.run, Wait.start, Routine.bind_eq, act_bind, act_check_on page]
      rw [Sequel.firesOn]
      cases answered : document.select condition.selector with
      | error error =>
          have fails : condition.holdsOn document = false := by
            simp [PageCondition.holdsOn, answered]
          rw [fails]
          rfl
      | ok nodes =>
          have decided : condition.holdsOn document = condition.holds nodes := by
            simp [PageCondition.holdsOn, answered]
          rw [decided]
          cases holds : condition.holds nodes with
          | false =>
              simp only [Except.map, holds]
              rfl
          | true =>
              simp only [Except.map, holds]
              exact ih

theorem met_poll (page : scene.state.page = .snapshot document)
    (polled : Wait PageCondition (Sequel PageCondition ObjectId)) :
    (scene.act (polled.tick Work.host (Sequel.run Work.host))).1.2.met? =
      (Task.wait polled).firesOn document := by
  obtain ⟨condition, callback, slot⟩ := polled
  cases callback with
  | none => rfl
  | some sequel =>
      simp only [Wait.tick, Routine.bind_eq, act_bind, act_check_on page]
      rw [Task.firesOn]
      cases answered : document.select condition.selector with
      | error error =>
          have fails : condition.holdsOn document = false := by
            simp [PageCondition.holdsOn, answered]
          rw [fails]
          simp only [Except.map, act_bind]
          rfl
      | ok nodes =>
          have decided : condition.holdsOn document = condition.holds nodes := by
            simp [PageCondition.holdsOn, answered]
          rw [decided]
          cases holds : condition.holds nodes with
          | false =>
              simp only [Except.map, holds]
              rfl
          | true =>
              simp only [Except.map, holds, act_bind]
              have cancelled := (Reads.cancelSlot slot scene page).2
              have reported := (reads_report .conditionMet _ cancelled).2
              exact met_run reported sequel

/-- Which callback a tick makes ready is decided by the task and the document. -/
theorem ready_tick (page : scene.state.page = .snapshot document) (handle : Handle) {task : Task}
    (whole : task.Whole) :
    (scene.act (Work.tick handle task)).2.state.ready =
      scene.state.ready ++ (task.firesOn document).toList := by
  cases task with
  | wait polled =>
      obtain ⟨-, quiet⟩ := quiet_poll whole scene
      rw [← met_poll page polled]
      simp only [Work.tick, Routine.bind_eq, act_bind]
      generalize scene.act (polled.tick Work.host (Sequel.run Work.host)) = polling at quiet ⊢
      obtain ⟨⟨next, progress⟩, after⟩ := polling
      cases progress with
      | met callback => exact congrArg (· ++ [callback]) quiet.ready_eq
      | waiting | dropped => exact quiet.ready_eq.trans (List.append_nil _).symm
  | timeout slot callback =>
      have quiet := (Quietly.cancelSlot slot scene).2
      simp only [Work.tick, Routine.bind_eq, act_bind]
      cases callback with
      | none => exact quiet.ready_eq.trans (List.append_nil _).symm
      | some callback => exact congrArg (· ++ [callback]) quiet.ready_eq

/-- The wait of a registration is over at once if all of its conditions hold of the document. -/
theorem reply_wait (page : scene.state.page = .snapshot document) (interval : Span)
    (conditions : List PageCondition) (callback : ObjectId) :
    (scene.act (Work.answer interval (.wait conditions callback))).1 = .due ↔
      ∀ condition ∈ conditions, condition.holdsOn document = true := by
  have met := met_run page (Sequel.row interval (.callback callback) conditions)
  rw [Sequel.firesOn_row] at met
  simp only [Work.answer, Waiter.awaitAll_eq, Routine.bind_eq, act_bind]
  generalize scene.act ((Sequel.row interval (.callback callback) conditions).run Work.host) = ran
    at met ⊢
  obtain ⟨progress, after⟩ := ran
  by_cases all : ∀ condition ∈ conditions, condition.holdsOn document = true
  · rw [if_pos all] at met
    cases progress with
    | met value => exact ⟨fun _ => all, fun _ => rfl⟩
    | waiting | dropped => simp [Wait.Progress.met?] at met
  · rw [if_neg all] at met
    cases progress with
    | met value => simp [Wait.Progress.met?] at met
    | waiting | dropped =>
        constructor
        · intro due
          cases due
        · intro holds
          exact absurd holds all

end Decides

end Performance

end PageWatch
