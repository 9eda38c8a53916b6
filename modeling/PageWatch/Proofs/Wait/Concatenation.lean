import PageWatch.Proofs.Clock.Retasking
import PageWatch.Proofs.Wait.StagedWait

/-!
# Waits that start waits

The callback of a wait may start another wait.  A wait for the elements of one list whose callback
waits for those of a second list is a wait for the elements of both lists, one after the other.
The two keep different tasks on their timers: one task goes on with the second list by itself, the
other has a callback that does.  Nothing else tells them apart, whatever else goes on.
-/

namespace PageWatch

/-! ## Routines in a row -/

theorem Routine.bind_assoc {τ σ α β γ : Type} (routine : Routine τ σ α) (rest : α → Routine τ σ β)
    (more : β → Routine τ σ γ) :
    (routine.bind rest).bind more = routine.bind fun result => (rest result).bind more := by
  induction routine with
  | done result => rfl
  | look next ih => exact congrArg look (funext fun now => funext fun state => ih now state)
  | put state next ih => exact congrArg (put state) ih
  | schedule interval task next ih =>
      exact congrArg (schedule interval task) (funext fun handle => ih handle)
  | cancel handle next ih => exact congrArg (cancel handle) ih
  | clear next ih => exact congrArg clear ih
  | advance span next ih => exact congrArg (advance span) ih

/-- What follows a row of waits matters only where the row can end. -/
theorem Sequel.run_bind_congr {χ κ τ σ α : Type} (host : Wait.Host χ (Sequel χ κ) τ σ)
    {rest other : Wait.Progress κ → Routine τ σ α} (waiting : rest .waiting = other .waiting)
    (dropped : rest .dropped = other .dropped) {sequel : Sequel χ κ}
    (met : rest (.met sequel.final) = other (.met sequel.final)) :
    (sequel.run host).bind rest = (sequel.run host).bind other := by
  induction sequel with
  | callback value => exact met
  | wait condition interval sequel ih =>
      simp only [run, Wait.start, Routine.bind_eq, Routine.bind_assoc]
      refine congrArg (Routine.bind _) (funext fun checked => ?_)
      obtain ⟨answer, condition⟩ := checked
      rcases answer with error | _ | _
      · simp only [Routine.bind_assoc, Routine.pure_eq, Routine.bind, dropped]
      · simp only [Routine.bind_assoc, Routine.pure_eq, Routine.bind, waiting]
      · exact ih met

namespace Relay

variable {κ ρ δ : Type}

/-! ## Waits in surroundings of any kind -/

/-- What happens when the elements of a wait have been there. -/
inductive Link (κ : Type) where
  | call (callback : κ)
  /-- Another wait begins. -/
  | await (selectors : List String) (interval : Span) (link : Link κ)

/-- The task of a timer: to poll for a wait, or something else. -/
inductive Task (κ ρ : Type) where
  | poll (wait : Wait PageCondition (Sequel PageCondition (Link κ)))
  | other (task : ρ)

/-- Something that happens in a wait. -/
inductive Event (κ : Type) where
  | asked (selector : String)
  | noticed (notice : Notice)
  /-- The callback of a wait begins to run. -/
  | called (callback : κ)

/-- A routine among waits that share a document and a list of what has happened. -/
abbrev Work (κ ρ δ : Type) := Routine (Task κ ρ) (δ × List (Instant × Event κ))

/-- The surroundings of the waits: how the document answers, what callbacks do, and what the other
timers do. -/
structure Surroundings (κ ρ δ : Type) where
  select : Select δ
  call : κ → Work κ ρ δ Unit
  tick : Handle → ρ → Work κ ρ δ (Task κ ρ)

/-- Writes down that something happens now. -/
def note (event : Event κ) : Work κ ρ δ Unit :=
  Routine.modify fun now state => (state.1, state.2 ++ [(now, event)])

/-- Asks the document for the nodes that match a selector. -/
def query (select : Select δ) (selector : String) :
    Work κ ρ δ (Except QueryError (List Match)) := do
  note (.asked selector)
  Routine.look fun now state =>
    Routine.put ((select now selector state.1).2, state.2)
      (pure (select now selector state.1).1)

def host (select : Select δ) :
    Wait.Host PageCondition (Sequel PageCondition (Link κ)) (Task κ ρ)
      (δ × List (Instant × Event κ)) where
  check := PageCondition.check (query select)
  report notice := note (.noticed notice)
  task := .poll

namespace Surroundings

variable (surroundings : Surroundings κ ρ δ)

/-- Goes on when the elements of a wait have been there. -/
def follow : Link κ → Work κ ρ δ Unit
  | .call callback => do
    note (.called callback)
    surroundings.call callback
  | .await selectors interval link => do
    let waiter : Waiter PageCondition (Link κ) := ⟨.callback link, interval⟩
    match ← waiter.awaitAll (host surroundings.select) (selectors.map .element) with
    | .met _ => follow link
    | _ => pure ()

/-- Waits for elements. -/
def await (selectors : List String) (interval : Span) (link : Link κ) : Work κ ρ δ Unit :=
  surroundings.follow (.await selectors interval link)

def behaviour : Behaviour (Task κ ρ) (δ × List (Instant × Event κ))
  | _, .poll wait => do
    let (wait, progress) ←
      wait.tick (host surroundings.select) (Sequel.run (host surroundings.select))
    match progress with
    | .met link => surroundings.follow link
    | _ => pure ()
    return .poll wait
  | handle, .other task => surroundings.tick handle task

end Surroundings

/-! ## The waits that a link comes to -/

/-- The waits that a link starts, one after the other. -/
def Link.flatten : Link κ → Sequel PageCondition (Link κ)
  | .call callback => .callback (.call callback)
  | .await selectors interval link => .row interval link.flatten (selectors.map .element)

/-- The same waits, without links that start more. -/
def flatten : Sequel PageCondition (Link κ) → Sequel PageCondition (Link κ)
  | .callback link => link.flatten
  | .wait condition interval sequel => .wait condition interval (flatten sequel)

/-- A task that goes on by itself where the task has a callback that does. -/
def Task.flatten : Task κ ρ → Task κ ρ
  | .poll wait => .poll { wait with callback := wait.callback.map Relay.flatten }
  | .other task => .other task

theorem flatten_row (interval : Span) (last : Sequel PageCondition (Link κ))
    (conditions : List PageCondition) :
    flatten (.row interval last conditions) = .row interval (flatten last) conditions := by
  induction conditions with
  | nil => rfl
  | cons condition conditions ih => exact congrArg (Sequel.wait condition interval) ih

theorem Link.flatten_flatten (link : Link κ) : Relay.flatten link.flatten = link.flatten := by
  induction link with
  | call callback => rfl
  | await selectors interval link ih => rw [flatten, flatten_row, ih]

@[simp] theorem flatten_flatten (sequel : Sequel PageCondition (Link κ)) :
    flatten (flatten sequel) = flatten sequel := by
  induction sequel with
  | callback link => exact link.flatten_flatten
  | wait condition interval sequel ih => exact congrArg (Sequel.wait condition interval) ih

namespace Surroundings

variable (surroundings : Surroundings κ ρ δ)

/-- Goes through a row of waits, and on from there. -/
def through (sequel : Sequel PageCondition (Link κ)) : Work κ ρ δ Unit :=
  (sequel.run (host surroundings.select)).bind fun progress =>
    match progress with
    | .met link => surroundings.follow link
    | _ => .done ()

theorem follow_await (selectors : List String) (interval : Span) (link : Link κ) :
    surroundings.follow (.await selectors interval link) =
      surroundings.through (.row interval (.callback link) (selectors.map .element)) := by
  let onward : Wait.Progress (Link κ) → Work κ ρ δ Unit := fun progress =>
    match progress with
    | .met _ => surroundings.follow link
    | _ => .done ()
  have waiting : onward .waiting = .done () := rfl
  have dropped : onward .dropped = .done () := rfl
  rw [follow, Waiter.awaitAll_eq, through]
  refine Sequel.run_bind_congr (host surroundings.select) waiting dropped ?_
  rw [Sequel.final_row]
  rfl

/-- Two rows of waits that come to the same begin alike with one more wait. -/
theorem through_wait {sequel other : Sequel PageCondition (Link κ)}
    (same : flatten sequel = flatten other)
    (alike : (surroundings.through sequel).Alike Task.flatten (surroundings.through other))
    (condition : PageCondition) (interval : Span) :
    (surroundings.through (.wait condition interval sequel)).Alike Task.flatten
      (surroundings.through (.wait condition interval other)) := by
  simp only [through, Sequel.run, Wait.start, Routine.bind_eq, Routine.bind_assoc]
  refine .bind (.refl _) fun checked => ?_
  obtain ⟨answer, condition⟩ := checked
  rcases answer with error | _ | _
  · exact .refl _
  · refine .bind (.bind (.refl _) fun _ => .schedule interval (fun handle => ?_) _) fun _ => .refl _
    exact congrArg (fun callback => Task.poll ⟨condition, some callback, some handle⟩) same
  · exact alike

theorem through_row {sequel other : Sequel PageCondition (Link κ)}
    (same : flatten sequel = flatten other)
    (alike : (surroundings.through sequel).Alike Task.flatten (surroundings.through other))
    (interval : Span) (conditions : List PageCondition) :
    (surroundings.through (.row interval sequel conditions)).Alike Task.flatten
      (surroundings.through (.row interval other conditions)) := by
  induction conditions with
  | nil => exact alike
  | cons condition conditions ih =>
      refine surroundings.through_wait ?_ ih condition interval
      rw [flatten_row, flatten_row, same]

/-- A link starts the waits that it comes to. -/
theorem follow_flatten (link : Link κ) :
    (surroundings.follow link).Alike Task.flatten (surroundings.through link.flatten) := by
  induction link with
  | call callback => exact .refl _
  | await selectors interval link ih =>
      have same : Relay.flatten (.callback link) = Relay.flatten link.flatten :=
        link.flatten_flatten.symm
      rw [follow_await]
      exact surroundings.through_row same ih interval _

theorem through_flatten (sequel : Sequel PageCondition (Link κ)) :
    (surroundings.through sequel).Alike Task.flatten
      (surroundings.through (flatten sequel)) := by
  induction sequel with
  | callback link => exact surroundings.follow_flatten link
  | wait condition interval sequel ih =>
      exact surroundings.through_wait (flatten_flatten sequel).symm ih condition interval

/-- Rows of waits that come to the same are alike. -/
theorem through_congr {sequel other : Sequel PageCondition (Link κ)}
    (same : flatten sequel = flatten other) :
    (surroundings.through sequel).Alike Task.flatten (surroundings.through other) := by
  have one := surroundings.through_flatten sequel
  rw [same] at one
  exact one.trans (surroundings.through_flatten other).symm

theorem follow_congr {link other : Link κ} (same : link.flatten = other.flatten) :
    (surroundings.follow link).Alike Task.flatten (surroundings.follow other) := by
  have one := surroundings.follow_flatten link
  rw [same] at one
  exact one.trans (surroundings.follow_flatten other).symm

/-! ## Polls -/

/-- What a poll does after a check. -/
def checked (slot : Option Handle) (sequel : Sequel PageCondition (Link κ)) :
    Except QueryError Bool × PageCondition → Work κ ρ δ (Task κ ρ)
  | (.ok false, condition) => .done (.poll ⟨condition, some sequel, slot⟩)
  | (.ok true, condition) =>
    (Routine.cancelSlot slot).bind fun _ => (note (.noticed .conditionMet)).bind fun _ =>
      (surroundings.through sequel).bind fun _ => .done (.poll ⟨condition, none, none⟩)
  | (.error error, condition) =>
    (Routine.cancelSlot slot).bind fun _ => (note (.noticed (.waitDropped error))).bind fun _ =>
      .done (.poll ⟨condition, none, none⟩)

theorem behaviour_poll (handle : Handle) (condition : PageCondition) (slot : Option Handle)
    (sequel : Sequel PageCondition (Link κ)) :
    surroundings.behaviour handle (.poll ⟨condition, some sequel, slot⟩) =
      ((host surroundings.select).check condition).bind (surroundings.checked slot sequel) := by
  simp only [behaviour, Wait.tick, Routine.bind_eq, Routine.bind_assoc]
  refine congrArg (Routine.bind _) (funext fun answered => ?_)
  obtain ⟨answer, condition⟩ := answered
  rcases answer with error | _ | _
  · simp only [Routine.bind_assoc, checked]
    rfl
  · rfl
  · simp only [Routine.bind_assoc, checked, through]
    refine congrArg (Routine.bind _) (funext fun _ => ?_)
    refine congrArg (Routine.bind _) (funext fun _ => ?_)
    refine congrArg (Routine.bind _) (funext fun progress => ?_)
    cases progress <;> rfl

/-- A poll does the same for all waits that come to the same. -/
theorem blind_behaviour : surroundings.behaviour.Blind Task.flatten := by
  intro handle task
  cases task with
  | other task => rfl
  | poll wait =>
      obtain ⟨condition, callback, slot⟩ := wait
      cases callback with
      | none => rfl
      | some sequel =>
          simp only [Behaviour.retask, Task.flatten, Option.map_some, behaviour_poll,
            Routine.bind_assoc]
          refine Routine.Alike.bind (.refl _) fun answered => ?_
          obtain ⟨answer, condition⟩ := answered
          rcases answer with error | _ | _
          · exact .refl _
          · exact congrArg
              (fun callback => Routine.done (Task.poll ⟨condition, some callback, slot⟩))
              (flatten_flatten sequel)
          · have onward := surroundings.through_congr (flatten_flatten sequel)
            refine .bind (.bind (.refl _) fun _ => ?_) fun _ => .refl _
            exact .bind (.refl _) fun _ => .bind onward fun _ => .refl _

end Surroundings

/-! ## Waits in a row -/

/-- Waiting for the elements of two lists, one after the other, is waiting for those of the first
with a callback that waits for those of the second.  Whatever a program does before and afterwards
and whatever else ticks, both ways ask the document the same at the same times, notice the same,
call the same callbacks at the same times, and schedule and cancel the same timers.  They differ in
the tasks that their timers hold, and these come to the same waits. -/
theorem await_append (surroundings : Surroundings κ ρ δ) (first second : List String)
    (interval : Span) (link : Link κ) {α : Type} (rest : Work κ ρ δ α) (allowed : Nat)
    (world : World.Clocked (Task κ ρ) ((δ × List (Instant × Event κ)) × History)) :
    (World.perform Clock.service surroundings.behaviour.chronicled allowed
        ((surroundings.await (first ++ second) interval link).bind fun _ => rest).chronicled
        world).map (World.retaskEnd Task.flatten) =
      (World.perform Clock.service surroundings.behaviour.chronicled allowed
        ((surroundings.await first interval (.await second interval link)).bind fun _ =>
          rest).chronicled
        world).map (World.retaskEnd Task.flatten) := by
  have same : (Link.await (first ++ second) interval link).flatten =
      (Link.await first interval (.await second interval link)).flatten := by
    simp [Link.flatten, Sequel.row, List.foldr_append]
  have alike := (surroundings.follow_congr same).bind fun _ => Routine.Alike.refl rest
  exact World.perform_alike surroundings.blind_behaviour.chronicled alike.chronicled allowed world

end Relay

end PageWatch
