import PageWatch.Proofs.Page.LastWrite
import PageWatch.Proofs.Session.Ending

/-!
# Sessions that edit a page

Loading a document and typing into it are calls to the page.  They take no time, touch no timer and
ask nothing.  So in a session that only edits its page and moves its clock, the page is what the
calls up to now have made of it.
-/

namespace PageWatch.Session

open Snapshot (Call)

variable {setup : Setup}

/-! ## Edits -/

/-- The call by which an action edits the page, if it does. -/
def Action.call? : Action → Option Call
  | .load html => some (.load html)
  | .set selector value => some (.setValue selector value)
  | _ => none

/-- Whether an action edits the page. -/
def Action.edits (action : Action) : Bool := action.call?.isSome

/-- By how much an action itself moves the clock. -/
def Action.span : Action → Span
  | .advance span => span
  | _ => 0

/-- The calls that some actions make, the latest first. -/
def callsOf (actions : List Action) : List Call := (actions.filterMap Action.call?).reverse

/-- By how much some actions move the clock themselves. -/
def elapsed (actions : List Action) : Span := (actions.map Action.span).sum

@[simp] theorem callsOf_nil : callsOf [] = [] := rfl

theorem callsOf_cons (action : Action) (more : List Action) :
    callsOf (action :: more) = callsOf more ++ action.call?.toList := by
  cases called : action.call? <;> simp [callsOf, called]

@[simp] theorem elapsed_nil : elapsed [] = 0 := rfl

@[simp] theorem elapsed_cons (action : Action) (more : List Action) :
    elapsed (action :: more) = action.span + elapsed more := List.sum_cons

/-- An action edits the page by a new document, or by typing into the one that is there. -/
theorem Action.exists_of_edits {action : Action} (edits : action.edits = true) :
    (∃ html, action = .load html) ∨ ∃ selector value, action = .set selector value := by
  cases action with
  | load html => exact .inl ⟨html, rfl⟩
  | set selector value => exact .inr ⟨selector, value, rfl⟩
  | mark | advance | sleep | jump | clear | schedule | cancel | wait | reply | select | unknown =>
      exact absurd edits nofun

theorem Action.span_of_edits {action : Action} (edits : action.edits = true) : action.span = 0 := by
  rcases exists_of_edits edits with ⟨html, rfl⟩ | ⟨selector, value, rfl⟩ <;> rfl

/-! ## What is heard of waits -/

/-- Whether an event is a query or a fire. -/
def Event.attends : Event → Bool
  | .query _ | .fire _ => true
  | _ => false

/-- The queries and fires among some events. -/
def attended (log : List (Instant × Event)) : List (Instant × Event) :=
  log.filter fun entry => entry.2.attends

/-- The queries and fires since the last action of a session began. -/
def heard (world : World.Clocked Task State) : List (Instant × Event) :=
  attended world.state.log.reverse

/-- The page, the time and the timers of a session: these calls have been made to a page that was
parsed first from this source. -/
structure Scene (first : String) (past : List Call) (now : Instant)
    (entries : List (Handle × Timer Task)) (world : World.Clocked Task State) : Prop where
  page_eq : world.state.page = .snapshot (Snapshot.after first past)
  now_eq : world.timers.now = now
  timers_eq : world.timers.timers = entries

variable {first : String} {past : List Call} {now : Instant}
  {entries : List (Handle × Timer Task)} {world : World.Clocked Task State}

theorem heard_record (event : Event) (world : World.Clocked Task State) :
    heard (world.act Clock.service (Work.record event)).2 =
      heard world ++ attended [(world.timers.now, event)] := by
  have recorded : (world.act Clock.service (Work.record event)).2.state.log =
      (world.timers.now, event) :: world.state.log := rfl
  rw [heard, recorded, List.reverse_cons, attended, List.filter_append]
  rfl

theorem Scene.record (scene : Scene first past now entries world) (event : Event) :
    Scene first past now entries (world.act Clock.service (Work.record event)).2 :=
  ⟨scene.page_eq, scene.now_eq, scene.timers_eq⟩

theorem Scene.putBack (scene : Scene first past now entries world)
    (timer : Handle) (task : Task) :
    Scene first past now (entries.map fun entry =>
        if entry.1 = timer then (entry.1, { entry.2 with task := some task }) else entry)
      { world with timers := world.timers.putBack timer task } :=
  ⟨scene.page_eq, scene.now_eq, by rw [Clock.putBack, Clock.update, scene.timers_eq]⟩

/-- The next action of a session begins with the scene as it is, and nothing heard. -/
theorem Scene.between (scene : Scene first past now entries world) :
    Scene first past now entries (between world) ∧ heard (Session.between world) = [] :=
  ⟨⟨scene.page_eq, scene.now_eq, scene.timers_eq⟩, rfl⟩

theorem Work.perform_set (setup : Setup) (selector value : String) :
    perform setup (.set selector value) = setValue selector value := by
  simp [perform, simple]

/-- An edit makes its call to the page, and is not heard. -/
theorem Scene.perform_edit (setup : Setup) (scene : Scene first past now entries world)
    {action : Action} {call : Call} (called : action.call? = some call) :
    Scene first (call :: past) now entries
        (world.act Clock.service (Work.perform setup action)).2 ∧
      heard (world.act Clock.service (Work.perform setup action)).2 = heard world := by
  obtain ⟨⟨clockNow, next, scheduled, timers⟩, ⟨page, names, log⟩⟩ := world
  obtain ⟨rfl, rfl, rfl⟩ := scene
  have edits : action.edits = true := Option.isSome_iff_exists.mpr ⟨call, called⟩
  rcases Action.exists_of_edits edits with ⟨html, rfl⟩ | ⟨selector, value, rfl⟩
  · obtain rfl := Option.some.inj called
    exact ⟨⟨rfl, rfl, rfl⟩, rfl⟩
  · obtain rfl := Option.some.inj called
    have edited : Snapshot.after first (.setValue selector value :: past) =
        ((Snapshot.after first past).answer (.setValue selector value)).2 := rfl
    rw [Snapshot.answer] at edited
    rw [Work.perform_set, Work.setValue]
    cases set : (Snapshot.after first past).setValue selector value with
    | error error =>
        rw [set] at edited
        simp only [Routine.bind_eq, World.act_bind, Routine.update, World.act_look, set]
        exact ⟨⟨congrArg Page.snapshot edited.symm, rfl, rfl⟩, rfl⟩
    | ok changed =>
        rw [set] at edited
        simp only [Routine.bind_eq, World.act_bind, Routine.update, World.act_look, set]
        refine ⟨⟨congrArg Page.snapshot edited.symm, rfl, rfl⟩, ?_⟩
        exact (heard_record _ _).trans (List.append_nil _)

theorem everywhere_of_edits {action : Action} (edits : action.edits = true) :
    action.everywhere Action.edits = true := by
  rcases Action.exists_of_edits edits with ⟨html, rfl⟩ | ⟨selector, value, rfl⟩ <;> rfl

theorem everywhereInList_of_edits {actions : List Action}
    (edit : ∀ action ∈ actions, action.edits = true) :
    everywhereInList Action.edits actions = true := by
  induction actions with
  | nil => rfl
  | cons action more ih =>
      rw [everywhereInList, Bool.and_eq_true]
      exact ⟨everywhere_of_edits (edit action (.head _)),
        ih fun other member => edit other (.tail _ member)⟩

/-- Edits neither move the clock nor clear the timers. -/
theorem rests_of_edits (action : Action) (edits : action.edits = true) :
    action.moves = false ∧ (action.clears = true → False) := by
  rcases Action.exists_of_edits edits with ⟨html, rfl⟩ | ⟨selector, value, rfl⟩ <;>
    exact ⟨rfl, Bool.false_ne_true⟩

/-- Edits in a callback make their calls one after the other, and are not heard. -/
theorem Scene.performAll_edits (setup : Setup) (scene : Scene first past now entries world)
    {actions : List Action} (edit : ∀ action ∈ actions, action.edits = true) :
    Scene first (callsOf actions ++ past) now entries
        (world.act Clock.service (Work.performAll setup actions)).2 ∧
      heard (world.act Clock.service (Work.performAll setup actions)).2 = heard world := by
  induction actions generalizing past world with
  | nil => exact ⟨scene, rfl⟩
  | cons action more ih =>
      obtain ⟨call, called⟩ := Option.isSome_iff_exists.mp (edit action (.head _))
      have edits : ∀ other ∈ more, other.edits = true :=
        fun other member => edit other (.tail _ member)
      obtain ⟨edited, silent⟩ := scene.perform_edit setup called
      rw [callsOf_cons, called, Option.toList_some, List.append_assoc, List.singleton_append,
        Work.performAll]
      simp only [Routine.bind_eq, World.act_bind]
      generalize world.act Clock.service (Work.perform setup action) = ended at edited silent ⊢
      obtain ⟨outcome, world⟩ := ended
      rw [← silent]
      by_cases telling : outcome ≠ .nothing
      · simp only [if_pos telling, World.act_bind]
        obtain ⟨after, quiet⟩ := ih (edited.record (.result outcome)) edits
        refine ⟨after, quiet.trans ?_⟩
        exact (heard_record _ _).trans (List.append_nil _)
      · simp only [if_neg telling]
        exact ih edited edits

/-! ## Sessions of edits and moves -/

/-- An action whose work comes to an end is a step of a session. -/
theorem cons_comesTo {action : Action} {more : List Action} {outcome : Outcome}
    {after : World.Clocked Task State} {steps : List ClockStep}
    (performs : ComesTo (fun ticks =>
      world.perform Clock.service (Work.tick setup) ticks (Work.perform setup action))
        (outcome, after))
    (onward : ComesTo (fun ticks =>
      runOnClock setup Clock.service ticks more (between after)) steps) :
    ComesTo (fun ticks => runOnClock setup Clock.service ticks (action :: more) world)
      (seenOnClock outcome after :: steps) := by
  simp only [runOnClock_cons]
  apply ComesTo.bind performs
  exact onward.map _

theorem edit_comesTo (world : World.Clocked Task State) {action : Action}
    (edits : action.edits = true) :
    ComesTo (fun ticks =>
      world.perform Clock.service (Work.tick setup) ticks (Work.perform setup action))
        (world.act Clock.service (Work.perform setup action)) :=
  .always fun _ => Routine.run_eq_act _ _
    (Work.modest_perform setup rests_of_edits action (everywhere_of_edits edits)).still world

/-- A move of the clock by an action is a move of the clock. -/
theorem advance_comesTo (byHand : setup.byHand = true) {span : Span}
    {world after : World.Clocked Task State}
    (moves : ComesTo (fun ticks =>
      World.advance Clock.service (Work.tick setup) ticks span world) after) :
    ComesTo (fun ticks =>
      world.perform Clock.service (Work.tick setup) ticks (Work.perform setup (.advance span)))
        (.nothing, after) := by
  simp only [Work.perform_advance, if_pos byHand]
  exact moves.bind (.always fun _ => rfl)

/-- As long as there are no timers, edits and moves of the clock change nothing but the page and the
time, and nothing is heard. -/
theorem Scene.run_edits (byHand : setup.byHand = true) {actions : List Action}
    (edit : ∀ action ∈ actions, action.edits = true ∨ action.moves = true)
    (scene : Scene first past now [] world) (silent : heard world = []) :
    ∃ former after, former.length = actions.length ∧
      (∀ step ∈ former, attended step.log = []) ∧
      Scene first (callsOf actions ++ past) (now + elapsed actions) [] after ∧ heard after = [] ∧
      ∀ more steps,
        ComesTo (fun ticks => runOnClock setup Clock.service ticks more after) steps →
          ComesTo (fun ticks => runOnClock setup Clock.service ticks (actions ++ more) world)
            (former ++ steps) := by
  induction actions generalizing past now world with
  | nil => exact ⟨[], world, rfl, nofun, scene, silent, fun _ _ onward => onward⟩
  | cons action actions ih =>
      have edits : ∀ other ∈ actions, other.edits = true ∨ other.moves = true :=
        fun other member => edit other (.tail _ member)
      obtain ⟨outcome, ended, performs, acted, quiet⟩ : ∃ outcome ended,
          ComesTo (fun ticks =>
            world.perform Clock.service (Work.tick setup) ticks (Work.perform setup action))
              (outcome, ended) ∧
            Scene first (action.call?.toList ++ past) (now + action.span) [] ended ∧
            heard ended = [] := by
        rcases edit action (.head _) with editing | moving
        · obtain ⟨call, called⟩ := Option.isSome_iff_exists.mp editing
          obtain ⟨edited, same⟩ := scene.perform_edit setup called
          rw [called, Action.span_of_edits editing]
          exact ⟨_, _, edit_comesTo world editing, edited, same.trans silent⟩
        · obtain ⟨span, rfl⟩ := Action.exists_of_moves moving
          have rests : world.timers.nextDue? (world.timers.now + span) = none := by
            rw [Clock.nextDue?, scene.timers_eq]
            rfl
          have moves : ComesTo (fun ticks =>
              World.advance Clock.service (Work.tick setup) ticks span world)
              (world.arrive (world.timers.now + span)) :=
            ComesTo.succ (.always fun _ => rfl) (World.drain_rest rests)
          refine ⟨_, _, advance_comesTo byHand moves, ⟨scene.page_eq, ?_, scene.timers_eq⟩,
            silent⟩
          exact congrArg (· + span) scene.now_eq
      obtain ⟨former, after, length, unheard, there, still, onward⟩ :=
        ih edits acted.between.1 acted.between.2
      refine ⟨seenOnClock outcome ended :: former, after, congrArg (· + 1) length, ?_, ?_, still,
        fun more steps comes => cons_comesTo performs (onward more steps comes)⟩
      · intro step member
        rcases List.mem_cons.mp member with rfl | member
        · exact quiet
        · exact unheard step member
      · rw [callsOf_cons, elapsed_cons, List.append_assoc, ← Nat.add_assoc]
        exact there

/-- Where no timer is left, nothing is heard in the rest of the session. -/
theorem Scene.run_settled (byHand : setup.byHand = true) {actions : List Action}
    (edit : ∀ action ∈ actions, action.edits = true ∨ action.moves = true)
    (scene : Scene first past now [] world) :
    ∃ steps, ComesTo (fun ticks =>
        runOnClock setup Clock.service ticks actions (Session.between world)) steps ∧
      steps.flatMap (fun step => attended step.log) = [] := by
  obtain ⟨steps, last, -, unheard, -, -, onward⟩ :=
    scene.between.1.run_edits byHand edit scene.between.2
  have ends := onward [] [] (.always fun _ => rfl)
  rw [List.append_nil, List.append_nil] at ends
  exact ⟨steps, ends, List.flatMap_eq_nil_iff.mpr unheard⟩

end PageWatch.Session
