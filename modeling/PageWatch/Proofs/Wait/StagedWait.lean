import PageWatch.Proofs.Clock.Ending
import PageWatch.Proofs.Wait.Chain
import PageWatch.Wait.Condition

/-!
# Sequential waits

A wait for all of several elements goes through them from the first to the last.  Here is a
machine that does so in plain terms, with stages and instants instead of waits whose
callbacks start other waits.  On a clock that is moved by hand, the wait shows exactly what
the machine shows, whatever the document answers.
-/

namespace PageWatch

variable {δ : Type}

/-- What can be seen of a wait. -/
inductive Sight where
  /-- The document is asked for a selector. -/
  | asked (selector : String)
  /-- The callback runs. -/
  | fired
  | scheduled (timer : Handle)
  | cancelled (timer : Handle)
  | cleared
  deriving DecidableEq, Repr

/-- What was seen, in order, and when. -/
abbrev Sights := List (Instant × Sight)

/-- How a document answers: its answer may depend on the time and on anything else that it
keeps. -/
abbrev Select (δ : Type) := Instant → String → δ → Except QueryError (List Match) × δ

/-! ## The machine -/

/-- A stage at which a wait stands: the selector that is polled and those after it. -/
structure Standing where
  selector : String
  others : List String
  /-- The instant of the next poll. -/
  due : Instant
  timer : Handle
  deriving DecidableEq, Repr

/-- A sequential wait and the document that it watches. -/
structure StagedWait (δ : Type) where
  now : Instant
  /-- The number of the next timer. -/
  next : Nat
  /-- How many timers were ever asked for. -/
  scheduled : Nat
  document : δ
  /-- The stage at which the wait stands; none when it is over. -/
  stage : Option Standing
  sights : Sights

namespace StagedWait

/-- Makes something visible. -/
def see (sight : Sight) (machine : StagedWait δ) : StagedWait δ :=
  { machine with sights := machine.sights ++ [(machine.now, sight)] }

/-- Asks the document for a selector. -/
def ask (select : Select δ) (selector : String) (machine : StagedWait δ) :
    Except QueryError (List Match) × StagedWait δ :=
  let (answer, document) := select machine.now selector machine.document
  (answer, { machine.see (.asked selector) with document })

/-- Ends the wait. -/
def stop (machine : StagedWait δ) : StagedWait δ := { machine with stage := none }

/-- Schedules the polls of a stage, the first of them after an interval. -/
def stay (interval : Span) (selector : String) (others : List String) (machine : StagedWait δ) :
    StagedWait δ :=
  let timer := Handle.mk machine.next
  { machine.see (.scheduled timer) with
    next := machine.next + 1
    scheduled := machine.scheduled + 1
    stage := some ⟨selector, others, machine.now + interval.clamp, timer⟩ }

/-- Goes through the stages at one instant, for as long as they match. -/
def enter (select : Select δ) (interval : Span) : List String → StagedWait δ → StagedWait δ
  | [], machine => (machine.see .fired).stop
  | selector :: others, machine =>
    match machine.ask select selector with
    | (.error _, machine) => machine.stop
    | (.ok [], machine) => machine.stay interval selector others
    | (.ok (_ :: _), machine) => machine.enter select interval others

/-- Polls a stage when it is due. -/
def poll (select : Select δ) (interval : Span) (stage : Standing) (machine : StagedWait δ) :
    StagedWait δ :=
  match { machine with now := stage.due }.ask select stage.selector with
  | (.error _, machine) => (machine.see (.cancelled stage.timer)).stop
  | (.ok [], machine) =>
    { machine with stage := some { stage with due := stage.due + interval.clamp } }
  | (.ok (_ :: _), machine) =>
    (machine.see (.cancelled stage.timer)).stop.enter select interval stage.others

@[simp] theorem now_ask (select : Select δ) (selector : String) (machine : StagedWait δ) :
    (machine.ask select selector).2.now = machine.now := rfl

@[simp] theorem next_ask (select : Select δ) (selector : String) (machine : StagedWait δ) :
    (machine.ask select selector).2.next = machine.next := rfl

theorem due_of_enter {select : Select δ} {interval : Span} {stages : List String}
    {machine : StagedWait δ} {stage : Standing}
    (stays : (machine.enter select interval stages).stage = some stage) :
    stage.due = machine.now + interval.clamp := by
  induction stages generalizing machine with
  | nil => simp [enter, stop] at stays
  | cons selector others ih =>
      rw [enter] at stays
      rw [← now_ask select selector machine]
      generalize machine.ask select selector = asked at stays ⊢
      obtain ⟨answer, machine⟩ := asked
      rcases answer with error | _ | _
      · simp [stop] at stays
      · simp only [stay, Option.some.injEq] at stays
        rw [← stays]
      · exact ih stays

/-- The timer of the stage at which a wait comes to stand is a new one. -/
theorem next_le_of_enter {select : Select δ} {interval : Span} {stages : List String}
    {machine : StagedWait δ} {stage : Standing}
    (stays : (machine.enter select interval stages).stage = some stage) :
    machine.next ≤ stage.timer.number := by
  induction stages generalizing machine with
  | nil => simp [enter, stop] at stays
  | cons selector others ih =>
      rw [enter] at stays
      rw [← next_ask select selector machine]
      generalize machine.ask select selector = asked at stays ⊢
      obtain ⟨answer, machine⟩ := asked
      rcases answer with error | _ | _
      · simp [stop] at stays
      · simp only [stay, Option.some.injEq] at stays
        exact Nat.le_of_eq (congrArg (fun stage : Standing => stage.timer.number) stays)
      · exact ih stays

theorem due_of_poll {select : Select δ} {interval : Span} {stage next : Standing}
    {machine : StagedWait δ} (stays : (machine.poll select interval stage).stage = some next) :
    next.due = stage.due + interval.clamp := by
  have now_eq := now_ask select stage.selector { machine with now := stage.due }
  rw [poll] at stays
  generalize StagedWait.ask select stage.selector { machine with now := stage.due } = asked
    at stays now_eq
  obtain ⟨answer, machine⟩ := asked
  rcases answer with error | _ | _
  · simp [stop] at stays
  · simp only [Option.some.injEq] at stays
    rw [← stays]
  · rw [due_of_enter stays]
    exact congrArg (· + interval.clamp) now_eq

/-- A bound on the polls that are due by an instant. -/
def left (target : Instant) (machine : StagedWait δ) : Nat :=
  match machine.stage with
  | none => 0
  | some stage => target + 1 - stage.due

theorem left_poll_lt {select : Select δ} {interval : Span} {target : Instant}
    {machine : StagedWait δ} {stage : Standing} (standing : machine.stage = some stage)
    (inTime : stage.due ≤ target) :
    (machine.poll select interval stage).left target < machine.left target := by
  rw [left, left, standing]
  cases polled : (machine.poll select interval stage).stage with
  | none =>
      simp only
      lia
  | some next =>
      have later := due_of_poll polled
      have positive := Span.clamp_pos interval
      simp only
      lia

/-- Lets time go on until an instant, with all the polls on the way. -/
def moveTo (select : Select δ) (interval : Span) (target : Instant) (machine : StagedWait δ) :
    StagedWait δ :=
  match _standing : machine.stage with
  | none => { machine with now := target }
  | some stage =>
    if _inTime : stage.due ≤ target then
      moveTo select interval target (machine.poll select interval stage)
    else { machine with now := target }
termination_by machine.left target
decreasing_by exact left_poll_lt _standing _inTime

/-- Moves the time forward step by step.  Before each step the document may change. -/
def run (select : Select δ) (interval : Span) (moves : List ((δ → δ) × Span))
    (machine : StagedWait δ) : StagedWait δ :=
  moves.foldl
    (fun machine move =>
      moveTo select interval (machine.now + move.2)
        { machine with document := move.1 machine.document })
    machine

end StagedWait

/-! ## One timer, one call -/

namespace Sights

/-- The timers that are scheduled after something has been seen. -/
def liveStep (timers : List Handle) : Instant × Sight → List Handle
  | (_, .scheduled timer) => timers ++ [timer]
  | (_, .cancelled timer) => timers.filter (· != timer)
  | (_, .cleared) => []
  | (_, .asked _) | (_, .fired) => timers

/-- The timers that were scheduled and not cancelled. -/
def live (sights : Sights) : List Handle := sights.foldl liveStep []

/-- How often the callback ran. -/
def fires (sights : Sights) : Nat := sights.countP fun sight => sight.2 = .fired

@[simp] theorem live_snoc (sights : Sights) (sight : Instant × Sight) :
    live (sights ++ [sight]) = liveStep (live sights) sight := by
  simp [live]

@[simp] theorem fires_snoc (sights : Sights) (sight : Instant × Sight) :
    fires (sights ++ [sight]) = fires sights + if sight.2 = .fired then 1 else 0 := by
  simp [fires, List.countP_cons]

/-- At every point there was at most one live timer. -/
def OneTimer (sights : Sights) : Prop := ∀ past, past <+: sights → (live past).length ≤ 1

theorem OneTimer.snoc {sights : Sights} {sight : Instant × Sight} (one : OneTimer sights)
    (still : (live (sights ++ [sight])).length ≤ 1) : OneTimer (sights ++ [sight]) := by
  intro past beginning
  rcases List.prefix_concat_iff.mp beginning with rfl | earlier
  · exact still
  · exact one past earlier

end Sights

namespace StagedWait

open Sights

/-- A machine between two instants: a wait that stands at a stage has one timer and has not
run its callback, and a wait that is over has no timer. -/
structure Tidy (machine : StagedWait δ) : Prop where
  known : ∀ stage, machine.stage = some stage → stage.timer.number < machine.next
  live_eq : live machine.sights = (machine.stage.map Standing.timer).toList
  oneTimer : OneTimer machine.sights
  unfired : machine.stage ≠ none → fires machine.sights = 0
  fires_le : fires machine.sights ≤ 1

/-- A machine between two stages. -/
structure Ready (machine : StagedWait δ) : Prop where
  live_eq : live machine.sights = []
  oneTimer : OneTimer machine.sights
  unfired : fires machine.sights = 0

variable {select : Select δ} {interval : Span} {machine : StagedWait δ}

theorem Ready.stop (ready : Ready machine) : Tidy machine.stop :=
  { known := nofun
    live_eq := ready.live_eq
    oneTimer := ready.oneTimer
    unfired := fun stands => absurd rfl stands
    fires_le := by simp [StagedWait.stop, ready.unfired] }

theorem Ready.ask (ready : Ready machine) (selector : String) :
    Ready (machine.ask select selector).2 where
  live_eq := by simp [StagedWait.ask, see, liveStep, ready.live_eq]
  oneTimer := ready.oneTimer.snoc (by simp [liveStep, ready.live_eq])
  unfired := by simp [StagedWait.ask, see, ready.unfired]

theorem Ready.enter (ready : Ready machine) (stages : List String) :
    Tidy (machine.enter select interval stages) := by
  induction stages generalizing machine with
  | nil =>
      exact
        { known := nofun
          live_eq := by simp [StagedWait.enter, StagedWait.stop, see, liveStep, ready.live_eq]
          oneTimer := ready.oneTimer.snoc (by simp [liveStep, ready.live_eq])
          unfired := fun stands => absurd rfl stands
          fires_le := by simp [StagedWait.enter, StagedWait.stop, see, ready.unfired] }
  | cons selector others ih =>
      have asked : Ready (machine.ask select selector).2 := ready.ask selector
      rw [StagedWait.enter]
      generalize machine.ask select selector = result at asked ⊢
      obtain ⟨answer, machine⟩ := result
      rcases answer with error | _ | _
      · exact asked.stop
      · exact
          { known := by simp [stay]
            live_eq := by simp [stay, see, liveStep, asked.live_eq]
            oneTimer := asked.oneTimer.snoc (by simp [liveStep, asked.live_eq])
            unfired := fun _ => by simp [stay, see, asked.unfired]
            fires_le := by simp [stay, see, asked.unfired] }
      · exact ih asked

/-- A stage that has ended leaves no timer behind. -/
theorem Ready.of_cancelled {timer : Handle} (live_eq : live machine.sights = [timer])
    (oneTimer : OneTimer machine.sights) (unfired : fires machine.sights = 0) :
    Ready (machine.see (.cancelled timer)).stop where
  live_eq := by simp [StagedWait.stop, see, liveStep, live_eq]
  oneTimer := oneTimer.snoc (by simp [liveStep, live_eq])
  unfired := by simp [StagedWait.stop, see, unfired]

theorem Tidy.poll {stage : Standing} (tidy : Tidy machine) (standing : machine.stage = some stage) :
    Tidy (machine.poll select interval stage) := by
  have live_eq : live machine.sights = [stage.timer] := by simp [tidy.live_eq, standing]
  have unfired : fires machine.sights = 0 := tidy.unfired (by simp [standing])
  have known := tidy.known stage standing
  -- Asking the document changes nothing about the timer.
  have asked_live : live (StagedWait.ask select stage.selector
      { machine with now := stage.due }).2.sights = [stage.timer] := by
    simp [StagedWait.ask, see, liveStep, live_eq]
  have asked_one : OneTimer (StagedWait.ask select stage.selector
      { machine with now := stage.due }).2.sights :=
    tidy.oneTimer.snoc (by simp [liveStep, live_eq])
  have asked_unfired : fires (StagedWait.ask select stage.selector
      { machine with now := stage.due }).2.sights = 0 := by
    simp [StagedWait.ask, see, unfired]
  rw [StagedWait.poll]
  rw [← next_ask select stage.selector { machine with now := stage.due }] at known
  generalize StagedWait.ask select stage.selector { machine with now := stage.due } = asked
    at known asked_live asked_one asked_unfired ⊢
  obtain ⟨answer, machine⟩ := asked
  rcases answer with error | _ | _
  · exact (Ready.of_cancelled asked_live asked_one asked_unfired).stop
  · exact
      { known := by
          rintro next ⟨⟩
          exact known
        live_eq := asked_live
        oneTimer := asked_one
        unfired := fun _ => asked_unfired
        fires_le := by simp [asked_unfired] }
  · exact (Ready.of_cancelled asked_live asked_one asked_unfired).enter stage.others

theorem Tidy.moveTo (tidy : Tidy machine) (target : Instant) :
    Tidy (machine.moveTo select interval target) := by
  fun_induction StagedWait.moveTo select interval target machine with
  | case1 machine standing => exact { tidy with }
  | case2 machine stage standing inTime ih => exact ih (tidy.poll standing)
  | case3 machine stage standing late => exact { tidy with }

end StagedWait

end PageWatch
