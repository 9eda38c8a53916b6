import PageWatch.Proofs.Clock.Forward
import PageWatch.Proofs.Session.Ending

/-!
# How time goes on in a session

The clock of a session shows later and later times from step to step.  Within a step it may go
back, but only after a tick that has moved the clock too far itself.
-/

namespace PageWatch

/-- What follows a program goes on where the program ends. -/
theorem World.Moment.acting_bind {τ σ α β : Type} (behaviour : Behaviour τ σ)
    (rest : β → Routine τ σ α) :
    Acting behaviour (fun routine : Routine τ σ β => routine.bind rest) fun _ => [] where
  acts routine world onward after next := by
    cases routine with
    | done | advance => exact absurd next nofun
    | look | put | schedule | cancel | clear =>
        obtain ⟨rfl, rfl⟩ := Routine.Next.acts.inj next
        rfl
  moves routine world target onward next := by
    cases routine with
    | advance span =>
        obtain ⟨rfl, rfl⟩ := Routine.Next.moves.inj next
        rfl
    | done | look | put | schedule | cancel | clear => exact absurd next nofun

namespace Session

open World (Moment)

/-- The actions of a session as one program. -/
def Work.session (setup : Setup) : List Action → Work Unit
  | [] => .done ()
  | action :: more =>
    (perform setup action).bind fun _ =>
      .look fun _ state => .put (takeLog state).2 (session setup more)

/-- A session goes from moment to moment, and what is seen after an action is what the clock shows
between that action and the next. -/
theorem leadsTo_session (setup : Setup) {ticks : Nat} {actions : List Action}
    {world : World.Clocked Task State} {steps : List ClockStep}
    (ran : runOnClock setup Clock.service ticks actions world = some steps) :
    (∃ after, Moment.LeadsTo (Work.tick setup) (.begin (Work.session setup actions) world)
        (.ended () after)) ∧
      (∀ step ∈ steps, world.timers.now ≤ step.now ∧
        ∃ moment, Moment.LeadsTo (Work.tick setup) (.begin (Work.session setup actions) world)
          moment ∧ moment.AtRest ∧ moment.now = step.now) ∧
      (steps.map fun step => step.now).Pairwise (· ≤ ·) := by
  induction actions generalizing world steps with
  | nil =>
      obtain rfl := Option.some.inj ran
      exact ⟨⟨world, .refl⟩, fun _ member => absurd member List.not_mem_nil, .nil⟩
  | cons action more ih =>
      rw [runOnClock_cons] at ran
      obtain ⟨⟨outcome, after⟩, performed, rest⟩ := Option.bind_eq_some_iff.mp ran
      obtain ⟨later, onward, rfl⟩ := Option.map_eq_some_iff.mp rest
      obtain ⟨⟨last, ends⟩, seen, sorted⟩ := ih onward
      have forward : world.timers.now ≤ after.timers.now := World.now_le_perform performed
      have leads : Moment.LeadsTo (Work.tick setup)
          (.begin (Work.session setup (action :: more)) world)
          (.begin (Work.session setup more) (between after)) := by
        have acted := (Moment.acting_bind (Work.tick setup) fun _ : Outcome =>
          .look fun _ state => .put (takeLog state).2 (Work.session setup more)).leadsTo
            (fun span inner => Moment.moves_drain Unit (Work.tick setup) ticks
              (inner.timers.now + span) inner) performed
        exact acted.trans (.head rfl (.single rfl))
      refine ⟨⟨last, leads.trans ends⟩, ?_, ?_⟩
      · intro step member
        rcases List.mem_cons.mp member with rfl | member
        · exact ⟨forward, _, leads, ⟨rfl, rfl⟩, rfl⟩
        · obtain ⟨beyond, moment, reached, rests, shows⟩ := seen step member
          exact ⟨Nat.le_trans forward beyond, moment, leads.trans reached, rests, shows⟩
      · rw [List.map_cons, List.pairwise_cons]
        refine ⟨fun now member => ?_, sorted⟩
        obtain ⟨step, stepMem, rfl⟩ := List.mem_map.mp member
        exact (seen step stepMem).1

/-! ## Sessions whose ticks leave the clock alone -/

/-- Whether an action does not move the clock. -/
def Action.stays (action : Action) : Bool := !action.moves

/-- Whether nothing that an action sets off moves the clock.  The action itself may. -/
def Action.plain : Action → Bool
  | .advance _ => true
  | action => action.everywhere stays

namespace Work

theorem rests_of_stays (action : Action) (stays : action.stays = true) :
    action.moves = false ∧ (action.clears = true → True) :=
  ⟨by simpa [Action.stays] using stays, fun _ => trivial⟩

theorem gives_perform (setup : Setup) {action : Action} (plain : action.plain = true) :
    (perform setup action).Gives (Task.Carries Action.stays) := by
  cases action with
  | advance span =>
      rw [perform_advance]
      cases setup.byHand <;> trivial
  | mark | sleep | jump | clear | schedule | cancel | wait | load | set | reply | select
  | unknown => exact (modest_perform setup rests_of_stays _ plain).gives

theorem gives_session (setup : Setup) {actions : List Action}
    (plain : ∀ action ∈ actions, action.plain = true) :
    (session setup actions).Gives (Task.Carries Action.stays) := by
  induction actions with
  | nil => trivial
  | cons action more ih =>
      refine (gives_perform setup (plain action (.head _))).bind fun _ _ _ => ?_
      exact ih fun other member => plain other (.tail _ member)

end Work

/-- The clock shows later and later times from step to step of a session.  At all moments in
between, and whatever ticks and callbacks do, it goes back if and only if a tick ends after it has
moved the clock beyond the end of the move to which it belongs, or beyond the deadline at which its
own timer is to tick again.  No tick does so if none moves the clock.  As long as none does, ticks
come in the order of their deadlines. -/
theorem time_goes_on (setup : Setup) (page : Page) (actions : List Action) :
    let first : World.Moment Task State Unit :=
      .begin (Work.session setup actions) ⟨Clock.start, State.start page⟩
    let reaches := Moment.LeadsTo (α := Unit) (Work.tick setup)
    ∃ steps, ComesTo (fun ticks =>
        runOnClock setup Clock.service ticks actions ⟨Clock.start, State.start page⟩) steps ∧
      (steps.map fun step => step.now).Pairwise (· ≤ ·) ∧
      (∀ step ∈ steps, ∃ moment, reaches first moment ∧ moment.AtRest ∧ moment.now = step.now) ∧
      ((∀ moment, reaches first moment → moment.InTime) ↔
        ∀ earlier later, reaches first earlier → reaches earlier later →
          earlier.now ≤ later.now) ∧
      ((∀ action ∈ actions, action.plain = true) →
        ∀ moment, reaches first moment → moment.InTime) ∧
      ((∀ moment, reaches first moment → moment.InTime) →
        ∀ earlier later due after, reaches first earlier → reaches earlier later →
          earlier.ticking? = some due → later.ticking? = some after →
            due.deadline ≤ after.deadline) := by
  intro first reaches
  obtain ⟨steps, comes⟩ := runOnClock_comesTo setup actions ⟨Clock.start, State.start page⟩
    Clock.orderly_start.regular
  obtain ⟨ticks, ran⟩ := comes.once
  obtain ⟨-, seen, sorted⟩ := leadsTo_session setup ran
  have forward : first.Forward :=
    .begin _ .start fun _ member => absurd member List.not_mem_nil
  refine ⟨steps, comes, sorted, fun step member => (seen step member).2, forward.inTime_iff,
    fun plain moment leads => ?_, fun inTime earlier later due after leads onward => ?_⟩
  · have begun : first.Plain (Task.Carries Action.stays) :=
      .begin (Work.gives_session setup plain) fun _ member => absurd member List.not_mem_nil
    exact (begun.leadsTo (Work.modest_tick setup Work.rests_of_stays) leads).inTime
  · exact Moment.deadline_le_deadline (forward.inTime_iff.mp inTime) leads onward

/-- A tick may take the clock past the end of the move in which it comes, and then the move takes
the clock back.  It may also take the clock past its own next deadline, and then it comes after
ticks with later deadlines. -/
theorem time_goes_back :
    (onClock ⟨false, standardInterval, true⟩ false (.scripted ⟨[]⟩)
        [.schedule "slow" (Span.ofMs 50) [[.advance (Span.ofMs 30), .mark "late"]],
          .advance (Span.ofMs 60)]).map (fun steps => steps.map fun step => (step.log, step.now)) =
      some [([], 0),
        ([(Span.ofMs 50, .tick "slow"), (Span.ofMs 80, .mark "late")], Span.ofMs 60)] ∧
    (onClock ⟨false, standardInterval, true⟩ false (.scripted ⟨[]⟩)
        [.schedule "slow" (Span.ofMs 10) [[.advance (Span.ofMs 30)]],
          .schedule "fast" (Span.ofMs 10) [],
          .advance (Span.ofMs 20)]).map (fun steps => steps.map fun step => (step.log, step.now)) =
      some [([], 0), ([], 0),
        ([(Span.ofMs 10, .tick "slow"), (Span.ofMs 10, .tick "fast"), (Span.ofMs 20, .tick "fast"),
          (Span.ofMs 30, .tick "fast"), (Span.ofMs 40, .tick "fast"), (Span.ofMs 20, .tick "slow")],
          Span.ofMs 20)] := by
  constructor <;> rfl

end Session

end PageWatch
