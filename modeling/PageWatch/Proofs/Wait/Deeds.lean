import PageWatch.Proofs.Clock.Watching
import PageWatch.Wait.Basic

/-!
# What a wait does itself

A wait calls routines of its surroundings: the check of its condition, the place where its
notices go, and its callback.  These may use the timers as they like.  To tell what the wait
does from what they do, the watched wait keeps a list of its own deeds, and sets a flag
while its surroundings act.
-/

namespace PageWatch

variable {τ σ κ χ β α γ : Type}

/-- Something that a wait does. -/
inductive Deed (τ : Type) where
  | checked (answer : Except QueryError Bool)
  /-- A timer is asked for, and gets a handle and a task. -/
  | scheduled (interval : Span) (handle : Handle) (task : τ)
  | cancelled (handle : Handle)
  | cleared
  /-- The callback starts. -/
  | called

/-- The deed of asking timers for something. -/
def Deed.ofRequest : TimerRequest τ → Deed τ
  | .schedule interval handle task => .scheduled interval handle task
  | .cancel handle => .cancelled handle
  | .clear => .cleared

/-- The deeds of a wait so far, and whether its surroundings act at present. -/
structure Watch (τ : Type) where
  aside : Bool
  deeds : List (Deed τ)

/-- Writes down a deed, unless it is one of the surroundings. -/
def Watch.note (deed : Deed τ) (watch : Watch τ) : Watch τ :=
  if watch.aside then watch else { watch with deeds := watch.deeds ++ [deed] }

namespace Routine

/-- Writes down a deed. -/
def noteDeed (deed : Deed τ) : Routine τ (σ × Watch τ) Unit := annotate fun _ => Watch.note deed

/-- The same routine, with its requests as deeds. -/
def withDeeds (routine : Routine τ (σ × Watch τ) α) : Routine τ (σ × Watch τ) α :=
  routine.watched fun request _ => Watch.note (.ofRequest request)

/-- Says whether the surroundings act from now on. -/
def setAside (aside : Bool) : Routine τ (σ × Watch τ) Unit :=
  annotate fun _ watch => { watch with aside }

/-- A routine of the surroundings. -/
def aside (routine : Routine τ σ α) : Routine τ (σ × Watch τ) α := do
  setAside true
  let result ← routine.beside
  setAside false
  return result

theorem withDeeds_bind (routine : Routine τ (σ × Watch τ) α)
    (rest : α → Routine τ (σ × Watch τ) γ) :
    (routine.bind rest).withDeeds = routine.withDeeds.bind fun result => (rest result).withDeeds :=
  watched_bind _ routine rest

theorem shadows_aside (routine : Routine τ σ α) : routine.aside.withDeeds.Shadows routine := by
  intro κ service world
  have beside := shadows_beside (fun request _ => Watch.note (.ofRequest request)) routine κ
    service { world with state := (world.state.1, { world.state.2 with aside := true }) }
  simp only [aside, bind_eq, withDeeds_bind, World.act_bind]
  exact beside

end Routine

namespace World

variable {service : TimerService κ τ}

/-- The deeds that have been written down. -/
def deeds (world : World κ (σ × Watch τ)) : List (Deed τ) := world.state.2.deeds

@[simp] theorem act_noteDeed (deed : Deed τ) (world : World κ (σ × Watch τ)) :
    world.act service (Routine.noteDeed deed).withDeeds =
      ((), { world with state := (world.state.1, world.state.2.note deed) }) := rfl

/-- Nothing is written down while the surroundings act. -/
theorem act_beside (routine : Routine τ σ α) (world : World κ (σ × Watch τ))
    (aside : world.state.2.aside = true) :
    (world.act service routine.beside.withDeeds).2.state.2 = world.state.2 := by
  have silent (deed : Deed τ) : world.state.2.note deed = world.state.2 := by
    rw [Watch.note, if_pos aside]
  induction routine generalizing world with
  | done result => rfl
  | look next ih => exact ih _ _ world aside silent
  | put state next ih => exact ih ⟨world.timers, state, world.state.2⟩ aside silent
  | schedule interval task next ih =>
      refine (congrArg (fun watch => (World.act service (next _).beside.withDeeds
        ⟨_, world.state.1, watch⟩).2.state.2) (silent _)).trans ?_
      exact ih _ ⟨_, world.state⟩ aside silent
  | cancel handle next ih =>
      refine (congrArg (fun watch => (World.act service next.beside.withDeeds
        ⟨_, world.state.1, watch⟩).2.state.2) (silent _)).trans ?_
      exact ih ⟨_, world.state⟩ aside silent
  | clear next ih =>
      refine (congrArg (fun watch => (World.act service next.beside.withDeeds
        ⟨_, world.state.1, watch⟩).2.state.2) (silent _)).trans ?_
      exact ih ⟨_, world.state⟩ aside silent
  | advance span next ih => exact ih world aside silent

/-- A routine of the surroundings leaves the deeds alone. -/
theorem act_aside (service : TimerService κ τ) (routine : Routine τ σ α) (timers : κ)
    (state : σ) (deeds : List (Deed τ)) :
    ∃ result timersAfter stateAfter,
      World.act service routine.aside.withDeeds ⟨timers, state, ⟨false, deeds⟩⟩ =
        (result, ⟨timersAfter, stateAfter, ⟨false, deeds⟩⟩) := by
  let during := World.act service routine.beside.withDeeds ⟨timers, state, ⟨true, deeds⟩⟩
  have kept : during.2.state.2 = ⟨true, deeds⟩ :=
    act_beside routine ⟨timers, state, ⟨true, deeds⟩⟩ rfl
  refine ⟨during.1, during.2.timers, during.2.state.1, ?_⟩
  have unfolded : World.act service routine.aside.withDeeds ⟨timers, state, ⟨false, deeds⟩⟩ =
      (during.1, ⟨during.2.timers, during.2.state.1, ⟨false, during.2.state.2.deeds⟩⟩) := by
    simp only [Routine.aside, Routine.bind_eq, Routine.withDeeds_bind, act_bind]
    rfl
  rw [unfolded, kept]

end World

/-! ## The watched wait -/

namespace Wait

/-- The surroundings of a wait that is watched. -/
def Host.watched (host : Host χ β τ σ) : Host χ β τ (σ × Watch τ) where
  check condition := do
    let (answer, condition) ← (host.check condition).aside
    Routine.noteDeed (.checked answer)
    return (answer, condition)
  report notice := (host.report notice).aside
  task := host.task

def calling (fire : Routine τ σ (Progress γ)) :
    Routine τ (σ × Watch τ) (Progress γ) := do
  Routine.noteDeed .called
  fire.aside

/-! ## Watching changes nothing -/

theorem shadows_check (host : Host χ β τ σ) (condition : χ) :
    (host.watched.check condition).withDeeds.Shadows (host.check condition) := by
  intro κ service world
  have made := Routine.shadows_aside (host.check condition) κ service world
  simp only [Host.watched, Routine.bind_eq, Routine.withDeeds_bind, World.act_bind]
  exact made

theorem shadows_report (host : Host χ β τ σ) (notice : Notice) :
    (host.watched.report notice).withDeeds.Shadows (host.report notice) :=
  Routine.shadows_aside (host.report notice)

theorem shadows_calling (fire : Routine τ σ (Progress γ)) :
    (calling fire).withDeeds.Shadows fire := by
  have noted : (Routine.noteDeed .called).withDeeds.Shadows (.done () : Routine τ σ Unit) :=
    fun _ _ _ => rfl
  rw [calling, Routine.bind_eq, Routine.withDeeds_bind]
  exact noted.bind fun _ => Routine.shadows_aside fire

theorem shadows_start (host : Host χ β τ σ) (interval : Span) (callback : β)
    (fire : Routine τ σ (Progress γ)) (condition : χ) :
    (start host.watched interval callback (calling fire) condition).withDeeds.Shadows
      (start host interval callback fire condition) := by
  simp only [start, Routine.bind_eq, Routine.withDeeds_bind]
  refine (shadows_check host condition).bind fun checked => ?_
  obtain ⟨answer, condition⟩ := checked
  rcases answer with error | _ | _
  · simp only [Routine.withDeeds_bind]
    exact (shadows_report host _).bind fun _ => Routine.shadows_done _
  · simp only [Routine.withDeeds_bind]
    exact (shadows_report host _).bind fun _ _ _ _ => rfl
  · exact shadows_calling fire

theorem shadows_tick (host : Host χ β τ σ) (fire : β → Routine τ σ (Progress γ))
    (wait : Wait χ β) :
    (tick host.watched (fun callback => calling (fire callback)) wait).withDeeds.Shadows
      (tick host fire wait) := by
  obtain ⟨condition, callback, slot⟩ := wait
  cases callback with
  | none => exact Routine.shadows_done _
  | some callback =>
      simp only [tick, Routine.bind_eq, Routine.withDeeds_bind]
      refine (shadows_check host condition).bind fun checked => ?_
      obtain ⟨answer, condition⟩ := checked
      rcases answer with error | _ | _
      · simp only [Routine.withDeeds_bind]
        exact (Routine.shadows_cancelSlot _ slot).bind fun _ =>
          (shadows_report host _).bind fun _ => Routine.shadows_done _
      · exact Routine.shadows_done _
      · simp only [Routine.withDeeds_bind]
        exact (Routine.shadows_cancelSlot _ slot).bind fun _ =>
          (shadows_report host _).bind fun _ =>
            (shadows_calling (fire callback)).bind fun _ => Routine.shadows_done _

end Wait

end PageWatch
