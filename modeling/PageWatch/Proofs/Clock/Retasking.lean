import PageWatch.Proofs.Clock.Chronicle
import PageWatch.Proofs.Clock.Ending

/-!
# Other tasks on a clock

A clock hands tasks to ticks and takes tasks back, but never looks at them.  If all tasks are
changed, and the ticks of changed tasks do the same up to such changes, then everything happens as
before.
-/

namespace PageWatch

variable {τ σ α β : Type}

def Clock.retask (change : τ → τ) (clock : Clock τ) : Clock τ :=
  { clock with
    timers := clock.timers.map fun entry =>
      (entry.1, { entry.2 with task := entry.2.task.map change }) }

namespace Clock

variable (change : τ → τ)

def Due.retask (due : Due τ) : Due τ := { due with task := change due.task }

theorem Due.ofTimer?_retask (target : Instant) (entry : Handle × Timer τ) :
    ofTimer? target (entry.1, { entry.2 with task := entry.2.task.map change }) =
      (ofTimer? target entry).map (Due.retask change) := by
  obtain ⟨handle, interval, due, task⟩ := entry
  cases task with
  | none => rfl
  | some task =>
      simp only [ofTimer?, Option.map_some]
      split <;> rfl

theorem Due.foldl_retask (first : Due τ) (more : List (Due τ)) :
    (more.map (Due.retask change)).foldl earlier (first.retask change) =
      (more.foldl earlier first).retask change := by
  induction more generalizing first with
  | nil => rfl
  | cons second more ih =>
      have next : earlier (first.retask change) (second.retask change) =
          (earlier first second).retask change := by
        by_cases less : second.deadline < first.deadline <;> simp [earlier, Due.retask, less]
      rw [List.map_cons, List.foldl_cons, List.foldl_cons, next, ih]

theorem nextDue?_retask (target : Instant) (clock : Clock τ) :
    (clock.retask change).nextDue? target =
      (clock.nextDue? target).map (Due.retask change) := by
  have listed : (clock.retask change).timers.filterMap (Due.ofTimer? target) =
      (clock.timers.filterMap (Due.ofTimer? target)).map (Due.retask change) := by
    rw [List.map_filterMap, retask, List.filterMap_map]
    exact congrArg (List.filterMap · clock.timers)
      (funext fun entry => Due.ofTimer?_retask change target entry)
  rw [nextDue?, nextDue?, listed]
  cases clock.timers.filterMap (Due.ofTimer? target) with
  | nil => rfl
  | cons first more => exact congrArg some (Due.foldl_retask change first more)

theorem update_retask {renamed original : Timer τ → Timer τ} (handle : Handle)
    (same : ∀ timer : Timer τ, renamed { timer with task := timer.task.map change } =
      { original timer with task := (original timer).task.map change })
    (clock : Clock τ) :
    (clock.retask change).update handle renamed = (clock.update handle original).retask change := by
  simp only [update, retask, List.map_map]
  congr 1
  refine List.map_congr_left fun entry _ => ?_
  simp only [Function.comp]
  split
  · rw [same]
  · rfl

theorem taking_retask (due : Due τ) (clock : Clock τ) :
    (clock.retask change).taking (due.retask change) = (clock.taking due).retask change :=
  update_retask change due.handle (fun _ => rfl) { clock with now := due.deadline }

theorem schedule_retask (interval : Span) {task other : Handle → τ}
    (same : ∀ handle, other handle = change (task handle)) (clock : Clock τ) :
    ((clock.retask change).schedule interval other).2 =
      (clock.schedule interval task).2.retask change := by
  simp [schedule, retask, same]

theorem cancel_retask (handle : Handle) (clock : Clock τ) :
    (clock.retask change).cancel handle = (clock.cancel handle).retask change := by
  simp only [cancel, retask, List.filter_map]
  rfl

theorem putBack_retask (handle : Handle) (task : τ) (clock : Clock τ) :
    (clock.retask change).putBack handle (change task) =
      (clock.putBack handle task).retask change :=
  update_retask change handle (fun _ => rfl) clock

end Clock

/-! ## Routines that differ in tasks -/

namespace Routine

def retask (change : τ → τ) : Routine τ σ α → Routine τ σ α
  | done result => done result
  | look next => look fun now state => (next now state).retask change
  | put state next => put state (next.retask change)
  | schedule interval task next =>
    schedule interval (fun handle => change (task handle)) fun handle => (next handle).retask change
  | cancel handle next => cancel handle (next.retask change)
  | clear next => clear (next.retask change)
  | advance span next => advance span (next.retask change)

theorem retask_bind (change : τ → τ) (routine : Routine τ σ α) (rest : α → Routine τ σ β) :
    (routine.bind rest).retask change =
      (routine.retask change).bind fun result => (rest result).retask change := by
  induction routine with
  | done result => rfl
  | look next ih => exact congrArg look (funext fun now => funext fun state => ih now state)
  | put state next ih => exact congrArg (put state) ih
  | schedule interval task next ih =>
      exact congrArg (schedule interval _) (funext fun handle => ih handle)
  | cancel handle next ih => exact congrArg (cancel handle) ih
  | clear next ih => exact congrArg clear ih
  | advance span next ih => exact congrArg (advance span) ih

theorem retask_chronicled (change : τ → τ) (routine : Routine τ σ α) :
    routine.chronicled.retask change = (routine.retask change).chronicled := by
  induction routine with
  | done result => rfl
  | look next ih =>
      refine congrArg look (funext fun now => funext fun state => ?_)
      exact congrArg (put _) (ih now state.1)
  | put state next ih =>
      exact congrArg look (funext fun _ => funext fun former => congrArg (put (state, former.2)) ih)
  | schedule interval task next ih =>
      refine congrArg (schedule interval _) (funext fun handle => ?_)
      exact congrArg (noting (.scheduled handle interval)) (ih handle)
  | cancel handle next ih =>
      exact congrArg (fun rest => cancel handle (noting (.cancelled handle) rest)) ih
  | clear next ih => exact congrArg (fun rest => clear (noting .cleared rest)) ih
  | advance span next ih =>
      exact congrArg (fun rest => noting (.departed span) (advance span (noting .arrived rest))) ih

theorem chronicled_bind (routine : Routine τ σ α) (rest : α → Routine τ σ β) :
    (routine.bind rest).chronicled =
      routine.chronicled.bind fun result => (rest result).chronicled := by
  induction routine with
  | done result => rfl
  | look next ih =>
      refine congrArg look (funext fun now => funext fun state => ?_)
      exact congrArg (put _) (ih now state.1)
  | put state next ih =>
      exact congrArg look (funext fun _ => funext fun former => congrArg (put (state, former.2)) ih)
  | schedule interval task next ih =>
      refine congrArg (schedule interval _) (funext fun handle => ?_)
      exact congrArg (noting (.scheduled handle interval)) (ih handle)
  | cancel handle next ih =>
      exact congrArg (fun rest => cancel handle (noting (.cancelled handle) rest)) ih
  | clear next ih => exact congrArg (fun rest => clear (noting .cleared rest)) ih
  | advance span next ih =>
      exact congrArg (fun rest => noting (.departed span) (advance span (noting .arrived rest))) ih

/-- Two routines do the same up to a change of the tasks that they give to timers. -/
def Alike (change : τ → τ) (first second : Routine τ σ α) : Prop :=
  first.retask change = second.retask change

namespace Alike

variable {change : τ → τ}

theorem refl (routine : Routine τ σ α) : routine.Alike change routine := rfl

theorem trans {first second third : Routine τ σ α} (one : first.Alike change second)
    (other : second.Alike change third) : first.Alike change third := Eq.trans one other

theorem symm {first second : Routine τ σ α} (alike : first.Alike change second) :
    second.Alike change first := Eq.symm alike

theorem bind {first second : Routine τ σ α} {rest other : α → Routine τ σ β}
    (begins : first.Alike change second)
    (rests : ∀ result, (rest result).Alike change (other result)) :
    (first.bind rest).Alike change (second.bind other) := by
  unfold Alike
  rw [retask_bind, retask_bind, begins, funext rests]

theorem schedule (interval : Span) {task other : Handle → τ}
    (same : ∀ handle, change (task handle) = change (other handle))
    (next : Handle → Routine τ σ α) :
    (Routine.schedule interval task next).Alike change (.schedule interval other next) := by
  unfold Alike
  rw [retask, retask, funext same]

theorem chronicled {first second : Routine τ σ α} (alike : first.Alike change second) :
    first.chronicled.Alike change second.chronicled := by
  unfold Alike
  rw [retask_chronicled, retask_chronicled, alike]

end Alike

end Routine

/-! ## Runs that differ in tasks -/

def Behaviour.retask (change : τ → τ) (behaviour : Behaviour τ σ) : Behaviour τ σ :=
  fun handle task =>
    ((behaviour handle task).bind fun left => Routine.done (change left)).retask change

/-- A tick does the same with a changed task, up to a change of tasks. -/
def Behaviour.Blind (change : τ → τ) (behaviour : Behaviour τ σ) : Prop :=
  ∀ handle task, behaviour.retask change handle (change task) = behaviour.retask change handle task

theorem Behaviour.Blind.chronicled {change : τ → τ} {behaviour : Behaviour τ σ}
    (blind : behaviour.Blind change) : behaviour.chronicled.Blind change := by
  intro handle task
  have alike : Routine.Alike change _ _ := Routine.Alike.chronicled (blind handle task)
  rw [Routine.chronicled_bind, Routine.chronicled_bind] at alike
  exact congrArg (Routine.noting (.ticked handle)) alike

namespace World

def retask (change : τ → τ) (world : Clocked τ σ) : Clocked τ σ :=
  { world with timers := world.timers.retask change }

/-- What a routine ends with, with other tasks. -/
def retaskEnd (change : τ → τ) (ended : α × Clocked τ σ) : α × Clocked τ σ :=
  (ended.1, ended.2.retask change)

variable {change : τ → τ}

theorem run_retask {move other : Span → Clocked τ σ → Option (Clocked τ σ)}
    (moves : ∀ span world, (move span world).map (retask change) = other span (world.retask change))
    (routine : Routine τ σ α) (world : Clocked τ σ) :
    (routine.run Clock.service move world).map (retaskEnd change) =
      (routine.retask change).run Clock.service other (world.retask change) := by
  induction routine generalizing world with
  | done result => rfl
  | look next ih => exact ih _ _ world
  | put state next ih => exact ih ⟨world.timers, state⟩
  | schedule interval task next ih =>
      simp only [Routine.retask, Routine.run, retask, Clock.service]
      rw [Clock.schedule_retask change interval fun _ => rfl]
      exact ih _ _
  | cancel handle next ih =>
      simp only [Routine.retask, Routine.run, retask, Clock.service]
      rw [Clock.cancel_retask]
      exact ih _
  | clear next ih => exact ih _
  | advance span next ih =>
      simp only [Routine.retask, Routine.run]
      rw [← moves]
      cases move span world with
      | none => rfl
      | some moved => exact ih moved

/-- A move of the clock with other tasks. -/
theorem drain_retask {behaviour : Behaviour τ σ} (blind : behaviour.Blind change) (ticks : Nat)
    (target : Instant) (world : Clocked τ σ) :
    (drain Clock.service behaviour ticks target world).map (retask change) =
      drain Clock.service (behaviour.retask change) ticks target (world.retask change) := by
  induction ticks generalizing target world with
  | zero => rfl
  | succ ticks ih =>
      have next : (world.retask change).timers.nextDue? target = _ :=
        Clock.nextDue?_retask change target world.timers
      rw [drain, drain, Clock.takeDue?_eq, Clock.takeDue?_eq, next]
      cases world.timers.nextDue? target with
      | none => rfl
      | some due =>
          let taken : Clocked τ σ := { world with timers := world.timers.taking due }
          have moves (span : Span) (inner : Clocked τ σ) :
              (advance Clock.service behaviour ticks span inner).map (retask change) =
                advance Clock.service (behaviour.retask change) ticks span (inner.retask change) :=
            ih (inner.timers.now + span) inner
          have ticked := run_retask moves
            ((behaviour due.handle due.task).bind fun left => .done (change left)) taken
          rw [Routine.run_bind, Option.bind_eq_bind] at ticked
          have changed : (world.retask change).timers.taking (due.retask change) =
              (world.timers.taking due).retask change :=
            Clock.taking_retask change due world.timers
          have acts : behaviour.retask change (due.retask change).handle (due.retask change).task =
              behaviour.retask change due.handle due.task := blind due.handle due.task
          simp only [Option.map_some, changed, acts]
          refine Eq.trans ?_ (congrArg (fun ended => ended.bind fun ended =>
            drain Clock.service (behaviour.retask change) ticks target
              { ended.2 with timers := ended.2.timers.putBack due.handle ended.1 }) ticked)
          rw [Option.bind_map, Option.bind_assoc, Option.bind_eq_bind, Option.map_bind]
          refine congrArg (Option.bind _) (funext fun ended => ?_)
          obtain ⟨task, after⟩ := ended
          simp only [Function.comp, Routine.run, retaskEnd, Option.pure_def, Option.bind_some, ih]
          exact congrArg (fun timers => drain Clock.service (behaviour.retask change) ticks target
            ⟨timers, after.state⟩) (Clock.putBack_retask change due.handle task after.timers).symm

/-- Two programs that are alike do the same, whatever ticks meanwhile. -/
theorem perform_alike {behaviour : Behaviour τ σ} (blind : behaviour.Blind change)
    {first second : Routine τ σ α} (alike : first.Alike change second) (ticks : Nat)
    (world : Clocked τ σ) :
    (perform Clock.service behaviour ticks first world).map (retaskEnd change) =
      (perform Clock.service behaviour ticks second world).map (retaskEnd change) := by
  have moves (span : Span) (inner : Clocked τ σ) :
      (advance Clock.service behaviour ticks span inner).map (retask change) =
        advance Clock.service (behaviour.retask change) ticks span (inner.retask change) :=
    drain_retask blind ticks (inner.timers.now + span) inner
  unfold perform
  rw [run_retask moves, run_retask moves, alike]

end World

end PageWatch
