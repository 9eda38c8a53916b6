import PageWatch.Clock.Advance

/-!
# Routines that leave the clock alone

A routine is still if it never asks for the clock to be moved.  What moving the clock
means is then of no consequence: a still routine runs to its end in any case, and time
stands still meanwhile.
-/

namespace PageWatch

variable {τ σ κ α β : Type}

namespace Routine

/-- A routine that never moves the clock. -/
def Still : Routine τ σ α → Prop
  | done _ => True
  | look next => ∀ now state, (next now state).Still
  | put _ next => next.Still
  | schedule _ _ next => ∀ handle, (next handle).Still
  | cancel _ next | clear next => next.Still
  | advance _ _ => False

theorem Still.bind {routine : Routine τ σ α} {rest : α → Routine τ σ β}
    (still : routine.Still) (rests : ∀ result, (rest result).Still) :
    (routine.bind rest).Still := by
  induction routine with
  | done result => exact rests result
  | look next ih => exact fun now state => ih now state (still now state)
  | put state next ih => exact ih still
  | schedule interval task next ih => exact fun handle => ih handle (still handle)
  | cancel handle next ih => exact ih still
  | clear next ih => exact ih still
  | advance span next => exact still.elim

/-- A routine that never moves the clock and gives timers tasks of some kind only.  It may be
allowed to clear the timers, and it ends with a result of some kind. -/
def Modest (clears : Prop) (kind : τ → Prop) (ends : α → Prop) : Routine τ σ α → Prop
  | done result => ends result
  | look next => ∀ now state, (next now state).Modest clears kind ends
  | put _ next => next.Modest clears kind ends
  | schedule _ task next =>
    (∀ handle, kind (task handle)) ∧ ∀ handle, (next handle).Modest clears kind ends
  | cancel _ next => next.Modest clears kind ends
  | clear next => clears ∧ next.Modest clears kind ends
  | advance _ _ => False

namespace Modest

variable {clears : Prop} {kind : τ → Prop} {ends : α → Prop}

theorem bind {routine : Routine τ σ α} {rest : α → Routine τ σ β} {last : β → Prop}
    (modest : routine.Modest clears kind ends)
    (rests : ∀ result, ends result → (rest result).Modest clears kind last) :
    (routine.bind rest).Modest clears kind last := by
  induction routine with
  | done result => exact rests result modest
  | look next ih => exact fun now state => ih now state (modest now state)
  | put state next ih => exact ih modest
  | schedule interval task next ih => exact ⟨modest.1, fun handle => ih handle (modest.2 handle)⟩
  | cancel handle next ih => exact ih modest
  | clear next ih => exact ⟨modest.1, ih modest.2⟩
  | advance span next => exact modest.elim

/-- What follows a modest routine matters only for results of the kind that it ends with. -/
theorem bind_congr {routine : Routine τ σ α} (modest : routine.Modest clears kind ends)
    {rest other : α → Routine τ σ β} (same : ∀ result, ends result → rest result = other result) :
    routine.bind rest = routine.bind other := by
  induction routine with
  | done result => exact same result modest
  | look next ih =>
      apply congrArg look
      funext now state
      exact ih now state (modest now state)
  | put state next ih => exact congrArg (put state) (ih modest)
  | schedule interval task next ih =>
      apply congrArg (schedule interval task)
      funext handle
      exact ih handle (modest.2 handle)
  | cancel handle next ih => exact congrArg (cancel handle) (ih modest)
  | clear next ih => exact congrArg clear (ih modest.2)
  | advance span next => exact modest.elim

theorem still {routine : Routine τ σ α} (modest : routine.Modest clears kind ends) :
    routine.Still := by
  induction routine with
  | done result => trivial
  | look next ih => exact fun now state => ih now state (modest now state)
  | put state next ih => exact ih modest
  | schedule interval task next ih => exact fun handle => ih handle (modest.2 handle)
  | cancel handle next ih => exact ih modest
  | clear next ih => exact ih modest.2
  | advance span next => exact modest.elim

theorem cancelSlot (slot : Option Handle) :
    (Routine.cancelSlot slot : Routine τ σ Unit).Modest clears kind fun _ => True := by
  cases slot <;> trivial

end Modest

/-- Running two routines in a row is running the second where the first has ended. -/
theorem run_bind {m : Type → Type} [Monad m] [LawfulMonad m] (service : TimerService κ τ)
    (move : Span → World κ σ → m (World κ σ)) (routine : Routine τ σ α)
    (rest : α → Routine τ σ β) (world : World κ σ) :
    (routine.bind rest).run service move world =
      routine.run service move world >>= fun ended =>
        (rest ended.1).run service move ended.2 := by
  induction routine generalizing world with
  | done result => simp [Routine.bind, run]
  | look next ih => exact ih _ _ world
  | put state next ih => exact ih _
  | schedule interval task next ih => exact ih _ _
  | cancel handle next ih => exact ih _
  | clear next ih => exact ih _
  | advance span next ih => simp [Routine.bind, run, ih]

/-- A still routine does the same whatever moving the clock would do. -/
theorem run_eq_act {m : Type → Type} [Monad m] [LawfulMonad m]
    (service : TimerService κ τ) (move : Span → World κ σ → m (World κ σ))
    {routine : Routine τ σ α} (still : routine.Still) (world : World κ σ) :
    routine.run service move world = pure (world.act service routine) := by
  induction routine generalizing world with
  | done result => rfl
  | look next ih => exact ih _ _ (still _ _) world
  | put state next ih => exact ih still _
  | schedule interval task next ih => exact ih _ (still _) _
  | cancel handle next ih => exact ih still _
  | clear next ih => exact ih still _
  | advance span next => exact still.elim

end Routine

namespace World

variable {service : TimerService κ τ}

@[simp] theorem act_done (result : α) (world : World κ σ) :
    world.act service (.done result) = (result, world) := rfl

@[simp] theorem act_look (next : Instant → σ → Routine τ σ α) (world : World κ σ) :
    world.act service (.look next) =
      world.act service (next (service.now world.timers) world.state) := rfl

@[simp] theorem act_put (state : σ) (next : Routine τ σ α) (world : World κ σ) :
    world.act service (.put state next) = { world with state }.act service next := rfl

@[simp] theorem act_schedule (interval : Span) (task : Handle → τ)
    (next : Handle → Routine τ σ α) (world : World κ σ) :
    world.act service (.schedule interval task next) =
      { world with timers := (service.schedule interval task world.timers).2 }.act service
        (next (service.schedule interval task world.timers).1) := rfl

@[simp] theorem act_cancel (handle : Handle) (next : Routine τ σ α) (world : World κ σ) :
    world.act service (.cancel handle next) =
      { world with timers := service.cancel handle world.timers }.act service next := rfl

@[simp] theorem act_clear (next : Routine τ σ α) (world : World κ σ) :
    world.act service (.clear next) =
      { world with timers := service.clear world.timers }.act service next := rfl

@[simp] theorem act_bind (routine : Routine τ σ α) (rest : α → Routine τ σ β)
    (world : World κ σ) :
    world.act service (routine.bind rest) =
      (world.act service routine).2.act service (rest (world.act service routine).1) :=
  Routine.run_bind (m := Id) service _ routine rest world

/-- What every request to the timers preserves holds of them after a routine. -/
theorem act_keeps (holds : κ → Prop)
    (schedule : ∀ interval task timers,
      holds timers → holds (service.schedule interval task timers).2)
    (cancel : ∀ handle timers, holds timers → holds (service.cancel handle timers))
    (clear : ∀ timers, holds timers → holds (service.clear timers))
    (routine : Routine τ σ α) (world : World κ σ) (start : holds world.timers) :
    holds (world.act service routine).2.timers := by
  induction routine generalizing world with
  | done result => exact start
  | look next ih => exact ih _ _ world start
  | put state next ih => exact ih _ start
  | schedule interval task next ih => exact ih _ _ (schedule _ _ _ start)
  | cancel handle next ih => exact ih _ (cancel _ _ start)
  | clear next ih => exact ih _ (clear _ start)
  | advance span next ih => exact ih _ start

variable {ω : Type}

/-- The world without what is kept beside its state. -/
def forget (world : World κ (σ × ω)) : World κ σ := ⟨world.timers, world.state.1⟩

/-- What a routine ends with, without what is kept beside the state. -/
def forgetEnd (ended : α × World κ (σ × ω)) : α × World κ σ := (ended.1, ended.2.forget)

end World

end PageWatch
