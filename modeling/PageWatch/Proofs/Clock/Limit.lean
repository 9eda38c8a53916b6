import PageWatch.Clock.Limit
import PageWatch.Proofs.Clock.Ending

/-!
# Runs with a limit on time

A run that stops at the first time that cannot be kept does the same as one without any limit, or
it meets such a time.  Whether it does is settled as soon as it is allowed enough ticks.

As long as no tick moves the clock itself, a move of the clock meets such a time if and only if one
of its ticks does, or one of the timers is then due too late.
-/

namespace PageWatch

variable {τ σ α β : Type}

/-- A run with a limit on time does what one without does, or it meets a time that cannot be
kept. -/
inductive Curbed : Except Halt α → Option α → Prop
  | ended (result : α) : Curbed (.ok result) (some result)
  | overflow (free : Option α) : Curbed (.error .overflow) free
  | unfinished : Curbed (.error .unfinished) none

/-- A run that is allowed more ticks goes on where the other one stops for lack of them. -/
inductive Extends : Except Halt α → Except Halt α → Prop
  | same (kept : Except Halt α) : Extends kept kept
  | onward (later : Except Halt α) : Extends (.error .unfinished) later

/-- No time is met that cannot be kept, however many ticks are allowed. -/
def Sound (run : Nat → Except Halt α) : Prop := ∀ ticks, run ticks ≠ .error .overflow

namespace Curbed

variable {kept : Except Halt α} {free : Option α}

theorem bind {next : α → Except Halt β} {rest : α → Option β} (first : Curbed kept free)
    (second : ∀ result, Curbed (next result) (rest result)) :
    Curbed (kept >>= next) (free >>= rest) := by
  cases first with
  | ended result => exact second result
  | overflow free => exact .overflow _
  | unfinished => exact .unfinished

/-- What a time leads to that may be too late to be kept. -/
theorem andThen {result : α} {next : α → Except Halt β} {free : Option β}
    (first : Curbed kept (some result)) (second : Curbed (next result) free) :
    Curbed (kept >>= next) free := by
  cases first with
  | ended => exact second
  | overflow => exact .overflow _

theorem toOption_eq (curbed : Curbed kept free) (fits : kept ≠ .error .overflow) :
    kept.toOption = free := by
  cases curbed with
  | overflow => exact absurd rfl fits
  | ended | unfinished => rfl

theorem eq_ok {result : α} (curbed : Curbed kept free) (ends : free = some result)
    (fits : kept ≠ .error .overflow) : kept = .ok result := by
  cases curbed with
  | ended => exact congrArg Except.ok (Option.some.inj ends)
  | overflow => exact absurd rfl fits
  | unfinished => exact absurd ends nofun

end Curbed

namespace Extends

variable {kept later : Except Halt α}

theorem bind {next rest : α → Except Halt β} (first : Extends kept later)
    (second : ∀ result, Extends (next result) (rest result)) :
    Extends (kept >>= next) (later >>= rest) := by
  cases first with
  | onward => exact .onward _
  | same =>
      cases kept with
      | error => exact .same _
      | ok result => exact second result

/-- What a run comes to does not change when more ticks are allowed. -/
theorem eq_of_ne (extends' : Extends kept later) (settled : kept ≠ .error .unfinished) :
    later = kept := by
  cases extends' with
  | same => rfl
  | onward => exact absurd rfl settled

end Extends

/-- A run that has come to an end meets no time that cannot be kept. -/
theorem Sound.of_ok {run : Nat → Except Halt α} {ticks : Nat} {result : α}
    (extends' : ∀ fewer more, fewer ≤ more → Extends (run fewer) (run more))
    (ends : run ticks = .ok result) : Sound run := by
  intro other overflows
  have one := (extends' ticks (max ticks other) (Nat.le_max_left _ _)).eq_of_ne (by simp [ends])
  have two := (extends' other (max ticks other) (Nat.le_max_right _ _)).eq_of_ne
    (by simp [overflows])
  rw [one, ends, overflows] at two
  exact absurd two nofun

theorem ne_overflow_of_bind {run : Except Halt α} {rest : α → Except Halt β}
    (fits : (run >>= rest) ≠ .error .overflow) : run ≠ .error .overflow := by
  rintro rfl
  exact fits rfl

/-- What comes after a run meets no time that cannot be kept either. -/
theorem Sound.bind_right {run : Nat → Except Halt α} {rest : Nat → α → Except Halt β}
    (extends' : ∀ result fewer more, fewer ≤ more → Extends (rest fewer result) (rest more result))
    {limit : Nat} {result : α} (ends : ∀ ticks, limit ≤ ticks → run ticks = .ok result)
    (sound : Sound fun ticks => run ticks >>= rest ticks) :
    Sound fun ticks => rest ticks result := by
  intro ticks overflows
  have later := (extends' result ticks (max limit ticks) (Nat.le_max_right _ _)).eq_of_ne
    (by simp [overflows])
  apply sound (max limit ticks)
  simp only [ends _ (Nat.le_max_left _ _)]
  exact later.trans overflows

/-- A run that comes to an end and what comes after it meet no time that cannot be kept. -/
theorem Sound.bind {run : Nat → Except Halt α} {rest : Nat → α → Except Halt β}
    (extends' : ∀ fewer more, fewer ≤ more → Extends (run fewer) (run more)) {limit : Nat}
    {result : α} (ends : ∀ ticks, limit ≤ ticks → run ticks = .ok result)
    (second : Sound fun ticks => rest ticks result) :
    Sound fun ticks => run ticks >>= rest ticks := by
  intro ticks overflows
  cases ended : run ticks with
  | ok other =>
      have later := (extends' ticks (max limit ticks) (Nat.le_max_right _ _)).eq_of_ne
        (by simp [ended])
      rw [ends _ (Nat.le_max_left _ _), ended] at later
      obtain rfl := Except.ok.inj later
      simp only [ended] at overflows
      exact second ticks overflows
  | error halt =>
      simp only [ended] at overflows
      obtain rfl : halt = .overflow := Except.error.inj overflows
      exact Sound.of_ok extends' (ends limit (Nat.le_refl limit)) ticks ended

theorem bind_ok_eq_overflow {run : Except Halt α} (result : α → β) :
    (run >>= fun ended => .ok (result ended)) = .error .overflow ↔ run = .error .overflow := by
  cases run with
  | ok ended => exact ⟨nofun, nofun⟩
  | error halt =>
      exact ⟨fun same => congrArg Except.error (Except.error.inj same),
        fun same => congrArg Except.error (Except.error.inj same)⟩

/-! ## Clocks -/

namespace Clock

variable {clock : Clock τ}

theorem keep_of_kept (kept : clock.Kept) : clock.keep = .ok clock := if_pos kept

theorem kept_of_keep {next : Clock τ → Except Halt α}
    (fits : (clock.keep >>= next) ≠ .error .overflow) : clock.Kept := by
  refine Decidable.byContradiction fun late => fits ?_
  rw [keep, if_neg late]
  rfl

theorem curbed_keep (clock : Clock τ) : Curbed clock.keep (some clock) := by
  by_cases kept : clock.Kept
  · rw [keep_of_kept kept]
    exact .ended _
  · rw [keep, if_neg kept]
    exact .overflow _

theorem curbed_setOut (span : Span) (clock : Clock τ) :
    Curbed (clock.setOut span) (some (clock.now + span)) := by
  by_cases fits : clock.now + span < Span.limit
  · rw [setOut, if_pos fits]
    exact .ended _
  · rw [setOut, if_neg fits]
    exact .overflow _

end Clock

/-! ## Runs -/

namespace Routine

section Moves

variable {service : TimerService (Clock τ) τ}
  {moveKept laterKept : Span → World.Clocked τ σ → Except Halt (World.Clocked τ σ)}
  {move : Span → World.Clocked τ σ → Option (World.Clocked τ σ)}

theorem curbed_runKept (moves : ∀ span world, Curbed (moveKept span world) (move span world))
    (routine : Routine τ σ α) (world : World.Clocked τ σ) :
    Curbed (routine.runKept service moveKept world) (routine.run service move world) := by
  induction routine generalizing world with
  | done result => exact .ended _
  | look next ih => exact ih _ _ world
  | put state next ih => exact ih _
  | schedule interval task next ih =>
      exact (Clock.curbed_keep _).andThen (ih _ _)
  | cancel handle next ih => exact ih _
  | clear next ih => exact ih _
  | advance span next ih => exact (moves span world).bind fun moved => ih moved

theorem extends_runKept (moves : ∀ span world, Extends (moveKept span world) (laterKept span world))
    (routine : Routine τ σ α) (world : World.Clocked τ σ) :
    Extends (routine.runKept service moveKept world) (routine.runKept service laterKept world) := by
  induction routine generalizing world with
  | done result => exact .same _
  | look next ih => exact ih _ _ world
  | put state next ih => exact ih _
  | schedule interval task next ih =>
      exact (Extends.same _).bind fun timers => ih _ { world with timers }
  | cancel handle next ih => exact ih _
  | clear next ih => exact ih _
  | advance span next ih => exact (moves span world).bind fun moved => ih moved

end Moves

/-- All timers that a routine schedules are due at times that can be kept. -/
def Keeps : Routine τ σ α → World.Clocked τ σ → Prop
  | done _, _ => True
  | look next, world => (next world.timers.now world.state).Keeps world
  | put state next, world => next.Keeps { world with state }
  | schedule interval task next, world =>
    let (handle, timers) := world.timers.schedule interval task
    timers.Kept ∧ (next handle).Keeps { world with timers }
  | cancel handle next, world => next.Keeps { world with timers := world.timers.cancel handle }
  | clear next, world => next.Keeps { world with timers := world.timers.clear }
  | advance _ next, world => next.Keeps world

theorem keeps_bind (routine : Routine τ σ α) (rest : α → Routine τ σ β)
    (world : World.Clocked τ σ) :
    (routine.bind rest).Keeps world ↔ routine.Keeps world ∧
      (rest (world.act Clock.service routine).1).Keeps (world.act Clock.service routine).2 := by
  induction routine generalizing world with
  | done result => exact (and_iff_right trivial).symm
  | look next ih => exact ih _ _ world
  | put state next ih => exact ih _
  | schedule interval task next ih => exact (and_congr_right fun _ => ih _ _).trans and_assoc.symm
  | cancel handle next ih => exact ih _
  | clear next ih => exact ih _
  | advance span next ih => exact ih world

theorem runKept_schedule (move : Span → World.Clocked τ σ → Except Halt (World.Clocked τ σ))
    (interval : Span) (task : Handle → τ) (next : Handle → Routine τ σ α)
    (world : World.Clocked τ σ) :
    (schedule interval task next).runKept Clock.service move world =
      (world.timers.schedule interval task).2.keep >>= fun timers =>
        (next ⟨world.timers.next⟩).runKept Clock.service move { world with timers } := rfl

/-- A still routine that meets no time that cannot be kept does what it does anyway. -/
theorem runKept_eq_act
    {move : Span → World.Clocked τ σ → Except Halt (World.Clocked τ σ)} {routine : Routine τ σ α}
    (still : routine.Still) {world : World.Clocked τ σ} (keeps : routine.Keeps world) :
    routine.runKept Clock.service move world = .ok (world.act Clock.service routine) := by
  induction routine generalizing world with
  | done result => rfl
  | look next ih => exact ih _ _ (still _ _) keeps
  | put state next ih => exact ih still keeps
  | schedule interval task next ih =>
      have kept : (world.timers.schedule interval task).2.Kept := keeps.1
      rw [runKept_schedule, Clock.keep_of_kept kept]
      exact ih _ (still _) keeps.2
  | cancel handle next ih => exact ih still keeps
  | clear next ih => exact ih still keeps
  | advance span next => exact still.elim

theorem keeps_of_runKept
    {move : Span → World.Clocked τ σ → Except Halt (World.Clocked τ σ)} {routine : Routine τ σ α}
    (still : routine.Still) {world : World.Clocked τ σ}
    (fits : routine.runKept Clock.service move world ≠ .error .overflow) :
    routine.Keeps world := by
  induction routine generalizing world with
  | done result => trivial
  | look next ih => exact ih _ _ (still _ _) fits
  | put state next ih => exact ih still fits
  | schedule interval task next ih =>
      rw [runKept_schedule] at fits
      have kept := Clock.kept_of_keep fits
      rw [Clock.keep_of_kept kept] at fits
      exact ⟨kept, ih _ (still _) fits⟩
  | cancel handle next ih => exact ih still fits
  | clear next ih => exact ih still fits
  | advance span next => exact still.elim

end Routine

namespace World

open Clock

variable {behaviour : Behaviour τ σ}

theorem curbed_drainKept (service : TimerService (Clock τ) τ) (behaviour : Behaviour τ σ)
    (ticks : Nat) (target : Instant) (world : Clocked τ σ) :
    Curbed (drainKept service behaviour ticks target world)
      (drain service behaviour ticks target world) := by
  induction ticks generalizing target world with
  | zero => exact .unfinished
  | succ ticks ih =>
      rw [drainKept, drain]
      cases world.timers.takeDue? target with
      | none => exact .ended _
      | some taken =>
          obtain ⟨due, clock⟩ := taken
          refine (curbed_keep clock).andThen ?_
          refine (Routine.curbed_runKept (fun span inner => ?_) _ _).bind fun ended => ?_
          · exact (curbed_setOut span inner.timers).andThen (ih _ inner)
          · exact ih target _

theorem curbed_performKept (service : TimerService (Clock τ) τ) (behaviour : Behaviour τ σ)
    (ticks : Nat) (routine : Routine τ σ α) (world : Clocked τ σ) :
    Curbed (performKept service behaviour ticks routine world)
      (perform service behaviour ticks routine world) := by
  refine Routine.curbed_runKept (fun span inner => ?_) routine world
  exact (curbed_setOut span inner.timers).andThen
    (curbed_drainKept service behaviour ticks _ inner)

theorem extends_drainKept (service : TimerService (Clock τ) τ) (behaviour : Behaviour τ σ)
    {fewer more : Nat} (le : fewer ≤ more) (target : Instant) (world : Clocked τ σ) :
    Extends (drainKept service behaviour fewer target world)
      (drainKept service behaviour more target world) := by
  induction fewer generalizing more target world with
  | zero => exact .onward _
  | succ fewer ih =>
      obtain ⟨more, rfl⟩ := Nat.exists_eq_add_of_le' (Nat.le_trans (Nat.le_add_left 1 fewer) le)
      have less := Nat.le_of_succ_le_succ le
      rw [drainKept, drainKept]
      cases world.timers.takeDue? target with
      | none => exact .same _
      | some taken =>
          obtain ⟨due, clock⟩ := taken
          refine (Extends.same _).bind fun clock => ?_
          refine (Routine.extends_runKept (fun span inner => ?_) _ _).bind fun ended => ?_
          · exact (Extends.same _).bind fun target => ih less target inner
          · exact ih less target _

theorem extends_performKept (service : TimerService (Clock τ) τ) (behaviour : Behaviour τ σ)
    {fewer more : Nat} (le : fewer ≤ more) (routine : Routine τ σ α) (world : Clocked τ σ) :
    Extends (performKept service behaviour fewer routine world)
      (performKept service behaviour more routine world) := by
  refine Routine.extends_runKept (fun span inner => ?_) routine world
  exact (Extends.same _).bind fun target => extends_drainKept service behaviour le target inner

/-! ## Moves whose ticks leave the clock alone -/

variable {target : Instant} {world : Clocked τ σ} {due : Due τ}

theorem drainKept_rest (next : world.timers.nextDue? target = none) (ticks : Nat) :
    drainKept Clock.service behaviour (ticks + 1) target world = .ok (world.arrive target) := by
  rw [drainKept, takeDue?_eq, next]
  rfl

theorem drainKept_atInstant (ticks : Nat) (target instant : Instant) (world : Clocked τ σ) :
    drainKept Clock.service behaviour ticks target (world.arrive instant) =
      drainKept Clock.service behaviour ticks target world := by
  cases ticks <;> rfl

/-- The tick of a timer meets no time that cannot be kept. -/
structure TickKept (behaviour : Behaviour τ σ) (due : Due τ) (world : Clocked τ σ) : Prop where
  kept : (world.timers.taking due).Kept
  keeps : (behaviour due.handle due.task).Keeps { world with timers := world.timers.taking due }

theorem drainKept_tick (next : world.timers.nextDue? target = some due)
    (still : (behaviour due.handle due.task).Still) (ticked : world.TickKept behaviour due)
    (ticks : Nat) :
    drainKept Clock.service behaviour (ticks + 1) target world =
      drainKept Clock.service behaviour ticks target (world.beat behaviour due) := by
  rw [drainKept, takeDue?_eq, next]
  simp only [Option.map_some, keep_of_kept ticked.kept]
  change (Routine.runKept Clock.service _ _ _ >>= _) = _
  rw [Routine.runKept_eq_act still ticked.keeps]
  rfl

theorem tickKept_of_sound (next : world.timers.nextDue? target = some due)
    (still : (behaviour due.handle due.task).Still)
    (sound : Sound fun ticks => drainKept Clock.service behaviour ticks target world) :
    world.TickKept behaviour due := by
  have fits := sound 1
  simp only [drainKept, takeDue?_eq, next, Option.map_some] at fits
  have kept : (world.timers.taking due).Kept := kept_of_keep fits
  rw [keep_of_kept kept] at fits
  exact ⟨kept, Routine.keeps_of_runKept still (ne_overflow_of_bind fits)⟩

theorem sound_drainKept_rest (next : world.timers.nextDue? target = none) :
    Sound fun ticks => drainKept Clock.service behaviour ticks target world := by
  intro ticks overflows
  cases ticks with
  | zero => exact absurd overflows nofun
  | succ ticks => exact absurd ((drainKept_rest next ticks).symm.trans overflows) nofun

/-- A move meets no time that cannot be kept if its first tick does not and what is left of it does
not. -/
theorem sound_drainKept_tick (next : world.timers.nextDue? target = some due)
    (still : (behaviour due.handle due.task).Still) :
    Sound (fun ticks => drainKept Clock.service behaviour ticks target world) ↔
      world.TickKept behaviour due ∧
        Sound fun ticks => drainKept Clock.service behaviour ticks target
          (world.beat behaviour due) := by
  constructor
  · intro sound
    have ticked := tickKept_of_sound next still sound
    refine ⟨ticked, fun ticks overflows => ?_⟩
    exact sound (ticks + 1) ((drainKept_tick next still ticked ticks).trans overflows)
  · rintro ⟨ticked, sound⟩ ticks overflows
    cases ticks with
    | zero => exact absurd overflows nofun
    | succ ticks =>
        exact sound ticks ((drainKept_tick next still ticked ticks).symm.trans overflows)

theorem sound_performKept_still {routine : Routine τ σ α} (still : routine.Still)
    (keeps : routine.Keeps world) :
    Sound fun ticks => performKept Clock.service behaviour ticks routine world :=
  fun _ overflows => absurd ((Routine.runKept_eq_act still keeps).symm.trans overflows) nofun

/-- A clock may be moved by a span if the instant to which that leads can be kept and no time that
cannot is met on the way. -/
theorem sound_performKept_advance (behaviour : Behaviour τ σ) (span : Span) (result : α)
    (world : Clocked τ σ) :
    Sound (fun ticks =>
        performKept Clock.service behaviour ticks (.advance span (.done result)) world) ↔
      world.timers.now + span < Span.limit ∧
        Sound fun ticks =>
          drainKept Clock.service behaviour ticks (world.timers.now + span) world := by
  by_cases fits : world.timers.now + span < Span.limit
  · have sets : world.timers.setOut span = .ok (world.timers.now + span) := if_pos fits
    have moves (ticks : Nat) : performKept Clock.service behaviour ticks
        (.advance span (.done result)) world =
          drainKept Clock.service behaviour ticks (world.timers.now + span) world >>=
            fun moved => .ok (result, moved) := by
      simp only [performKept, Routine.runKept, advanceKept, sets]
      rfl
    simp only [fits, true_and, moves]
    exact forall_congr' fun ticks => not_congr (bind_ok_eq_overflow _)
  · have sets : world.timers.setOut span = .error .overflow := if_neg fits
    refine ⟨fun sound => absurd ?_ (sound 0), fun both => absurd both.1 fits⟩
    simp only [performKept, Routine.runKept, advanceKept, sets]
    rfl

end World

end PageWatch
