import PageWatch.Proofs.Wait.Deeds

/-!
# A wait is done once

Whatever its timers do, a wait checks its condition until the first answer that decides,
and then never again.  It asks for at most one timer, and cancels it exactly if a later
check decides.  Its callback runs at most once, and exactly if the deciding answer is yes.
-/

namespace PageWatch

variable {τ σ κ χ β ω γ : Type}

/-- Whether an answer decides a wait. -/
def decides : Except QueryError Bool → Bool
  | .ok false => false
  | .ok true | .error _ => true

/-- Whether an answer says that a condition holds. -/
def isYes : Except QueryError Bool → Bool
  | .ok true => true
  | .ok false | .error _ => false

@[simp] theorem decides_false : decides (.ok false) = false := rfl

@[simp] theorem isYes_false : isYes (.ok false) = false := rfl

theorem eq_false_of_not_decides {answer : Except QueryError Bool}
    (undecided : ¬decides answer) : answer = .ok false := by
  rcases answer with error | _ | _
  · exact absurd rfl undecided
  · rfl
  · exact absurd rfl undecided

/-! ## What can be read off the deeds -/

namespace Deeds

/-- The answers of all checks that were made. -/
def answers (deeds : List (Deed τ)) : List (Except QueryError Bool) :=
  deeds.filterMap fun deed =>
    match deed with
    | .checked answer => some answer
    | _ => none

/-- The timers that were asked for. -/
def schedules (deeds : List (Deed τ)) : List (Span × Handle) :=
  deeds.filterMap fun deed =>
    match deed with
    | .scheduled interval handle _ => some (interval, handle)
    | _ => none

/-- The timers that were cancelled. -/
def cancels (deeds : List (Deed τ)) : List Handle :=
  deeds.filterMap fun deed =>
    match deed with
    | .cancelled handle => some handle
    | _ => none

/-- How often the callback was started. -/
def calls (deeds : List (Deed τ)) : Nat :=
  deeds.countP fun deed => deed matches .called

/-- The first answer that decides. -/
def verdict? (deeds : List (Deed τ)) : Option (Except QueryError Bool) :=
  (answers deeds).find? decides

section

variable (first second : List (Deed τ)) (count : Nat)

@[simp] theorem answers_append :
    answers (first ++ second) = answers first ++ answers second := by
  simp [answers]

@[simp] theorem schedules_append :
    schedules (first ++ second) = schedules first ++ schedules second := by
  simp [schedules]

@[simp] theorem cancels_append :
    cancels (first ++ second) = cancels first ++ cancels second := by
  simp [cancels]

@[simp] theorem calls_append : calls (first ++ second) = calls first + calls second := by
  simp [calls]

/-- Checks that decide nothing. -/
def idle : List (Deed τ) := List.replicate count (.checked (.ok false))

@[simp] theorem answers_idle :
    answers (idle count : List (Deed τ)) = List.replicate count (.ok false) := by
  simp [answers, idle]

@[simp] theorem schedules_idle : schedules (idle count : List (Deed τ)) = [] := by
  simp [schedules, idle]

@[simp] theorem cancels_idle : cancels (idle count : List (Deed τ)) = [] := by
  simp [cancels, idle]

@[simp] theorem calls_idle : calls (idle count : List (Deed τ)) = 0 := by
  simp [calls, idle]

end

end Deeds

open Deeds

namespace Wait

/-! ## What is done at the start and at a tick -/

/-- What a wait does when it is started. -/
def opening (interval : Span) (handle : Handle) (task : τ) :
    Except QueryError Bool → List (Deed τ)
  | .ok true => [.checked (.ok true), .called]
  | .ok false => [.checked (.ok false), .scheduled interval handle task]
  | .error error => [.checked (.error error)]

/-- What a wait does at a tick, if it is not over. -/
def polling (handle : Handle) : Except QueryError Bool → List (Deed τ)
  | .ok true => [.checked (.ok true), .cancelled handle, .called]
  | .ok false => [.checked (.ok false)]
  | .error error => [.checked (.error error), .cancelled handle]

section Readings

variable (interval : Span) (handle : Handle) (task : τ) (answer : Except QueryError Bool)

@[simp] theorem answers_opening : answers (opening interval handle task answer) = [answer] := by
  rcases answer with _ | _ | _ <;> rfl

@[simp] theorem schedules_opening :
    schedules (opening interval handle task answer) =
      if decides answer then [] else [(interval, handle)] := by
  rcases answer with _ | _ | _ <;> rfl

@[simp] theorem cancels_opening : cancels (opening interval handle task answer) = [] := by
  rcases answer with _ | _ | _ <;> rfl

@[simp] theorem calls_opening :
    calls (opening interval handle task answer) =
      if isYes answer then 1 else 0 := by
  rcases answer with _ | _ | _ <;> rfl

@[simp] theorem answers_polling :
    answers (polling handle answer : List (Deed τ)) = [answer] := by
  rcases answer with _ | _ | _ <;> rfl

@[simp] theorem schedules_polling :
    schedules (polling handle answer : List (Deed τ)) = [] := by
  rcases answer with _ | _ | _ <;> rfl

@[simp] theorem cancels_polling :
    cancels (polling handle answer : List (Deed τ)) =
      if decides answer then [handle] else [] := by
  rcases answer with _ | _ | _ <;> rfl

@[simp] theorem calls_polling :
    calls (polling handle answer : List (Deed τ)) =
      if isYes answer then 1 else 0 := by
  rcases answer with _ | _ | _ <;> rfl

end Readings

section Acts

variable (service : TimerService κ τ) (host : Host χ β τ σ) (timers : κ) (state : σ)

theorem act_check (condition : χ) (deeds : List (Deed τ)) :
    ∃ answer checked timersAfter stateAfter,
      World.act service (host.watched.check condition).withDeeds
          ⟨timers, state, ⟨false, deeds⟩⟩ =
        ((answer, checked),
          ⟨timersAfter, stateAfter, ⟨false, deeds ++ [.checked answer]⟩⟩) := by
  obtain ⟨⟨answer, checked⟩, timersAfter, stateAfter, made⟩ :=
    World.act_aside service (host.check condition) timers state deeds
  refine ⟨answer, checked, timersAfter, stateAfter, ?_⟩
  simp only [Host.watched, Routine.bind_eq, Routine.withDeeds_bind, World.act_bind, made,
    World.act_noteDeed]
  rfl

theorem act_calling (fire : Routine τ σ (Progress γ)) (deeds : List (Deed τ)) :
    ∃ progress timersAfter stateAfter,
      World.act service (calling fire).withDeeds ⟨timers, state, ⟨false, deeds⟩⟩ =
        (progress, ⟨timersAfter, stateAfter, ⟨false, deeds ++ [.called]⟩⟩) := by
  obtain ⟨progress, timersAfter, stateAfter, fired⟩ :=
    World.act_aside service fire timers state (deeds ++ [.called])
  refine ⟨progress, timersAfter, stateAfter, ?_⟩
  rw [calling, Routine.bind_eq, Routine.withDeeds_bind, World.act_bind, World.act_noteDeed]
  exact fired

theorem act_cancelSlot (handle : Handle) (deeds : List (Deed τ)) :
    World.act service (Routine.cancelSlot (some handle)).withDeeds
        ⟨timers, state, ⟨false, deeds⟩⟩ =
      ((), ⟨service.cancel handle timers, state, ⟨false, deeds ++ [.cancelled handle]⟩⟩) := rfl

/-- The deeds of a wait that is started. -/
theorem act_start (interval : Span) (callback : β) (fire : Routine τ σ (Progress γ))
    (condition : χ) :
    ∃ answer checked handle progress timersAfter stateAfter,
      World.act service (start host.watched interval callback (calling fire) condition).withDeeds
          ⟨timers, state, ⟨false, []⟩⟩ =
        (progress, ⟨timersAfter, stateAfter,
          ⟨false, opening interval handle
            (host.task ⟨checked, some callback, some handle⟩) answer⟩⟩) := by
  obtain ⟨answer, checked, timersAfter, stateAfter, made⟩ :=
    act_check service host timers state condition []
  refine ⟨answer, checked, ?_⟩
  simp only [start, Routine.bind_eq, Routine.withDeeds_bind, World.act_bind, made]
  cases answer with
  | ok holds =>
      cases holds with
      | true => exact ⟨⟨0⟩, act_calling service timersAfter stateAfter fire _⟩
      | false =>
          obtain ⟨_, reportedTimers, reportedState, reported⟩ := World.act_aside service
            (host.report (.polling interval.wholeMs)) timersAfter stateAfter
            [.checked (.ok false)]
          simp only [Routine.bind_eq, Routine.withDeeds_bind, World.act_bind, Host.watched,
            List.nil_append, reported]
          exact ⟨_, _, _, _, rfl⟩
  | error error =>
      obtain ⟨_, reportedTimers, reportedState, reported⟩ := World.act_aside service
        (host.report (.waitDropped error)) timersAfter stateAfter [.checked (.error error)]
      simp only [Routine.bind_eq, Routine.withDeeds_bind, World.act_bind, Host.watched,
        List.nil_append, reported]
      exact ⟨⟨0⟩, _, _, _, rfl⟩

/-- The deeds of a wait at a tick.  Unless the answer decides, the wait goes on. -/
theorem act_tick {γ : Type} (fire : β → Routine τ σ (Progress γ)) (condition : χ)
    (callback : β) (handle : Handle) (deeds : List (Deed τ)) :
    ∃ answer checked progress timersAfter stateAfter,
      World.act service
          (tick host.watched (fun callback => calling (fire callback))
            ⟨condition, some callback, some handle⟩).withDeeds
          ⟨timers, state, ⟨false, deeds⟩⟩ =
        ((if decides answer then ⟨checked, none, none⟩
            else ⟨checked, some callback, some handle⟩, progress),
          ⟨timersAfter, stateAfter, ⟨false, deeds ++ polling handle answer⟩⟩) := by
  obtain ⟨answer, checked, timersAfter, stateAfter, made⟩ :=
    act_check service host timers state condition deeds
  refine ⟨answer, checked, ?_⟩
  simp only [tick, Routine.bind_eq, Routine.withDeeds_bind, World.act_bind, made]
  cases answer with
  | ok holds =>
      cases holds with
      | false => exact ⟨_, _, _, rfl⟩
      | true =>
          obtain ⟨_, reportedTimers, reportedState, reported⟩ := World.act_aside service
            (host.report .conditionMet) (service.cancel handle timersAfter) stateAfter
            (deeds ++ [.checked (.ok true)] ++ [.cancelled handle])
          obtain ⟨progress, calledTimers, calledState, called⟩ :=
            act_calling service reportedTimers reportedState (fire callback)
              (deeds ++ [.checked (.ok true)] ++ [.cancelled handle])
          refine ⟨progress, calledTimers, calledState, ?_⟩
          simp only [Routine.bind_eq, Routine.withDeeds_bind, World.act_bind, act_cancelSlot,
            Host.watched, reported, called]
          simp [polling, decides, Routine.withDeeds, Routine.watched]
  | error error =>
      obtain ⟨_, reportedTimers, reportedState, reported⟩ := World.act_aside service
        (host.report (.waitDropped error)) (service.cancel handle timersAfter) stateAfter
        (deeds ++ [.checked (.error error)] ++ [.cancelled handle])
      refine ⟨.dropped, reportedTimers, reportedState, ?_⟩
      simp only [Routine.bind_eq, Routine.withDeeds_bind, World.act_bind, act_cancelSlot,
        Host.watched, reported]
      simp [polling, decides, Routine.withDeeds, Routine.watched]

end Acts

/-! ## The life of a wait -/

/-- Timers, and what a wait among them calls.  Its timer's task is the wait; there may be
timers with other tasks. -/
structure Setting (κ χ β ω σ γ : Type) where
  service : TimerService κ (Wait χ β ⊕ ω)
  check : χ → Routine (Wait χ β ⊕ ω) σ (Except QueryError Bool × χ)
  report : Notice → Routine (Wait χ β ⊕ ω) σ Unit
  fire : β → Routine (Wait χ β ⊕ ω) σ (Progress γ)

namespace Setting

variable (setting : Setting κ χ β ω σ γ)

def host : Host χ β (Wait χ β ⊕ ω) σ := ⟨setting.check, setting.report, .inl⟩

/-- The world after a wait has been started. -/
def begun (interval : Span) (callback : β) (condition : χ) (world : World κ σ) :
    World κ (σ × Watch (Wait χ β ⊕ ω)) :=
  (World.act setting.service
    (start setting.host.watched interval callback (calling (setting.fire callback))
      condition).withDeeds
    ⟨world.timers, world.state, ⟨false, []⟩⟩).2

/-- The wait and the world after the world has changed in some way and a tick has been
delivered. -/
def turn (current : Wait χ β × World κ (σ × Watch (Wait χ β ⊕ ω)))
    (change : World κ σ → World κ σ) : Wait χ β × World κ (σ × Watch (Wait χ β ⊕ ω)) :=
  let changed := change ⟨current.2.timers, current.2.state.1⟩
  let ended := World.act setting.service
    (tick setting.host.watched (fun callback => calling (setting.fire callback))
      current.1).withDeeds
    ⟨changed.timers, changed.state, current.2.state.2⟩
  (ended.1.1, ended.2)

/-- Without the watch, this is a start of the wait. -/
theorem forget_begun (interval : Span) (callback : β) (condition : χ) (world : World κ σ) :
    (setting.begun interval callback condition world).forget =
      (world.act setting.service
        (start setting.host interval callback (setting.fire callback) condition)).2 :=
  congrArg Prod.snd (shadows_start setting.host interval callback (setting.fire callback)
    condition κ setting.service ⟨world.timers, world.state, ⟨false, []⟩⟩)

/-- Without the watch, this is a tick of the wait in the changed world. -/
theorem forget_turn (current : Wait χ β × World κ (σ × Watch (Wait χ β ⊕ ω)))
    (change : World κ σ → World κ σ) :
    ((setting.turn current change).1, (setting.turn current change).2.forget) =
      (((change current.2.forget).act setting.service
          (tick setting.host setting.fire current.1)).1.1,
        ((change current.2.forget).act setting.service
          (tick setting.host setting.fire current.1)).2) := by
  have shadowed := shadows_tick setting.host setting.fire current.1 κ setting.service
    ⟨(change current.2.forget).timers, (change current.2.forget).state, current.2.state.2⟩
  exact congrArg (fun ended => (ended.1.1, ended.2)) shadowed

/-- The task that a wait has left to a timer. -/
def task? (deeds : List (Deed (Wait χ β ⊕ ω))) : Option (Wait χ β) :=
  deeds.findSome? fun deed =>
    match deed with
    | .scheduled _ _ (.inl wait) => some wait
    | _ => none

/-- The world after a wait has been started and, if it has asked for a timer, some ticks
have been delivered.  Before each of them the timers and the rest of the world may change
in any way. -/
def lived (interval : Span) (callback : β) (condition : χ) (world : World κ σ)
    (changes : List (World κ σ → World κ σ)) : World κ (σ × Watch (Wait χ β ⊕ ω)) :=
  let begun := setting.begun interval callback condition world
  match task? begun.deeds with
  | none => begun
  | some wait => (changes.foldl setting.turn (wait, begun)).2

/-- A wait that is over does nothing at a tick. -/
theorem deeds_foldl_over (changes : List (World κ σ → World κ σ)) (condition : χ)
    (slot : Option Handle) (world : World κ (σ × Watch (Wait χ β ⊕ ω))) :
    (changes.foldl setting.turn (⟨condition, none, slot⟩, world)).2.deeds = world.deeds := by
  induction changes generalizing world with
  | nil => rfl
  | cons change changes ih => exact ih _

/-- A wait polls until an answer decides. -/
theorem deeds_foldl (changes : List (World κ σ → World κ σ)) (condition : χ) (callback : β)
    (handle : Handle) (timers : κ) (state : σ) (deeds : List (Deed (Wait χ β ⊕ ω))) :
    ∃ count last,
      (changes.foldl setting.turn
          (⟨condition, some callback, some handle⟩,
            ⟨timers, state, ⟨false, deeds⟩⟩)).2.deeds =
        deeds ++ idle count ++ last ∧
      (count = changes.length ∧ last = [] ∨
        ∃ answer, decides answer ∧ last = polling handle answer) := by
  induction changes generalizing condition timers state deeds with
  | nil => exact ⟨0, [], by simp [World.deeds, idle], .inl ⟨rfl, rfl⟩⟩
  | cons change changes ih =>
      obtain ⟨answer, checked, progress, timersAfter, stateAfter, ticked⟩ :=
        act_tick setting.service setting.host (change ⟨timers, state⟩).timers
          (change ⟨timers, state⟩).state setting.fire condition callback handle deeds
      have next : setting.turn
          (⟨condition, some callback, some handle⟩, ⟨timers, state, ⟨false, deeds⟩⟩) change =
          (if decides answer then ⟨checked, none, none⟩
            else ⟨checked, some callback, some handle⟩,
            ⟨timersAfter, stateAfter, ⟨false, deeds ++ polling handle answer⟩⟩) := by
        simp only [turn, ticked]
      rw [List.foldl_cons, next]
      by_cases decided : decides answer
      · refine ⟨0, polling handle answer, ?_, .inr ⟨answer, decided, rfl⟩⟩
        rw [if_pos decided, deeds_foldl_over]
        simp [World.deeds, idle]
      · obtain ⟨count, last, goesOn, ending⟩ := ih checked timersAfter stateAfter
          (deeds ++ polling handle answer)
        refine ⟨count + 1, last, ?_, ?_⟩
        · rw [if_neg decided, goesOn]
          simp [eq_false_of_not_decides decided, polling, idle, List.replicate_succ]
        · rcases ending with ⟨count_eq, last_eq⟩ | ending
          · exact .inl ⟨congrArg (· + 1) count_eq, last_eq⟩
          · exact .inr ending

end Setting

/-! ## The law -/

/-- What a wait has done at its start and after some ticks. -/
structure OneShot (interval : Span) (ticks : Nat) (begun deeds : List (Deed τ)) : Prop where
  begins : begun <+: deeds
  /-- The condition is checked once at the start. -/
  first : (answers begun).length = 1
  /-- After an answer that decides, the condition is not checked again. -/
  last : ∀ answer ∈ (answers deeds).dropLast, decides answer = false
  /-- Before such an answer, the condition is checked at every tick. -/
  polled : verdict? deeds = none → (answers deeds).length = ticks + 1
  /-- The callback runs once if the deciding answer is yes, and else never. -/
  called : calls deeds = if (verdict? deeds).any isYes then 1 else 0
  /-- If the first answer decides, all is done at the start, and without a timer. -/
  immediate : verdict? begun ≠ none → deeds = begun ∧ schedules deeds = [] ∧ cancels deeds = []
  /-- Otherwise one timer is asked for, and cancelled once a later answer decides. -/
  timer : verdict? begun = none →
    ∃ handle, schedules deeds = [(interval, handle)] ∧
      cancels deeds = if (verdict? deeds).isSome then [handle] else []
  /-- When the callback starts, everything else has been done. -/
  ends : .called ∈ deeds → deeds.getLast? = some .called

variable {interval : Span} {ticks : Nat} {handle : Handle} {task : τ}
  {answer : Except QueryError Bool}

theorem decides_of_idle {count : Nat} {other : Except QueryError Bool}
    (member : other ∈ answers (opening interval handle task (.ok false) ++ idle count)) :
    decides other = false := by
  rw [answers_append, answers_opening, answers_idle, List.mem_append, List.mem_singleton,
    List.mem_replicate] at member
  rcases member with rfl | ⟨-, rfl⟩ <;> rfl

theorem oneShot_immediate (decided : decides answer) :
    OneShot interval ticks (opening interval handle task answer)
      (opening interval handle task answer) where
  begins := List.prefix_refl _
  first := by simp
  last := by simp
  polled := by simp [verdict?, decided]
  called := by
    rcases answer with error | _ | _
    · simp [verdict?, decides, isYes]
    · exact absurd decided nofun
    · simp [verdict?, decides, isYes]
  immediate := by simp [decided]
  timer := by simp [verdict?, decided]
  ends := by rcases answer with _ | _ | _ <;> simp [opening]

theorem oneShot_pending :
    OneShot interval ticks (opening interval handle task (.ok false))
      (opening interval handle task (.ok false) ++ idle ticks) where
  begins := List.prefix_append _ _
  first := by simp
  last := by
    intro answer member
    exact decides_of_idle (List.dropLast_subset _ member)
  polled := by simp [verdict?]
  called := by simp [verdict?]
  immediate := by simp [verdict?]
  timer := by simp [verdict?]
  ends := by simp [opening, idle]

theorem oneShot_decided {count : Nat} (decided : decides answer) :
    OneShot interval ticks (opening interval handle task (.ok false))
      (opening interval handle task (.ok false) ++ idle count ++ polling handle answer) := by
  have verdict_eq : verdict? (opening interval handle task (.ok false) ++ idle count ++
      polling handle answer) = some answer := by
    simp [verdict?, decided]
  constructor
  case begins => simp
  case first => simp
  case last =>
    intro other member
    rw [answers_append, answers_polling, List.dropLast_concat] at member
    exact decides_of_idle member
  case polled =>
    rw [verdict_eq]
    exact nofun
  case called =>
    rw [verdict_eq]
    simp
  case immediate => simp [verdict?]
  case timer =>
    rw [verdict_eq]
    simp [decided]
  case ends =>
    intro member
    rw [List.getLast?_append]
    rcases answer with _ | _ | _
    · simp [opening, idle, polling] at member
    · exact absurd decided nofun
    · rfl

/-- A wait is done once, whatever the timers, the condition and the callback do, and whenever
ticks are delivered, also after the timer has been cancelled. -/
theorem Setting.oneShot (setting : Setting κ χ β ω σ γ) (interval : Span) (callback : β)
    (condition : χ) (world : World κ σ) (changes : List (World κ σ → World κ σ)) :
    OneShot interval changes.length (setting.begun interval callback condition world).deeds
      (setting.lived interval callback condition world changes).deeds := by
  obtain ⟨answer, checked, handle, progress, timersAfter, stateAfter, started⟩ :=
    act_start setting.service setting.host world.timers world.state interval callback
      (setting.fire callback) condition
  have begun_eq : setting.begun interval callback condition world =
      ⟨timersAfter, stateAfter, ⟨false, opening interval handle
        (.inl ⟨checked, some callback, some handle⟩) answer⟩⟩ := by
    rw [Setting.begun, started]
    rfl
  by_cases decided : decides answer
  · have noTask : Setting.task? (opening interval handle
        (.inl ⟨checked, some callback, some handle⟩ : Wait χ β ⊕ ω) answer) = none := by
      rcases answer with error | _ | _
      · rfl
      · exact absurd decided nofun
      · rfl
    simp only [Setting.lived, begun_eq, World.deeds, noTask]
    exact oneShot_immediate decided
  · obtain rfl := eq_false_of_not_decides decided
    obtain ⟨count, last, deeds_eq, ending⟩ := setting.deeds_foldl changes checked callback handle
      timersAfter stateAfter
      (opening interval handle (.inl ⟨checked, some callback, some handle⟩) (.ok false))
    have lived_eq : (setting.lived interval callback condition world changes).deeds =
        opening interval handle (.inl ⟨checked, some callback, some handle⟩) (.ok false) ++
          idle count ++ last := by
      rw [← deeds_eq, Setting.lived, begun_eq]
      rfl
    rw [lived_eq, begun_eq, World.deeds]
    rcases ending with ⟨rfl, rfl⟩ | ⟨answer, decided, rfl⟩
    · rw [List.append_nil]
      exact oneShot_pending
    · exact oneShot_decided decided

end Wait

end PageWatch
