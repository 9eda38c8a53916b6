import PageWatch.Proofs.Performance.Turns

/-!
# Where a performance sleeps

What is seen of a performance from outside is put together from its notices and its sleeps.  A
sleep is kept with the number of notices that came before it.  As notices are only ever added, it
stands for good right behind what had been seen when it began, and it begins where a turn does.
-/

namespace PageWatch.Performance

open Script

variable {σ : Type}

/-! ## What is reported stays reported -/

section Steps

variable {performer : Performer σ} {interval : Span} {first second : Moment σ}

theorem Step.reported {entry : Option (Instant × Event)}
    (step : Step performer interval first entry second) (whole : interval.Whole)
    (tidy : Tidy first.scene.timers) :
    first.scene.state.notices <:+ second.scene.state.notices := by
  cases step with
  | answer request next scene calling => exact (effect_answer whole request scene).reported
  | begin | finish | call | take | arrive => exact List.suffix_rfl
  | tick script scene due next alone =>
      obtain ⟨timer, takes⟩ := Clock.takes_of_nextDue? tidy.orderly next
      exact (effect_beat takes tidy.whole).2.2.1

theorem Steps.reported {added : Transcript} (steps : Steps performer interval first added second)
    (whole : interval.Whole) (tidy : Tidy first.scene.timers) :
    first.scene.state.notices <:+ second.scene.state.notices := by
  induction steps with
  | refl => exact List.suffix_rfl
  | head step rest ih => exact (step.reported whole tidy).trans (ih (step.tidy whole tidy))

end Steps

/-! ## Sleeps among notices -/

/-- Sleeps that come in the order of their places among notices, with some number of notices in
front of the first of them and no more than some other number in front of the last. -/
def Placed : Nat → Nat → List Sleep → Prop
  | least, most, [] => least ≤ most
  | least, most, sleep :: sleeps => least ≤ sleep.reported ∧ Placed sleep.reported most sleeps

namespace Placed

variable {least most more : Nat} {sleeps : List Sleep}

theorem le (placed : Placed least most sleeps) : least ≤ most := by
  induction sleeps generalizing least with
  | nil => exact placed
  | cons sleep sleeps ih => exact Nat.le_trans placed.1 (ih placed.2)

theorem mono (placed : Placed least most sleeps) (le : most ≤ more) :
    Placed least more sleeps := by
  induction sleeps generalizing least with
  | nil => exact Nat.le_trans placed le
  | cons sleep sleeps ih => exact ⟨placed.1, ih placed.2⟩

theorem snoc (placed : Placed least most sleeps) (span : Span) :
    Placed least most (sleeps ++ [⟨span, most⟩]) := by
  induction sleeps generalizing least with
  | nil => exact ⟨placed, Nat.le_refl most⟩
  | cons sleep sleeps ih => exact ⟨placed.1, ih placed.2⟩

end Placed

namespace Sign

variable {others : Nat} {old : List Notice} {sleeps : List Sleep}

/-- Notices that are reported after all sleeps come last. -/
theorem woven_append (placed : Placed others (others + old.length) sleeps) (new : List Notice) :
    woven others (old ++ new) sleeps = woven others old sleeps ++ new.map reported := by
  induction sleeps generalizing others old with
  | nil => exact List.map_append
  | cons sleep sleeps ih =>
      obtain ⟨least, rest⟩ := placed
      have within : sleep.reported - others ≤ old.length := by
        have := rest.le
        lia
      have left : sleep.reported + (old.drop (sleep.reported - others)).length =
          others + old.length := by
        rw [List.length_drop]
        lia
      rw [← left] at rest
      simp only [woven, List.take_append_of_le_length within,
        List.drop_append_of_le_length within, ih rest, List.append_assoc, List.cons_append]

/-- A sleep that begins after all notices comes last. -/
theorem woven_snoc (placed : Placed others (others + old.length) sleeps) (span : Span) :
    woven others old (sleeps ++ [⟨span, others + old.length⟩]) =
      woven others old sleeps ++ [slept span] := by
  induction sleeps generalizing others old with
  | nil => simp [woven]
  | cons sleep sleeps ih =>
      obtain ⟨least, rest⟩ := placed
      have left : others + old.length =
          sleep.reported + (old.drop (sleep.reported - others)).length := by
        have := rest.le
        rw [List.length_drop]
        lia
      rw [left] at rest
      simp only [List.cons_append, woven, left, ih rest, List.append_assoc]

/-- What has been seen since is a sleep, if there is one, and then notices: another sleep is not
among it. -/
theorem slept_last {between future : List Sign} {span : Span} {sleep : Option Sleep}
    {new : List Notice}
    (split : sleep.toList.map (fun sleep => slept sleep.span) ++ new.map reported =
      between ++ slept span :: future) :
    between = [] ∧ ∃ told, sleep = some ⟨span, told⟩ := by
  have unslept (between : List Sign) : new.map reported ≠ between ++ slept span :: future := by
    intro same
    have member : slept span ∈ new.map reported := same ▸ List.mem_append_right _ (.head _)
    simp at member
  cases sleep with
  | none => exact absurd split (unslept between)
  | some sleep =>
      obtain ⟨length, told⟩ := sleep
      cases between with
      | nil =>
          obtain rfl : length = span := Sign.slept.inj (List.cons.inj split).1
          exact ⟨rfl, told, rfl⟩
      | cons sign between => exact absurd (List.cons.inj split).2 (unslept between)

theorem slept_cases {base shown future : List Sign} {span : Span} {sleep : Option Sleep}
    {new : List Notice}
    (split : base ++ (sleep.toList.map (fun sleep => slept sleep.span) ++ new.map reported) =
      shown ++ slept span :: future) :
    (∃ rest, base = shown ++ slept span :: rest) ∨
      shown = base ∧ ∃ told, sleep = some ⟨span, told⟩ := by
  rcases List.append_eq_append_iff.mp split with ⟨between, rfl, last⟩ | ⟨between, rfl, last⟩
  · obtain ⟨rfl, told⟩ := slept_last last
    exact .inr ⟨List.append_nil _, told⟩
  · cases between with
    | nil =>
        have first : _ ++ _ = [] ++ slept span :: future := last.symm
        exact .inr ⟨(List.append_nil _).symm, (slept_last first).2⟩
    | cons sign between =>
        obtain ⟨rfl, -⟩ := List.cons.inj last
        exact .inl ⟨between, rfl⟩

end Sign

/-! ## Turns that are slept through -/

namespace Progress

variable {before after : Progress σ}

theorem sleeps_callAll (performer : Performer σ) (interval : Span) (callbacks : List ObjectId)
    (progress : Progress σ) :
    (progress.callAll performer interval callbacks).sleeps = progress.sleeps := by
  induction callbacks generalizing progress with
  | nil => rfl
  | cons callback callbacks ih =>
      have kept : (progress.speak interval fun script => performer.call script callback).sleeps =
          progress.sleeps := by
        rw [speak]
        cases progress.failure <;> rfl
      exact (ih _).trans kept

/-- The sleeps of a performance are at places among its notices. -/
def InPlace (progress : Progress σ) : Prop :=
  Placed 0 progress.scene.state.notices.length progress.sleeps.reverse

theorem sleep?_eq_some {realtime : Bool} {deadline : Instant} {sleep : Sleep}
    (sleeps : before.sleep? realtime deadline = some sleep) :
    sleep = ⟨deadline - before.scene.timers.now, before.scene.state.notices.length⟩ := by
  rw [sleep?] at sleeps
  split at sleeps
  · exact (Option.some.inj sleeps).symm
  · exact absurd sleeps.symm (Option.some_ne_none sleep)

/-- What is seen of a performance from some moment on: a sleep, if one begins at that moment, and
then what is reported. -/
theorem InPlace.onward (inPlace : before.InPlace) {realtime : Bool} {deadline : Instant}
    (slept : after.sleeps = (before.sleep? realtime deadline).toList ++ before.sleeps)
    (reported : before.scene.state.notices <:+ after.scene.state.notices) :
    after.InPlace ∧ ∃ new : List Notice, after.signs = before.signs ++
      ((before.sleep? realtime deadline).toList.map (fun sleep => .slept sleep.span) ++
        new.map .reported) := by
  obtain ⟨new, notices_eq⟩ := reported
  let old := before.scene.state.notices.reverse
  let sleeps := before.sleeps.reverse ++ (before.sleep? realtime deadline).toList
  have old_length : 0 + old.length = before.scene.state.notices.length := by
    rw [Nat.zero_add, List.length_reverse]
  obtain ⟨placed, seen⟩ : Placed 0 (0 + old.length) sleeps ∧ Sign.woven 0 old sleeps =
      before.signs ++ (before.sleep? realtime deadline).toList.map fun sleep => .slept sleep.span := by
    simp only [sleeps]
    rw [InPlace, ← old_length] at inPlace
    cases sleep : before.sleep? realtime deadline with
    | none =>
        simp only [Option.toList_none, List.append_nil, List.map_nil]
        exact ⟨inPlace, rfl⟩
    | some sleep =>
        obtain rfl := sleep?_eq_some sleep
        rw [← old_length]
        exact ⟨inPlace.snoc _, Sign.woven_snoc inPlace _⟩
  have slept_eq : after.sleeps.reverse = sleeps := by
    simp only [sleeps, slept, List.reverse_append]
    cases before.sleep? realtime deadline <;> rfl
  refine ⟨?_, new.reverse, ?_⟩
  · rw [InPlace, slept_eq, ← notices_eq]
    refine placed.mono ?_
    rw [old_length, List.length_append]
    exact Nat.le_add_left _ _
  · rw [signs, slept_eq, ← notices_eq, List.reverse_append, Sign.woven_append placed, seen,
      List.append_assoc]

theorem exists_signs_outcome (progress : Progress σ) :
    ∃ new : List Notice, progress.outcome.signs = progress.signs ++ new.map .reported := by
  simp only [outcome]
  split
  · exact ⟨[_], rfl⟩
  · exact ⟨[], (List.append_nil _).symm⟩

end Progress

/-- Before the first move of the clock, nothing sleeps. -/
theorem sleeps_opening (performer : Performer σ) (page : Page) (interval : Span) :
    (opening performer page interval).sleeps = [] :=
  Progress.sleeps_callAll performer interval _ _

namespace Stands

variable {performer : Performer σ} {page : Page} {settings : Settings} {turns : Nat}
  {past : Transcript} {before : Progress σ} {deadline : Instant}

/-- What is seen of a turn. -/
theorem turn_signs {moved : Progress σ} (stands : Stands performer page settings turns past before)
    (stop : before.nextStop? (Span.ofMs settings.budgetMs) = some deadline)
    (moves : before.moveTo settings.realtime deadline = some moved) (inPlace : before.InPlace) :
    let after := moved.callReady performer (Span.ofMs settings.checkIntervalMs)
    after.InPlace ∧ ∃ new : List Notice, after.signs = before.signs ++
      ((before.sleep? settings.realtime deadline).toList.map (fun sleep => .slept sleep.span) ++
        new.map .reported) := by
  intro after
  obtain ⟨left, steps, -⟩ := stands.turn_steps stop moves
  have reported := steps.reported (Span.whole_ofMs _) stands.atRest.clock.toTidy
  obtain ⟨scene, -, rfl⟩ := Option.map_eq_some_iff.mp moves
  exact inPlace.onward (Progress.sleeps_callAll performer _ _ _) reported

theorem inPlace (stands : Stands performer page settings turns past before) :
    before.InPlace := by
  induction stands with
  | opened =>
      rw [Progress.InPlace, sleeps_opening]
      exact Nat.zero_le _
  | turned stands stop moves ih => exact (stands.turn_signs stop moves ih).1

/-- Every sleep that has been seen stands where a turn begins. -/
theorem exists_of_slept (stands : Stands performer page settings turns past before)
    {shown future : List Sign} {span : Span}
    (split : before.signs = shown ++ .slept span :: future) :
    ∃ earlier start begun, Stands performer page settings earlier start begun ∧
      begun.nextStop? (Span.ofMs settings.budgetMs) = some (begun.scene.timers.now + span) ∧
      shown = begun.signs := by
  induction stands generalizing future with
  | opened =>
      rw [Progress.signs, sleeps_opening] at split
      have unslept : (none : Option Sleep).toList.map (fun sleep => Sign.slept sleep.span) ++
          List.map Sign.reported _ = shown ++ .slept span :: future := split
      obtain ⟨-, told, sleep⟩ := Sign.slept_last unslept
      exact absurd sleep.symm (Option.some_ne_none _)
  | turned stands stop moves ih =>
      obtain ⟨-, new, seen⟩ := stands.turn_signs stop moves stands.inPlace
      rcases Sign.slept_cases (seen.symm.trans split) with ⟨rest, earlier⟩ | ⟨rfl, told, sleep⟩
      · exact ih earlier
      · obtain ⟨ms, -, deadline_eq⟩ :=
          stands.exists_ahead (Progress.nextStop?_eq_some.mp stop).2.1
        obtain ⟨rfl, -⟩ := Sleep.mk.inj (Progress.sleep?_eq_some sleep)
        refine ⟨_, _, _, stands, stop.trans (congrArg some ?_), rfl⟩
        rw [deadline_eq, Nat.add_sub_cancel_left]

end Stands

/-- Every sleep that has been seen of a performance when it is over stands where a turn begins. -/
theorem exists_turn_of_slept (performer : Performer σ) (page : Page) (settings : Settings)
    {shown future : List Sign} {span : Span}
    (split : (perform performer page settings).outcome.signs = shown ++ .slept span :: future) :
    ∃ turns past before, Stands performer page settings turns past before ∧
      before.nextStop? (Span.ofMs settings.budgetMs) = some (before.scene.timers.now + span) ∧
      shown = before.signs := by
  obtain ⟨-, turns, stands⟩ := stands_perform performer page settings
  obtain ⟨new, signs_eq⟩ := (perform performer page settings).exists_signs_outcome
  have whole : (perform performer page settings).signs ++
      ((none : Option Sleep).toList.map (fun sleep => Sign.slept sleep.span) ++
        new.map .reported) = shown ++ .slept span :: future := signs_eq.symm.trans split
  rcases Sign.slept_cases whole with ⟨rest, earlier⟩ | ⟨-, told, sleep⟩
  · exact stands.exists_of_slept earlier
  · exact absurd sleep.symm (Option.some_ne_none _)

end PageWatch.Performance
