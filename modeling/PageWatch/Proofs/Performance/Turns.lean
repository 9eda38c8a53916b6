import PageWatch.Proofs.Performance.Transcript

/-!
# Turns of a performance

Once the script has run, a performance goes on in turns.  Each turn reads the next deadline,
moves the clock there, and calls what has become ready.  Here the turns are counted without any
limit on their number.  Each of them takes a millisecond at least and none goes beyond the
budget, so the budget alone brings them to an end, whatever the script does in its callbacks.
-/

namespace PageWatch.Performance

open Script

variable {σ : Type}

/-- Where a performance stands after some turns, and its transcript up to there. -/
inductive Stands (performer : Performer σ) (page : Page) (settings : Settings) :
    Nat → Transcript → Progress σ → Prop
  | opened :
      Stands performer page settings 0
        (openingTranscript performer page (Span.ofMs settings.checkIntervalMs))
        (opening performer page (Span.ofMs settings.checkIntervalMs))
  | turned {turns : Nat} {past : Transcript} {before moved : Progress σ} {deadline : Instant} :
      Stands performer page settings turns past before →
      before.nextStop? (Span.ofMs settings.budgetMs) = some deadline →
      before.moveTo settings.realtime deadline = some moved →
      Stands performer page settings (turns + 1)
        (past ++ (before.scene.moveTranscript (before.scene.timers.active + 1) deadline ++
          moved.readyTranscript performer (Span.ofMs settings.checkIntervalMs)))
        (moved.callReady performer (Span.ofMs settings.checkIntervalMs))

namespace Stands

variable {performer : Performer σ} {page : Page} {settings : Settings} {turns : Nat}
  {past : Transcript} {before : Progress σ} {deadline : Instant}

theorem atRest (stands : Stands performer page settings turns past before) : before.AtRest := by
  have whole := Span.whole_ofMs settings.checkIntervalMs
  induction stands with
  | opened => exact atRest_opening performer page whole
  | turned stands stop moves ih =>
      obtain ⟨-, next, -⟩ := Progress.nextStop?_eq_some.mp stop
      obtain ⟨scene, moveTo_eq, -, -, rests, -, -⟩ :=
        Progress.exists_moveTo ih.clock next settings.realtime
      rw [moveTo_eq, Option.some.injEq] at moves
      subst moves
      exact (Progress.atRest_callReady performer rests whole).1

/-- A deadline is a whole number of milliseconds away, and not less than one. -/
theorem exists_ahead (stands : Stands performer page settings turns past before)
    (next : before.scene.timers.nextDeadline? = some deadline) :
    ∃ ms, 0 < ms ∧ deadline = before.scene.timers.now + Span.ofMs ms := by
  obtain ⟨scene, -, -, arriving, -, -, ahead⟩ :=
    Progress.exists_moveTo stands.atRest.clock next settings.realtime
  obtain ⟨span, rfl⟩ := Nat.exists_eq_add_of_le (Nat.le_of_add_right_le ahead)
  obtain ⟨ms, rfl⟩ : Span.Whole span :=
    (Nat.dvd_add_right stands.atRest.clock.whole.now).mp arriving.there
  refine ⟨ms, ?_, by rw [Span.ofMs, Span.ofMs, Nat.one_mul, Nat.mul_comm]⟩
  apply Nat.pos_of_ne_zero
  intro zero
  subst zero
  simp only [Nat.mul_zero, Nat.add_zero, Span.ofMs] at ahead
  lia

/-- A turn brings the clock to the deadline that it has read. -/
theorem exists_turn (stands : Stands performer page settings turns past before)
    (next : before.scene.timers.nextDeadline? = some deadline) :
    ∃ moved, before.moveTo settings.realtime deadline = some moved ∧
      moved.failure = before.failure ∧ moved.script = before.script ∧ Resting moved.scene.timers ∧
      moved.scene.timers.now = deadline := by
  obtain ⟨scene, moveTo_eq, -, -, rests, now_eq, -⟩ :=
    Progress.exists_moveTo stands.atRest.clock next settings.realtime
  exact ⟨_, moveTo_eq, rfl, rfl, rests, now_eq⟩

/-- The time on the clock bounds the turns, and the budget bounds the time. -/
theorem within (stands : Stands performer page settings turns past before) :
    Span.ofMs turns ≤ before.scene.timers.now ∧
      before.scene.timers.now ≤ Span.ofMs settings.budgetMs := by
  have whole := Span.whole_ofMs settings.checkIntervalMs
  induction stands with
  | opened =>
      have start : Resting (Scene.start page).timers := resting_start
      obtain ⟨rests, now_eq, -⟩ := start.converse whole performer.start
      have zero : (opening performer page (Span.ofMs settings.checkIntervalMs)).scene.timers.now =
          0 := by
        rw [opening, (Progress.atRest_callReady performer rests whole).2]
        exact now_eq
      rw [zero]
      exact ⟨by simp [Span.ofMs], Nat.zero_le _⟩
  | @turned turns past before moved deadline stands stop moves ih =>
      obtain ⟨-, next, inTime⟩ := Progress.nextStop?_eq_some.mp stop
      obtain ⟨ms, positive, deadline_eq⟩ := stands.exists_ahead next
      obtain ⟨there, moveTo_eq, -, -, rests, now_eq⟩ := stands.exists_turn next
      rw [moveTo_eq, Option.some.injEq] at moves
      subst moves
      rw [(Progress.atRest_callReady performer rests whole).2, now_eq]
      refine ⟨?_, inTime⟩
      have slower := ih.1
      simp only [Span.ofMs] at slower deadline_eq ⊢
      lia

/-- A turn is made of steps, and unless something has failed, all callbacks that were to be called
have been. -/
theorem turn_steps {moved : Progress σ} (stands : Stands performer page settings turns past before)
    (stop : before.nextStop? (Span.ofMs settings.budgetMs) = some deadline)
    (moves : before.moveTo settings.realtime deadline = some moved) :
    ∃ left, Steps performer (Span.ofMs settings.checkIntervalMs) (before.moment [])
        (before.scene.moveTranscript (before.scene.timers.active + 1) deadline ++
          moved.readyTranscript performer (Span.ofMs settings.checkIntervalMs))
        ((moved.callReady performer (Span.ofMs settings.checkIntervalMs)).moment left) ∧
      ((moved.callReady performer (Span.ofMs settings.checkIntervalMs)).failure = none →
        left = []) := by
  obtain ⟨succeeds, next, -⟩ := Progress.nextStop?_eq_some.mp stop
  obtain ⟨scene, moveTo_eq, drained, arriving, -, -, ahead⟩ :=
    Progress.exists_moveTo stands.atRest.clock next settings.realtime
  rw [moveTo_eq, Option.some.injEq] at moves
  subst moves
  let arrived : Progress σ := { before.pause settings.realtime deadline with scene }
  have move : Steps performer (Span.ofMs settings.checkIntervalMs) (before.moment [])
      (before.scene.moveTranscript (before.scene.timers.active + 1) deadline)
      (arrived.moment []) := by
    simp only [Progress.moment, Progress.pause, arrived, succeeds]
    exact steps_move before.script arriving (Nat.le_of_add_right_le ahead)
      (.inl stands.atRest.ready_eq) drained
  obtain ⟨left, calls, empty⟩ := steps_callReady performer arrived
  exact ⟨left, move.trans calls, empty⟩

/-- A performance gets there by steps, and unless something has failed, all callbacks that were
to be called have been. -/
theorem steps (stands : Stands performer page settings turns past before) :
    ∃ left, Steps performer (Span.ofMs settings.checkIntervalMs) (.start page) past
        (before.moment left) ∧
      (before.failure = none → left = []) := by
  induction stands with
  | opened => exact steps_opening performer page _
  | @turned turns past before moved deadline stands stop moves ih =>
      obtain ⟨left, there, empty⟩ := ih
      obtain ⟨rest, turn, emptyRest⟩ := stands.turn_steps stop moves
      rw [empty (Progress.nextStop?_eq_some.mp stop).1] at there
      exact ⟨rest, there.trans turn, emptyRest⟩

theorem turns_le (stands : Stands performer page settings turns past before) :
    turns ≤ settings.budgetMs := by
  obtain ⟨slower, inTime⟩ := stands.within
  have bounded := Nat.le_trans slower inTime
  exact Nat.le_of_mul_le_mul_right bounded (by decide : 0 < 1000000)

/-- A performance that may go on for as many moves as the budget has milliseconds left goes on
turn by turn until it stops by itself. -/
theorem drive (stands : Stands performer page settings turns past before) (moves : Nat)
    (enough : Span.ofMs settings.budgetMs < before.scene.timers.now + Span.ofMs moves) :
    let ended := before.drive performer settings moves
    ended.nextStop? (Span.ofMs settings.budgetMs) = none ∧
      ∃ all, Stands performer page settings all
        (past ++ before.driveTranscript performer settings moves) ended := by
  induction moves generalizing turns past before with
  | zero =>
      have spent : Span.ofMs settings.budgetMs < before.scene.timers.now := by
        simpa [Span.ofMs] using enough
      exact absurd stands.within.2 (Nat.not_le.mpr spent)
  | succ moves ih =>
      cases stop : before.nextStop? (Span.ofMs settings.budgetMs) with
      | none =>
          obtain ⟨drive_eq, transcript_eq⟩ :=
            Progress.drive_stop performer settings stop (moves + 1)
          rw [drive_eq, transcript_eq, List.append_nil]
          exact ⟨stop, turns, stands⟩
      | some deadline =>
          obtain ⟨-, next, -⟩ := Progress.nextStop?_eq_some.mp stop
          obtain ⟨ms, positive, deadline_eq⟩ := stands.exists_ahead next
          obtain ⟨moved, moveTo_eq, -, -, rests, now_eq⟩ := stands.exists_turn next
          have turned := stands.turned stop moveTo_eq
          have stays := (Progress.atRest_callReady performer rests
            (Span.whole_ofMs settings.checkIntervalMs)).2
          have left : Span.ofMs settings.budgetMs <
              (moved.callReady performer (Span.ofMs settings.checkIntervalMs)).scene.timers.now +
                Span.ofMs moves := by
            rw [stays, now_eq, deadline_eq]
            simp only [Span.ofMs] at enough ⊢
            lia
          obtain ⟨stops, all, ended⟩ := ih turned left
          rw [List.append_assoc] at ended
          simp only [Progress.drive, Progress.driveTranscript, stop, moveTo_eq]
          exact ⟨stops, all, ended⟩

end Stands

/-- A performance ends after a number of turns, where the loop has come to its own end. -/
theorem stands_perform (performer : Performer σ) (page : Page) (settings : Settings) :
    let ended := perform performer page settings
    ended.nextStop? (Span.ofMs settings.budgetMs) = none ∧
      ∃ turns, Stands performer page settings turns (transcript performer page settings)
        ended := by
  have spent (now : Instant) :
      Span.ofMs settings.budgetMs < now + Span.ofMs (settings.budgetMs + 1) := by
    simp only [Span.ofMs]
    lia
  exact Stands.opened.drive (settings.budgetMs + 1) (spent _)

/-- A performance stays within its budget and ends.  It takes no more turns than the budget has
milliseconds; in every turn the deadline that is read lies a whole number of milliseconds ahead,
and the move gets there.  At the end the time is within the budget, and if nothing has failed,
every timer that is left is due beyond it.  All calls of a performer return, so this holds of
every script whose calls return, on every target. -/
theorem ends_within_budget (performer : Performer σ) (page : Page) (settings : Settings) :
    let budget := Span.ofMs settings.budgetMs
    let ended := perform performer page settings
    let report := ended.outcome.report
    (∃ turns ≤ settings.budgetMs,
      Stands performer page settings turns (transcript performer page settings) ended ∧
        ended.nextStop? budget = none) ∧
      (∀ turns past before, Stands performer page settings turns past before →
        turns ≤ settings.budgetMs ∧ before.scene.timers.now ≤ budget ∧
        ∀ deadline, before.scene.timers.nextDeadline? = some deadline →
          (∃ ms, 0 < ms ∧ deadline = before.scene.timers.now + Span.ofMs ms) ∧
          ∃ moved, before.moveTo settings.realtime deadline = some moved ∧
            moved.scene.timers.now = deadline ∧
            (before.failure = none → deadline ≤ budget →
              ∃ future, Stands performer page settings (turns + 1) (past ++ future)
                (moved.callReady performer (Span.ofMs settings.checkIntervalMs)))) ∧
      report.virtualMs ≤ settings.budgetMs ∧
      (report.success = true → ∀ entry ∈ ended.scene.timers.timers, budget < entry.2.due) := by
  intro budget ended report
  obtain ⟨stops, turns, stands⟩ := stands_perform performer page settings
  refine ⟨⟨turns, stands.turns_le, stands, stops⟩, ?_, ?_, ?_⟩
  · intro turns past before stands
    refine ⟨stands.turns_le, stands.within.2, ?_⟩
    intro deadline next
    obtain ⟨moved, moveTo_eq, -, -, -, now_eq⟩ := stands.exists_turn next
    refine ⟨stands.exists_ahead next, moved, moveTo_eq, now_eq, ?_⟩
    intro succeeds inTime
    have stop : before.nextStop? budget = some deadline :=
      Progress.nextStop?_eq_some.mpr ⟨succeeds, next, inTime⟩
    exact ⟨_, stands.turned stop moveTo_eq⟩
  · apply Nat.div_le_of_le_mul
    rw [Nat.mul_comm]
    exact stands.within.2
  · intro succeeds
    have succeeded : ended.failure = none := Option.isNone_iff_eq_none.mp succeeds
    cases Progress.nextStop?_eq_none.mp stops with
    | inl failed => exact absurd succeeded failed
    | inr late => exact late

end PageWatch.Performance
