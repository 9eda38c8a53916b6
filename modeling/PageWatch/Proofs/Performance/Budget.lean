import PageWatch.Proofs.Performance.Transcript

/-!
# Larger budgets

Two performances that differ in their budgets alone go through the same rounds, as long as
those are within the smaller budget.  Then the one with the smaller budget stops, and the other
one goes on from there: with nothing, if something has failed or no timer is left, and
otherwise with deadlines beyond the smaller budget.  So a larger budget extends a performance
and changes nothing in what it extends.
-/

namespace PageWatch.Performance

open Script

variable {σ : Type} {performer : Performer σ} {interval : Span} {bound : Instant}
  {first second : Moment σ} {entry : Option (Instant × Event)}

/-! ## Time goes on -/

theorem Step.now_le (step : Step performer interval first entry second)
    (tidy : Tidy first.scene.timers) : first.scene.timers.now ≤ second.scene.timers.now := by
  cases step with
  | answer request next scene calling => exact Nat.le_of_eq (now_answer _ _ _).symm
  | begin | finish | call | take => exact Nat.le_refl _
  | tick script scene due next alone =>
      obtain ⟨timer, takes⟩ := Clock.takes_of_nextDue? tidy.orderly next
      rw [World.now_beat]
      exact takes.now_le tidy.orderly
  | arrive script scene target rung there early alone => exact early

/-- Either an instant has passed, or nothing happens until it has. -/
inductive Beyond (bound : Instant) : Moment σ → Prop
  | passed {moment : Moment σ} : bound < moment.scene.timers.now → Beyond bound moment
  | asleep {failure : Option String} {script : σ} {scene : Scene} :
      scene.state.ready = [] → (∀ entry ∈ scene.timers.timers, bound < entry.2.due) →
      Beyond bound ⟨.idle failure script, scene, []⟩

theorem Step.beyond (step : Step performer interval first entry second)
    (tidy : Tidy first.scene.timers) (beyond : Beyond bound first) :
    Beyond bound second ∧ ∀ stamped ∈ entry, bound < stamped.1 := by
  have onward := step.now_le tidy
  cases beyond with
  | passed passed =>
      refine ⟨.passed (Nat.lt_of_lt_of_le passed onward), fun stamped member => ?_⟩
      cases step with
      | begin | answer | finish | call =>
          rw [← Option.some.inj member]
          exact passed
      | tick script scene due next alone =>
          rw [World.now_beat] at onward
          rw [← Option.some.inj member]
          exact Nat.lt_of_lt_of_le passed onward
      | take | arrive => simp at member
  | asleep none_ready late =>
      cases step with
      | take failure script timers state =>
          have empty : state.ready = [] := none_ready
          rw [empty]
          exact ⟨.asleep rfl late, fun _ member => by simp at member⟩
      | tick script scene due next alone =>
          obtain ⟨timer, takes⟩ := Clock.takes_of_nextDue? tidy.orderly next
          have later : bound < due.deadline := takes.due_eq ▸ late _ takes.member
          refine ⟨.passed ?_, fun stamped member => ?_⟩
          · rw [World.now_beat]
            exact later
          · rw [← Option.some.inj member]
            exact later
      | arrive script scene target rung there early alone =>
          exact ⟨.asleep none_ready late, fun _ member => by simp at member⟩

/-- Once nothing happens until an instant has passed, all that happens is later. -/
theorem Steps.beyond {added : Transcript} (steps : Steps performer interval first added second)
    (whole : interval.Whole) (tidy : Tidy first.scene.timers) (beyond : Beyond bound first) :
    first.scene.timers.now ≤ second.scene.timers.now ∧
      ∀ stamped ∈ added, bound < stamped.1 := by
  have start : Tidy first.scene.timers ∧ Beyond bound first ∧
      first.scene.timers.now ≤ first.scene.timers.now ∧
      ∀ stamped ∈ ([] : Transcript), bound < stamped.1 :=
    ⟨tidy, beyond, Nat.le_refl _, fun _ member => absurd member List.not_mem_nil⟩
  refine (steps.keeps (fun past moment => Tidy moment.scene.timers ∧ Beyond bound moment ∧
    first.scene.timers.now ≤ moment.scene.timers.now ∧
    ∀ stamped ∈ past, bound < stamped.1) ?_ start).2.2
  intro past middle entry next ⟨tidy, beyond, onward, later⟩ step
  obtain ⟨beyondNext, laterNext⟩ := step.beyond tidy beyond
  refine ⟨step.tidy whole tidy, beyondNext, Nat.le_trans onward (step.now_le tidy), ?_⟩
  intro stamped member
  rcases List.mem_append.mp member with member | member
  · exact later stamped member
  · exact laterNext stamped (Option.mem_toList.mp member)

/-! ## The same rounds -/

namespace Progress

variable {brief long : Settings} {progress : Progress σ}

/-- A round brings the end of every budget a millisecond nearer. -/
theorem Round.enough {after : Progress σ} {realtime : Bool} {deadline budget : Instant}
    {added : Transcript} {moves : Nat}
    (round : Round performer interval realtime deadline progress after added)
    (enough : budget < progress.scene.timers.now + Span.ofMs (moves + 1)) :
    budget < after.scene.timers.now + Span.ofMs moves := by
  have ahead := round.ahead
  rw [← round.now_eq] at ahead
  simp only [Span.ofMs] at enough ahead ⊢
  lia

/-- With the larger budget, a performance first goes through the rounds that the smaller budget
allows.  Each round takes a millisecond, so as many moves as the budget has milliseconds are
enough for the smaller budget to be used up. -/
theorem AtRest.drive_extends (atRest : progress.AtRest) (performer : Performer σ)
    (sameInterval : long.checkIntervalMs = brief.checkIntervalMs)
    (sameTime : long.realtime = brief.realtime)
    (more : brief.budgetMs ≤ long.budgetMs) (moves longMoves : Nat)
    (enough : Span.ofMs brief.budgetMs < progress.scene.timers.now + Span.ofMs moves)
    (longEnough : Span.ofMs long.budgetMs < progress.scene.timers.now + Span.ofMs longMoves) :
    let reached := progress.drive performer brief moves
    reached.nextStop? (Span.ofMs brief.budgetMs) = none ∧
      ∃ left, progress.drive performer long longMoves = reached.drive performer long left ∧
        progress.driveTranscript performer long longMoves =
          progress.driveTranscript performer brief moves ++
            reached.driveTranscript performer long left := by
  induction moves generalizing progress longMoves with
  | zero =>
      have late : ∀ entry ∈ progress.scene.timers.timers,
          Span.ofMs brief.budgetMs < entry.2.due := fun entry member =>
        Nat.lt_trans (by simpa [Span.ofMs] using enough) (atRest.clock.later entry member)
      exact ⟨nextStop?_eq_none.mpr (.inr late), longMoves, rfl, rfl⟩
  | succ moves ih =>
      cases stop : progress.nextStop? (Span.ofMs brief.budgetMs) with
      | none =>
          obtain ⟨drive_eq, transcript_eq⟩ := drive_stop performer brief stop (moves + 1)
          rw [drive_eq, transcript_eq]
          exact ⟨stop, longMoves, rfl, rfl⟩
      | some deadline =>
          obtain ⟨succeeds, next, within⟩ := nextStop?_eq_some.mp stop
          obtain ⟨after, added, round⟩ :=
            atRest.round performer (Span.whole_ofMs brief.checkIntervalMs) succeeds next
              brief.realtime
          have withinLong : deadline ≤ Span.ofMs long.budgetMs :=
            Nat.le_trans within (Nat.mul_le_mul_right _ more)
          cases longMoves with
          | zero =>
              have spent : Span.ofMs long.budgetMs < progress.scene.timers.now := by
                simpa [Span.ofMs] using longEnough
              have ahead : progress.scene.timers.now ≤ deadline :=
                Nat.le_of_add_right_le round.ahead
              exact absurd (Nat.le_trans ahead withinLong) (Nat.not_le.mpr spent)
          | succ longMoves =>
              obtain ⟨stops, left, drive_eq, transcript_eq⟩ :=
                ih round.atRest longMoves (round.enough enough) (round.enough longEnough)
              obtain ⟨briefDrive, briefTranscript⟩ := round.drive_eq brief moves rfl rfl within
              obtain ⟨longDrive, longTranscript⟩ :=
                round.drive_eq long longMoves sameTime (by rw [sameInterval]) withinLong
              rw [briefDrive, briefTranscript, longDrive, longTranscript]
              refine ⟨stops, left, drive_eq, ?_⟩
              rw [transcript_eq, List.append_assoc]

end Progress

/-- With a larger budget, a performance goes on where it stops with the smaller one. -/
theorem perform_extends (performer : Performer σ) (page : Page) (settings : Settings)
    {budgetMs : Nat} (more : settings.budgetMs ≤ budgetMs) :
    let reached := perform performer page settings
    reached.nextStop? (Span.ofMs settings.budgetMs) = none ∧
      ∃ left, perform performer page (settings.withBudget budgetMs) =
          reached.drive performer (settings.withBudget budgetMs) left ∧
        transcript performer page (settings.withBudget budgetMs) =
          transcript performer page settings ++
            reached.driveTranscript performer (settings.withBudget budgetMs) left := by
  have whole := Span.whole_ofMs settings.checkIntervalMs
  have spent (now : Instant) (ms : Nat) : Span.ofMs ms < now + Span.ofMs (ms + 1) := by
    simp only [Span.ofMs]
    lia
  have sameInterval :
      (settings.withBudget budgetMs).checkIntervalMs = settings.checkIntervalMs := rfl
  obtain ⟨stops, left, drive_eq, transcript_eq⟩ :=
    (atRest_opening performer page whole).drive_extends performer sameInterval rfl more
      (settings.budgetMs + 1) (budgetMs + 1) (spent _ _) (spent _ _)
  refine ⟨stops, left, drive_eq, ?_⟩
  rw [transcript, transcript, sameInterval, List.append_assoc]
  exact congrArg (openingTranscript performer page _ ++ ·) transcript_eq

/-- A larger budget only extends a performance.  The transcript grows at its end, by steps that
go on from where the performance with the smaller budget stops and that are beyond that budget;
so do the printed lines, and time goes on.  If something has failed or no timer is left within
the smaller budget, the larger one changes nothing.  A script is run by its own performer, so
this holds of every script on every target. -/
theorem extended_by_budget (performer : Performer σ) (page : Page) (settings : Settings)
    (budgetMs : Nat) (more : settings.budgetMs ≤ budgetMs) :
    let brief := perform performer page settings
    let long := perform performer page (settings.withBudget budgetMs)
    let briefOutcome := brief.outcome
    let longOutcome := long.outcome
    brief.scene.state.printed.reverse <+: long.scene.state.printed.reverse ∧
      briefOutcome.report.virtualMs ≤ longOutcome.report.virtualMs ∧
      (briefOutcome.report.success = false → longOutcome = briefOutcome) ∧
      (briefOutcome.report.pending = 0 → longOutcome = briefOutcome) ∧
      ∃ added left, transcript performer page (settings.withBudget budgetMs) =
          transcript performer page settings ++ added ∧
        Steps performer (Span.ofMs settings.checkIntervalMs) (brief.moment []) added
          (long.moment left) ∧
        ∀ entry ∈ added, Span.ofMs settings.budgetMs < entry.1 := by
  intro brief long briefOutcome longOutcome
  have whole := Span.whole_ofMs settings.checkIntervalMs
  have rests : brief.AtRest := atRest_perform performer page settings
  obtain ⟨stops, moves, drive_eq, transcript_eq⟩ := perform_extends performer page settings more
  let added := brief.driveTranscript performer (settings.withBudget budgetMs) moves
  have stopped (stop : brief.nextStop? (Span.ofMs budgetMs) = none) :
      long = brief ∧ added = [] := by
    obtain ⟨stays, silent⟩ :=
      Progress.drive_stop performer (settings.withBudget budgetMs) stop moves
    exact ⟨drive_eq.trans stays, silent⟩
  have same (stop : brief.nextStop? (Span.ofMs budgetMs) = none) : longOutcome = briefOutcome :=
    congrArg Progress.outcome (stopped stop).1
  obtain ⟨left, steps, onward, later⟩ : ∃ left,
      Steps performer (Span.ofMs settings.checkIntervalMs) (brief.moment []) added
        (long.moment left) ∧
      brief.scene.timers.now ≤ long.scene.timers.now ∧
      ∀ entry ∈ added, Span.ofMs settings.budgetMs < entry.1 := by
    rcases Progress.nextStop?_eq_none.mp stops with failed | late
    · obtain ⟨long_eq, added_eq⟩ := stopped (Progress.nextStop?_eq_none.mpr (.inl failed))
      rw [long_eq, added_eq]
      exact ⟨[], .refl _, Nat.le_refl _, fun _ member => absurd member List.not_mem_nil⟩
    · have asleep : Beyond (Span.ofMs settings.budgetMs) (brief.moment []) :=
        .asleep rests.ready_eq late
      have long_eq : long = brief.drive performer (settings.withBudget budgetMs) moves := drive_eq
      obtain ⟨left, steps, -⟩ :=
        rests.steps_drive performer (settings.withBudget budgetMs) moves (fun _ => rfl)
      rw [← long_eq] at steps
      exact ⟨left, steps, steps.beyond whole rests.clock.toTidy asleep⟩
  refine ⟨?_, Nat.div_le_div_right onward, fun fails => same ?_, fun settled => same ?_, added,
    left, transcript_eq, steps, later⟩
  · rw [lines_transcript, lines_transcript, transcript_eq]
    exact ⟨_, List.filterMap_append.symm⟩
  · have failed : brief.failure ≠ none := fun succeeds => by
      have isNone : brief.failure.isNone = false := fails
      simp [succeeds] at isNone
    exact Progress.nextStop?_eq_none.mpr (.inl failed)
  · have none_left : brief.scene.timers.timers = [] := List.eq_nil_of_length_eq_zero settled
    refine Progress.nextStop?_eq_none.mpr (.inr fun entry member => ?_)
    rw [none_left] at member
    exact absurd member List.not_mem_nil

/-- A script that sets a timeout, again and again. -/
def ticking : Performer Unit where
  start := .asks (.timeout 3 7) fun _ => .finished none ()
  call _ _ := .asks (.print "again") fun _ => .asks (.timeout 3 7) fun _ => .finished none ()

/-- A page that is never asked. -/
def unseen : Page := .scripted ⟨[]⟩

theorem extended_by_budget_ticking :
    4 ≤ 9 ∧ ["again"] <+: (perform ticking unseen ⟨10, 9, false⟩).scene.state.printed.reverse ∧
      ∃ added, transcript ticking unseen ⟨10, 9, false⟩ =
          transcript ticking unseen ⟨10, 4, false⟩ ++ added ∧
        ∀ entry ∈ added, Span.ofMs 4 < entry.1 := by
  have once : (perform ticking unseen ⟨10, 4, false⟩).scene.state.printed.reverse = ["again"] := by
    decide +kernel
  obtain ⟨lines, -, -, -, added, left, extended, -, later⟩ :=
    extended_by_budget ticking unseen ⟨10, 4, false⟩ 9 (by decide)
  rw [once] at lines
  exact ⟨by decide, lines, added, extended, later⟩

end PageWatch.Performance
