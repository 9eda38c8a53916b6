import Mathlib.Algebra.GroupWithZero.Nat
import PageWatch.Proofs.Performance.Budget
import PageWatch.Proofs.Performance.Signs

/-!
# Performances in real time

A performance can sleep through the time by which its clock is moved.  It does so right before
each move, for as long as the move is.  The timeline of a performance lists these sleeps among
everything that happens in it.

At any point of the timeline, the time slept through so far is the time on the clock.  This is
so at the beginning, a sleep adds to it what the move after it adds to the clock, and nothing
else moves the clock.
-/

namespace PageWatch.Performance

open Script

variable {σ : Type}

/-- What can be seen of a performance: it sleeps, or something happens in it. -/
inductive Sight where
  | slept (span : Span)
  | happened (entry : Instant × Event)

/-- What can be seen of a performance, in order. -/
abbrev Timeline := List Sight

namespace Timeline

/-- The timeline of a sleep, if there is one. -/
def ofSleep (sleep : Option Sleep) : Timeline := sleep.toList.map fun sleep => .slept sleep.span

/-- The timeline of a stretch in which nothing sleeps. -/
def ofTranscript (transcript : Transcript) : Timeline := transcript.map .happened

/-- What happens, without the sleeps. -/
def transcript (timeline : Timeline) : Transcript :=
  timeline.filterMap fun
    | .slept _ => none
    | .happened entry => some entry

/-- The sleeps, in order. -/
def sleeps (timeline : Timeline) : List Span :=
  timeline.filterMap fun
    | .slept span => some span
    | .happened _ => none

/-- The time slept through. -/
def slept (timeline : Timeline) : Span := timeline.sleeps.sum

@[simp] theorem transcript_slept (span : Span) (rest : Timeline) :
    transcript (.slept span :: rest) = rest.transcript := rfl

@[simp] theorem sleeps_slept (span : Span) (rest : Timeline) :
    sleeps (.slept span :: rest) = span :: rest.sleeps := rfl

@[simp] theorem transcript_append (past future : Timeline) :
    (past ++ future).transcript = past.transcript ++ future.transcript :=
  List.filterMap_append

@[simp] theorem sleeps_append (past future : Timeline) :
    (past ++ future).sleeps = past.sleeps ++ future.sleeps :=
  List.filterMap_append

@[simp] theorem transcript_ofTranscript (added : Transcript) :
    (ofTranscript added).transcript = added := by
  rw [transcript, ofTranscript, List.filterMap_map]
  exact List.filterMap_some

@[simp] theorem sleeps_ofTranscript (added : Transcript) : (ofTranscript added).sleeps = [] := by
  rw [sleeps, ofTranscript, List.filterMap_map]
  exact List.filterMap_eq_nil_iff.mpr fun _ _ => rfl

end Timeline

/-- The timeline of all moves of the clock and the calls after each.  A move is slept through
before anything happens in it. -/
def Progress.driveTimeline (performer : Performer σ) (settings : Settings) :
    Nat → Progress σ → Timeline
  | 0, _ => []
  | moves + 1, progress =>
    match progress.nextStop? (Span.ofMs settings.budgetMs) with
    | none => []
    | some deadline =>
      .ofSleep (progress.sleep? settings.realtime deadline) ++
        (.ofTranscript (progress.driveTranscript performer settings 1) ++
          driveTimeline performer settings moves (progress.drive performer settings 1))

def timeline (performer : Performer σ) (page : Page) (settings : Settings) : Timeline :=
  let interval := Span.ofMs settings.checkIntervalMs
  .ofTranscript (openingTranscript performer page interval) ++
    (opening performer page interval).driveTimeline performer settings (settings.budgetMs + 1)

/-! ## Timelines that keep time -/

namespace Timeline

variable {now : Instant} {past future rest : Timeline} {entry : Instant × Event} {span : Span}

/-- From some time on, the time slept through and the time on the clock are the same.  A sleep
leads to the instant at which the next timer ticks. -/
def Paced : Instant → Timeline → Prop
  | _, [] => True
  | now, .slept span :: rest =>
    0 < span ∧ Paced (now + span) rest ∧
      ∃ handle readied, rest.head? = some (.happened (now + span, .ticked handle readied))
  | now, .happened entry :: rest => entry.1 = now ∧ Paced now rest

theorem Paced.of_transcript {transcript : Transcript}
    (stamps : ∀ entry ∈ transcript, entry.1 = now) (paced : rest.Paced now) :
    (ofTranscript transcript ++ rest).Paced now := by
  induction transcript with
  | nil => exact paced
  | cons entry transcript ih =>
      obtain ⟨stamp, stamps⟩ := List.forall_mem_cons.mp stamps
      exact ⟨stamp, ih stamps⟩

/-- What is left of a timeline goes on at the time that has been slept through. -/
theorem Paced.append (paced : (past ++ rest).Paced now) : rest.Paced (now + past.slept) := by
  induction past generalizing now with
  | nil => exact paced
  | cons sight past ih =>
      cases sight with
      | slept span =>
          have later := ih paced.2.1
          rwa [Nat.add_assoc] at later
      | happened entry => exact ih paced.2

theorem Paced.positive {timeline : Timeline} (paced : timeline.Paced now) :
    ∀ span ∈ timeline.sleeps, 0 < span := by
  induction timeline generalizing now with
  | nil => simp [sleeps]
  | cons sight rest ih =>
      cases sight with
      | slept span => exact List.forall_mem_cons.mpr ⟨paced.1, ih paced.2.1⟩
      | happened entry => exact ih paced.2

end Timeline

/-! ## Turns -/

section Steps

variable {performer : Performer σ} {interval : Span} {first second last : Moment σ}

theorem Step.stamp_eq {entry : Option (Instant × Event)}
    (step : Step performer interval first entry second) :
    ∀ stamped ∈ entry, stamped.1 = second.scene.timers.now := by
  intro stamped member
  cases step with
  | begin | finish | call => rw [← Option.some.inj member]
  | answer request next scene calling => rw [← Option.some.inj member, now_answer]
  | tick script scene due next alone => rw [← Option.some.inj member, World.now_beat]
  | take | arrive => simp at member

/-- What happens on the way to a moment happens no later than that moment. -/
theorem Steps.stamps_le {added : Transcript} (steps : Steps performer interval first added last)
    (whole : interval.Whole) (tidy : Tidy first.scene.timers) :
    ∀ stamped ∈ added, stamped.1 ≤ last.scene.timers.now := by
  have start : Tidy first.scene.timers ∧
      ∀ stamped ∈ ([] : Transcript), stamped.1 ≤ first.scene.timers.now :=
    ⟨tidy, fun _ member => absurd member List.not_mem_nil⟩
  refine (steps.keeps (fun past moment => Tidy moment.scene.timers ∧
    ∀ stamped ∈ past, stamped.1 ≤ moment.scene.timers.now) ?_ start).2
  intro past middle entry next ⟨tidy, earlier⟩ step
  refine ⟨step.tidy whole tidy, fun stamped member => ?_⟩
  rcases List.mem_append.mp member with member | member
  · exact Nat.le_trans (earlier stamped member) (step.now_le tidy)
  · exact Nat.le_of_eq (step.stamp_eq stamped (Option.mem_toList.mp member))

end Steps

namespace Progress

variable {progress moved : Progress σ} {performer : Performer σ} {settings : Settings}
  {interval : Span} {deadline : Instant}

/-- A move to the next deadline begins with the tick of a timer that is due there. -/
theorem begins_move (ticks : Nat) {scene : Scene} (arriving : Arriving deadline scene.timers)
    (next : scene.timers.nextDeadline? = some deadline) :
    ∃ handle readied, (scene.moveTranscript (ticks + 1) deadline).head? =
      some (deadline, .ticked handle readied) := by
  obtain ⟨⟨first, firstMem, due_eq⟩, -⟩ := Clock.nextDeadline?_eq_some.mp next
  cases due : scene.timers.nextDue? deadline with
  | none =>
      have late := Clock.lt_due_of_nextDue? due first firstMem (arriving.settled first firstMem)
      exact absurd due_eq (Nat.ne_of_gt late)
  | some tick =>
      simp only [Scene.moveTranscript, due, List.head?_cons, (arriving.beat due).1]
      exact ⟨_, _, rfl⟩

/-- The first move of the clock and the calls after it: at least one timer meets the deadline,
and all that happens does so at that deadline. -/
structure Turn (performer : Performer σ) (settings : Settings) (deadline : Instant)
    (progress : Progress σ) : Prop where
  atRest : (progress.drive performer settings 1).AtRest
  now_eq : (progress.drive performer settings 1).scene.timers.now = deadline
  ahead : progress.scene.timers.now < deadline
  sleeps_eq : (progress.drive performer settings 1).sleeps =
    (progress.sleep? settings.realtime deadline).toList ++ progress.sleeps
  stamps : ∀ stamped ∈ progress.driveTranscript performer settings 1, stamped.1 = deadline
  begins : ∃ handle readied, (progress.driveTranscript performer settings 1).head? =
    some (deadline, .ticked handle readied)
  onward : ∀ moves,
    progress.drive performer settings (moves + 1) =
        (progress.drive performer settings 1).drive performer settings moves ∧
      progress.driveTranscript performer settings (moves + 1) =
        progress.driveTranscript performer settings 1 ++
          (progress.drive performer settings 1).driveTranscript performer settings moves

theorem AtRest.turn (atRest : progress.AtRest) (performer : Performer σ)
    (stop : progress.nextStop? (Span.ofMs settings.budgetMs) = some deadline) :
    Turn performer settings deadline progress := by
  have whole := Span.whole_ofMs settings.checkIntervalMs
  obtain ⟨succeeds, next, within⟩ := nextStop?_eq_some.mp stop
  obtain ⟨after, added, round⟩ := atRest.round performer whole succeeds next settings.realtime
  have onward (moves : Nat) := round.drive_eq settings moves rfl rfl within
  have drive_eq : progress.drive performer settings 1 = after := (onward 0).1
  have transcript_eq : progress.driveTranscript performer settings 1 = added :=
    (onward 0).2.trans (List.append_nil _)
  have ahead : progress.scene.timers.now < deadline :=
    Nat.lt_of_lt_of_le (Nat.lt_add_of_pos_right (by decide)) round.ahead
  obtain ⟨scene, moveTo_eq, -, arriving, -, -, -⟩ :=
    exists_moveTo atRest.clock next settings.realtime
  refine ⟨drive_eq ▸ round.atRest, drive_eq ▸ round.now_eq, ahead, ?_, ?_, ?_, ?_⟩
  · simp only [Progress.drive, stop, moveTo_eq]
    exact sleeps_callAll performer _ _ _
  · -- No timer is due before the deadline, and the round ends there.
    obtain ⟨left, steps, -⟩ := round.steps
    have asleep : Beyond (deadline - 1) (progress.moment []) :=
      .asleep atRest.ready_eq fun entry member =>
        Nat.lt_of_lt_of_le (Nat.sub_one_lt_of_lt ahead)
          ((Clock.nextDeadline?_eq_some.mp next).2 entry member)
    intro stamped member
    rw [transcript_eq] at member
    have later := (steps.beyond whole atRest.clock.toTidy asleep).2 stamped member
    have earlier := steps.stamps_le whole atRest.clock.toTidy stamped member
    rw [show (after.moment left).scene.timers.now = deadline from round.now_eq] at earlier
    exact Nat.le_antisymm earlier (Nat.le_of_pred_lt later)
  · obtain ⟨handle, readied, begins⟩ := begins_move progress.scene.timers.active arriving next
    refine ⟨handle, readied, ?_⟩
    simp only [driveTranscript, stop, moveTo_eq, List.append_assoc, List.head?_append, begins,
      Option.some_or]
  · rw [drive_eq, transcript_eq]
    exact onward

/-! ## Stretches of a timeline -/

/-- A stretch of a timeline in real time, from where it begins to where it ends.  It keeps time,
and its sleeps are those that the performance has made. -/
structure Watched (seen : Timeline) (added : Transcript) (before after : Progress σ) : Prop where
  paced : seen.Paced before.scene.timers.now
  transcript_eq : seen.transcript = added
  sleeps_eq : after.sleeps.reverse.map Sleep.span =
    before.sleeps.reverse.map Sleep.span ++ seen.sleeps
  now_eq : before.scene.timers.now + seen.slept = after.scene.timers.now

/-- A turn is slept through before it begins. -/
theorem Turn.watched (turn : Turn performer settings deadline progress) {seen : Timeline}
    {added : Transcript} {after : Progress σ} (realtime : settings.realtime = true)
    (rest : Watched seen added (progress.drive performer settings 1) after) :
    Watched
      (.ofSleep (progress.sleep? settings.realtime deadline) ++
        (Timeline.ofTranscript (progress.driveTranscript performer settings 1) ++ seen))
      (progress.driveTranscript performer settings 1 ++ added) progress after := by
  obtain ⟨paced, transcript_eq, sleeps_eq, now_eq⟩ := rest
  rw [turn.now_eq] at paced now_eq
  obtain ⟨handle, readied, begins⟩ := turn.begins
  obtain ⟨reported, sleep_eq⟩ : ∃ reported, progress.sleep? settings.realtime deadline =
      some ⟨deadline - progress.scene.timers.now, reported⟩ :=
    ⟨_, if_pos ⟨realtime, Nat.sub_pos_of_lt turn.ahead⟩⟩
  have recorded := turn.sleeps_eq
  rw [sleep_eq] at recorded ⊢
  have arrives : progress.scene.timers.now + (deadline - progress.scene.timers.now) = deadline :=
    Nat.add_sub_cancel' (Nat.le_of_lt turn.ahead)
  refine ⟨⟨Nat.sub_pos_of_lt turn.ahead, ?_, handle, readied, ?_⟩, ?_, ?_, ?_⟩
  · rw [arrives]
    exact paced.of_transcript turn.stamps
  · rw [arrives]
    simp [Timeline.ofTranscript, begins]
  · simp [Timeline.ofSleep, transcript_eq]
  · simp [Timeline.ofSleep, sleeps_eq, recorded]
  · rw [← now_eq, ← arrives]
    simp [Timeline.ofSleep, Timeline.slept, Nat.add_assoc]

/-- In real time, the moves of the clock are slept through one by one. -/
theorem AtRest.watched (atRest : progress.AtRest) (performer : Performer σ)
    (realtime : settings.realtime = true) (moves : Nat) :
    Watched (progress.driveTimeline performer settings moves)
      (progress.driveTranscript performer settings moves) progress
      (progress.drive performer settings moves) := by
  induction moves generalizing progress with
  | zero => exact ⟨trivial, rfl, (List.append_nil _).symm, rfl⟩
  | succ moves ih =>
      cases stop : progress.nextStop? (Span.ofMs settings.budgetMs) with
      | none =>
          obtain ⟨drive_eq, transcript_eq⟩ := drive_stop performer settings stop (moves + 1)
          rw [drive_eq, transcript_eq, driveTimeline, stop]
          exact ⟨trivial, rfl, (List.append_nil _).symm, rfl⟩
      | some deadline =>
          have turn := atRest.turn performer stop
          obtain ⟨drive_eq, transcript_eq⟩ := turn.onward moves
          simp only [drive_eq, transcript_eq, driveTimeline, stop]
          exact turn.watched realtime (ih turn.atRest)

theorem sleep?_jumping (deadline : Instant) (progress : Progress σ) :
    progress.sleep? false deadline = none := by
  simp [sleep?]

/-- Otherwise nothing sleeps, and all else is the same. -/
theorem AtRest.driveTimeline_eq (atRest : progress.AtRest) (performer : Performer σ)
    (realtime : settings.realtime = false) (moves : Nat) :
    progress.driveTimeline performer settings moves =
      .ofTranscript (progress.driveTranscript performer settings moves) := by
  induction moves generalizing progress with
  | zero => rfl
  | succ moves ih =>
      cases stop : progress.nextStop? (Span.ofMs settings.budgetMs) with
      | none =>
          rw [(drive_stop performer settings stop (moves + 1)).2, driveTimeline, stop]
          rfl
      | some deadline =>
          have turn := atRest.turn performer stop
          simp only [(turn.onward moves).2, Progress.driveTimeline, stop, realtime,
            sleep?_jumping, ih turn.atRest, Timeline.ofTranscript, List.map_append]
          rfl

/-! ## Performances without their sleeps -/

/-- The same performance, as if it had never slept. -/
def awake (progress : Progress σ) : Progress σ := { progress with sleeps := [] }

theorem awake_speak (interval : Span) (dialogue : σ → Dialogue σ) (progress : Progress σ) :
    (progress.speak interval dialogue).awake = progress.awake.speak interval dialogue := by
  obtain ⟨failure, script, scene, sleeps⟩ := progress
  cases failure <;> rfl

theorem awake_callAll (performer : Performer σ) (interval : Span) (callbacks : List ObjectId)
    (progress : Progress σ) :
    (progress.callAll performer interval callbacks).awake =
      progress.awake.callAll performer interval callbacks := by
  induction callbacks generalizing progress with
  | nil => rfl
  | cons callback callbacks ih =>
      rw [callAll, List.foldl_cons, ← callAll, ih, awake_speak]
      rfl

theorem callTranscript_awake (performer : Performer σ) (interval : Span)
    (callbacks : List ObjectId) (progress : Progress σ) :
    progress.awake.callTranscript performer interval callbacks =
      progress.callTranscript performer interval callbacks := by
  induction callbacks generalizing progress with
  | nil => rfl
  | cons callback callbacks ih =>
      have same : progress.awake.failure = progress.failure := rfl
      rw [callTranscript, callTranscript, same]
      cases progress.failure with
      | some text => rfl
      | none =>
          simp only [← awake_speak, ih]
          rfl

theorem awake_moveTo (realtime : Bool) (deadline : Instant) (progress : Progress σ) :
    progress.awake.moveTo false deadline = (progress.moveTo realtime deadline).map awake := by
  simp only [moveTo, pause, sleep?_jumping, Option.map_map]
  rfl

/-- Whether it sleeps makes no other difference to a performance. -/
theorem awake_drive (performer : Performer σ) (settings : Settings) (realtime : Bool)
    (moves : Nat) (progress : Progress σ) :
    progress.awake.drive performer (settings.withRealtime false) moves =
        (progress.drive performer (settings.withRealtime realtime) moves).awake ∧
      progress.awake.driveTranscript performer (settings.withRealtime false) moves =
        progress.driveTranscript performer (settings.withRealtime realtime) moves := by
  induction moves generalizing progress with
  | zero => exact ⟨rfl, rfl⟩
  | succ moves ih =>
      have stops : progress.awake.nextStop? (Span.ofMs settings.budgetMs) =
          progress.nextStop? (Span.ofMs settings.budgetMs) := rfl
      simp only [drive, driveTranscript, Settings.withRealtime, stops]
      cases progress.nextStop? (Span.ofMs settings.budgetMs) with
      | none => exact ⟨rfl, rfl⟩
      | some deadline =>
          simp only [awake_moveTo realtime]
          cases progress.moveTo realtime deadline with
          | none => exact ⟨rfl, rfl⟩
          | some moved =>
              have called : (awake moved).callReady performer
                    (Span.ofMs settings.checkIntervalMs) =
                  (moved.callReady performer (Span.ofMs settings.checkIntervalMs)).awake :=
                (awake_callAll performer _ _ moved.emptied).symm
              obtain ⟨drive_eq, transcript_eq⟩ :=
                ih (moved.callReady performer (Span.ofMs settings.checkIntervalMs))
              simp only [Option.map_some, called]
              refine ⟨drive_eq, congrArg₂ _ (congrArg _ ?_) transcript_eq⟩
              exact callTranscript_awake performer _ _ moved.emptied

end Progress

/-! ## Whole performances -/

/-- Up to the first move of the clock, no time passes. -/
theorem opening_takes_no_time (performer : Performer σ) (page : Page) {interval : Span}
    (whole : interval.Whole) :
    (opening performer page interval).scene.timers.now = 0 ∧
      ∀ stamped ∈ openingTranscript performer page interval, stamped.1 = 0 := by
  have start : Resting (Scene.start page).timers := resting_start
  obtain ⟨rests, stays, -⟩ := start.converse whole performer.start
  have now_eq : (opening performer page interval).scene.timers.now = 0 := by
    rw [opening, (Progress.atRest_callReady performer rests whole).2]
    exact stays
  refine ⟨now_eq, fun stamped member => ?_⟩
  obtain ⟨left, steps, -⟩ := steps_opening performer page interval
  have early := steps.stamps_le whole resting_start.toTidy stamped member
  rw [show ((opening performer page interval).moment left).scene.timers.now = 0
    from now_eq] at early
  exact Nat.le_zero.mp early

/-- A performance in real time is watched from its beginning to its end. -/
theorem watched_timeline (performer : Performer σ) (page : Page) (settings : Settings)
    (realtime : settings.realtime = true) :
    let seen := timeline performer page settings
    let ended := perform performer page settings
    seen.Paced 0 ∧ seen.transcript = transcript performer page settings ∧
      ended.outcome.sleeps = seen.sleeps ∧ seen.slept = ended.scene.timers.now := by
  intro seen ended
  have whole := Span.whole_ofMs settings.checkIntervalMs
  obtain ⟨now_eq, stamps⟩ := opening_takes_no_time performer page whole
  obtain ⟨paced, same, recorded, arrives⟩ := (atRest_opening performer page whole).watched performer
    realtime (settings.budgetMs + 1)
  rw [now_eq] at paced
  rw [sleeps_opening, List.reverse_nil, List.map_nil, List.nil_append] at recorded
  rw [now_eq, Nat.zero_add] at arrives
  refine ⟨paced.of_transcript stamps, ?_, ?_, ?_⟩
  · simp [seen, timeline, transcript, same]
  · rw [Progress.sleeps_outcome]
    exact recorded.trans (by simp [seen, timeline])
  · exact Eq.trans (by simp [seen, timeline, Timeline.slept]) arrives

/-- Without its sleeps, a performance in real time is the one that jumps. -/
theorem awake_perform (performer : Performer σ) (page : Page) (settings : Settings)
    (realtime : Bool) :
    perform performer page (settings.withRealtime false) =
        (perform performer page (settings.withRealtime realtime)).awake ∧
      transcript performer page (settings.withRealtime false) =
        transcript performer page (settings.withRealtime realtime) := by
  have unslept : (opening performer page (Span.ofMs settings.checkIntervalMs)).awake =
      opening performer page (Span.ofMs settings.checkIntervalMs) :=
    Progress.awake_callAll performer _ _ _
  obtain ⟨drive_eq, transcript_eq⟩ := Progress.awake_drive performer settings realtime
    (settings.budgetMs + 1) (opening performer page (Span.ofMs settings.checkIntervalMs))
  rw [unslept] at drive_eq transcript_eq
  exact ⟨drive_eq, congrArg (openingTranscript performer page _ ++ ·) transcript_eq⟩

/-- Sleeping through time changes nothing else, and exactly the time on the clock is slept
through.  With real time on, a performance reports the same and the same things happen in it, in
the same order.  None of its sleeps is empty, and they add up to the time at which it ends,
whether it fails, gives up waits or has none left.  At everything that happens, the time slept
through so far is the time on the clock; so a timer ticks only after the sleep that leads to its
deadline, and behind every sleep such a tick follows.  What has been seen of the performance when
it begins to sleep is what it has reported, and slept, up to the turn that leads to that deadline.
A script is run by its own performer, so this holds of every script on every target. -/
theorem sleeps_through_time (performer : Performer σ) (page : Page) (settings : Settings) :
    let jumping := settings.withRealtime false
    let sleeping := settings.withRealtime true
    let fast := (perform performer page jumping).outcome
    let slow := (perform performer page sleeping).outcome
    let seen := timeline performer page sleeping
    slow.report = fast.report ∧ slow.notices = fast.notices ∧
      timeline performer page jumping = .ofTranscript (transcript performer page jumping) ∧
      fast.sleeps = [] ∧
      seen.transcript = transcript performer page jumping ∧
      seen.sleeps = slow.sleeps ∧ (∀ span ∈ slow.sleeps, 0 < span) ∧
      slow.sleeps.sum = (perform performer page sleeping).scene.timers.now ∧
      slow.report.virtualMs = Span.wholeMs slow.sleeps.sum ∧
      (∀ (past : Timeline) entry future, seen = past ++ .happened entry :: future →
        past.slept = entry.1) ∧
      (∀ (past : Timeline) span future, seen = past ++ .slept span :: future →
        ∃ handle readied, future.head? =
          some (.happened (past.slept + span, .ticked handle readied))) ∧
      ∀ shown span future, slow.signs = shown ++ .slept span :: future →
        ∃ turns past before, Stands performer page sleeping turns past before ∧
          before.nextStop? (Span.ofMs settings.budgetMs) =
            some (before.scene.timers.now + span) ∧
          shown = before.signs ∧
          shown.filterMap Sign.notice? = before.scene.state.notices.reverse := by
  intro jumping sleeping fast slow seen
  have whole := Span.whole_ofMs settings.checkIntervalMs
  obtain ⟨ended_eq, happens⟩ : perform performer page jumping =
      (perform performer page sleeping).awake ∧ _ :=
    awake_perform performer page settings true
  obtain ⟨paced, transcript_eq, sleeps_eq, slept_eq⟩ : seen.Paced 0 ∧ _ :=
    watched_timeline performer page sleeping rfl
  have sum_eq : slow.sleeps.sum = (perform performer page sleeping).scene.timers.now := by
    rw [sleeps_eq]
    exact slept_eq
  refine ⟨?_, ?_, ?_, ?_, transcript_eq.trans happens.symm, sleeps_eq.symm, ?_, sum_eq, ?_, ?_,
    ?_, ?_⟩
  · exact congrArg (fun ended => ended.outcome.report) ended_eq.symm
  · rw [Progress.notices_outcome, Progress.notices_outcome, ended_eq]
    rfl
  · have jumps : jumping.realtime = false := rfl
    have jumped := (atRest_opening performer page whole).driveTimeline_eq performer jumps
      (settings.budgetMs + 1)
    simp only [timeline, transcript, Timeline.ofTranscript, List.map_append]
    exact congrArg (List.map Sight.happened _ ++ ·) jumped
  · rw [Progress.sleeps_outcome, ended_eq]
    rfl
  · rw [sleeps_eq]
    exact paced.positive
  · rw [sum_eq]
    rfl
  · intro past entry future split
    rw [split] at paced
    obtain ⟨stamp, -⟩ := paced.append
    rw [stamp, Nat.zero_add]
  · intro past span future split
    rw [split] at paced
    obtain ⟨-, -, ticks⟩ := paced.append
    rwa [Nat.zero_add] at ticks
  · intro shown span future split
    obtain ⟨turns, past, before, stands, stop, rfl⟩ :=
      exists_turn_of_slept performer page sleeping split
    exact ⟨turns, past, before, stands, stop, rfl, before.notices_signs⟩

end PageWatch.Performance
