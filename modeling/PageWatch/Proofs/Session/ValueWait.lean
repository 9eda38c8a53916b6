import PageWatch.Proofs.Session.Editing

/-!
# Waits for a value

A wait for a value asks the page when it starts and then once in every interval, until the first
element that its selector matches has the value, and fires at that instant.  What the page shows
between these instants is of no consequence.
-/

namespace PageWatch.Session

open Snapshot (Call)

/-! ## What the page shows -/

/-- The value of the first element that a selector matches, after some calls. -/
def firstValue? (first : String) (past : List Call) (selector : String) : Option String :=
  let nodes := Markup.parse (Snapshot.lastSource first past)
  match Snapshot.matched nodes selector with
  | .ok (found :: _) => Snapshot.currentValue? nodes (Snapshot.typing past) found.2 found.1
  | _ => none

/-- The calls that have been made when the clock reaches an instant in the course of some actions.
It reaches the instant in the first of them that is no edit and ends then or later. -/
def callsBy (instant : Instant) : Instant → List Call → List Action → List Call
  | _, past, [] => past
  | now, past, action :: more =>
    if action.edits = false ∧ instant ≤ now + action.span then past
    else callsBy instant (now + action.span) (action.call?.toList ++ past) more

/-! ## Courses -/

/-- What is heard of a wait at a number of instants in a row, from one of them on.  It asks at each
of them, until its condition holds; then it fires. -/
def course (ask fire : Nat → Instant × Event) (holds : Nat → Bool) :
    Nat → Nat → List (Instant × Event)
  | 0, _ => []
  | count + 1, poll => ask poll :: if holds poll then [fire poll] else
    course ask fire holds count (poll + 1)

section Course

variable {ask fire : Nat → Instant × Event} {holds other : Nat → Bool} {count poll : Nat}

/-- What holds of polls in a row holds of the first and of those after it. -/
theorem of_polls {P : Nat → Prop} (all : ∀ later < count + 1, P (poll + later)) :
    P poll ∧ ∀ later < count, P (poll + 1 + later) := by
  refine ⟨all 0 (Nat.succ_pos count), fun later less => ?_⟩
  rw [Nat.add_right_comm]
  exact all (later + 1) (Nat.succ_lt_succ less)

theorem course_congr (same : ∀ later < count, holds (poll + later) = other (poll + later)) :
    course ask fire holds count poll = course ask fire other count poll := by
  induction count generalizing poll with
  | zero => rfl
  | succ count ih =>
      obtain ⟨here, onward⟩ := of_polls (P := fun poll => holds poll = other poll) same
      rw [course, course, ih onward, here]

/-- A course goes on after polls that fail. -/
theorem course_append (fails : ∀ later < count, holds (poll + later) = false) (more : Nat) :
    course ask fire holds (count + more) poll =
      course ask fire holds count poll ++ course ask fire holds more (poll + count) := by
  induction count generalizing poll with
  | zero => exact congrArg (course ask fire holds · poll) (Nat.zero_add more)
  | succ count ih =>
      obtain ⟨here, onward⟩ := of_polls (P := fun poll => holds poll = false) fails
      rw [Nat.add_right_comm, course, course, here, if_neg Bool.false_ne_true,
        if_neg Bool.false_ne_true, ih onward, Nat.add_assoc, Nat.add_comm 1, List.cons_append]

theorem course_of_holds (here : holds poll = true) (count : Nat) :
    course ask fire holds (count + 1) poll = [ask poll, fire poll] := by
  rw [course, if_pos here]

/-- If all polls fail, the wait never fires. -/
theorem course_of_fails (fails : ∀ later < count, holds (poll + later) = false) :
    course ask fire holds count poll = (List.range count).map fun later => ask (poll + later) := by
  induction count generalizing poll with
  | zero => rfl
  | succ count ih =>
      obtain ⟨here, onward⟩ := of_polls (P := fun poll => holds poll = false) fails
      rw [course, here, if_neg Bool.false_ne_true, ih onward, List.range_succ_eq_map,
        List.map_cons, List.map_map]
      refine congrArg (ask poll :: ·) (List.map_congr_left fun later _ => ?_)
      exact congrArg ask (Nat.add_right_comm poll 1 later)

/-- The first poll at which the condition holds is the last one. -/
theorem course_of_first (less : poll < count) (here : holds poll = true)
    (fails : ∀ earlier < poll, holds earlier = false) :
    course ask fire holds count 0 = (List.range (poll + 1)).map ask ++ [fire poll] := by
  obtain ⟨more, rfl⟩ := Nat.exists_eq_add_of_lt less
  have failed : ∀ earlier < poll, holds (0 + earlier) = false := by
    simpa using fails
  rw [Nat.add_assoc, course_append failed, course_of_fails failed, Nat.zero_add,
    course_of_holds here, List.range_succ]
  simp

end Course

/-! ## The wait -/

/-- A wait for a value, with a callback that edits the page. -/
structure ValueWait where
  label : String
  selector : String
  wanted : String
  interval : Option Span
  next : List Action
  edits : ∀ action ∈ next, action.edits = true

namespace ValueWait

/-- The action that starts the wait. -/
def action (wait : ValueWait) : Action :=
  .wait wait.label (.value wait.selector wait.wanted) wait.interval wait.next

/-- The time between two polls, where waits without an interval have the usual one. -/
def period (wait : ValueWait) (usual : Span) : Span := (wait.interval.getD usual).clamp

def condition (wait : ValueWait) : Condition := .page (.value wait.selector wait.wanted)

def callback (wait : ValueWait) : Callback := ⟨wait.label, wait.next⟩

/-- The task of the timer that polls. -/
def task (wait : ValueWait) (timer : Handle) : Task :=
  .wait ⟨wait.condition, some (.callback wait.callback), some timer⟩

/-- The timer of a wait that is to poll at an instant. -/
def polling (wait : ValueWait) (usual : Span) (timer : Handle) (due : Instant) :
    List (Handle × Timer Task) :=
  [(timer, ⟨wait.period usual, due, some (wait.task timer)⟩)]

/-- Whether the page shows the value, after some calls. -/
def shows (wait : ValueWait) (first : String) (past : List Call) : Bool :=
  firstValue? first past wait.selector == some wait.wanted

def asks (wait : ValueWait) (now : Instant) : Instant × Event := (now, .query wait.selector)

def fires (wait : ValueWait) (now : Instant) : Instant × Event := (now, .fire wait.label)

variable (wait : ValueWait) {usual : Span} {first : String} {past : List Call} {now : Instant}
  {entries : List (Handle × Timer Task)} {world : World.Clocked Task State}

/-- A session in which queries are recorded, on a clock that is moved by hand. -/
abbrev listening (usual : Span) : Setup := ⟨true, usual, true⟩

theorem byHand (usual : Span) : (listening usual).byHand = true := rfl

/-- A check asks the page for its first value. -/
theorem check_eq (usual : Span) (valid : ∃ found, Selector.parse wait.selector = .ok found)
    (scene : Scene first past now entries world) :
    ∃ after, world.act Clock.service (Work.check (listening usual) wait.condition) =
        ((.ok (wait.shows first past), wait.condition), after) ∧
      Scene first past now entries after ∧ heard after = heard world ++ [wait.asks now] := by
  obtain ⟨⟨clockNow, next, scheduled, timers⟩, ⟨page, names, log⟩⟩ := world
  obtain ⟨rfl, rfl, rfl⟩ := scene
  let asked : State := ⟨.snapshot (Snapshot.after first past), names,
    (clockNow, .query wait.selector) :: log⟩
  refine ⟨⟨⟨clockNow, next, scheduled, timers⟩, asked⟩, ?_, ⟨rfl, rfl, rfl⟩, ?_⟩
  · obtain ⟨elements, matched⟩ : ∃ elements,
        Snapshot.matched (Markup.parse (Snapshot.lastSource first past)) wait.selector =
          .ok elements := by
      obtain ⟨found, parsed⟩ := valid
      rw [Snapshot.matched, parsed]
      exact ⟨_, rfl⟩
    have answered : ((Snapshot.after first past).select wait.selector).map
        (PageCondition.value wait.selector wait.wanted).holds = .ok (wait.shows first past) := by
      rw [(Snapshot.Recalls.after first past).select_eq, shows, firstValue?, matched]
      cases elements <;> rfl
    have checked : World.act Clock.service (Work.check (listening usual) wait.condition)
        ⟨⟨clockNow, next, scheduled, timers⟩,
          ⟨.snapshot (Snapshot.after first past), names, log⟩⟩ =
        ((((Snapshot.after first past).select wait.selector).map
          (PageCondition.value wait.selector wait.wanted).holds, wait.condition),
          ⟨⟨clockNow, next, scheduled, timers⟩, asked⟩) := rfl
    rw [checked, answered]
  · exact heard_record (.query wait.selector)
      ⟨⟨clockNow, next, scheduled, timers⟩, ⟨.snapshot (Snapshot.after first past), names, log⟩⟩

/-- What a wait does when its condition holds. -/
def fireWork (wait : ValueWait) (usual : Span) : Work Unit :=
  (Work.record (.fire wait.label)).bind fun _ => Work.performAll (listening usual) wait.next

theorem act_fireWork (usual : Span) (scene : Scene first past now entries world) :
    Scene first (callsOf wait.next ++ past) now entries
        (world.act Clock.service (wait.fireWork usual)).2 ∧
      heard (world.act Clock.service (wait.fireWork usual)).2 =
        heard world ++ [wait.fires now] := by
  rw [fireWork, World.act_bind]
  obtain ⟨edited, silent⟩ := (scene.record (.fire wait.label)).performAll_edits
    (listening usual) wait.edits
  refine ⟨edited, silent.trans ?_⟩
  rw [heard_record, scene.now_eq]
  rfl

/-- A wait that asks when it starts, and goes on polling. -/
def stayWork (wait : ValueWait) (usual : Span) : Work Unit :=
  (Work.report (.polling (wait.interval.getD usual).wholeMs)).bind fun _ =>
    .schedule (wait.interval.getD usual) wait.task fun _ => .done ()

theorem act_stayWork (usual : Span) (scene : Scene first past now [] world) :
    ∃ timer, Scene first past now (wait.polling usual timer (now + wait.period usual))
        (world.act Clock.service (wait.stayWork usual)).2 ∧
      heard (world.act Clock.service (wait.stayWork usual)).2 = heard world := by
  obtain ⟨⟨clockNow, next, scheduled, timers⟩, ⟨page, names, log⟩⟩ := world
  obtain ⟨rfl, rfl, same⟩ := scene
  obtain rfl : timers = [] := same
  refine ⟨⟨next⟩, ⟨rfl, rfl, rfl⟩, ?_⟩
  exact (heard_record (.notice (.polling (wait.interval.getD usual).wholeMs)) _).trans
    (List.append_nil _)

/-- What starting a wait comes to. -/
theorem act_awaitAll (usual : Span) (valid : ∃ found, Selector.parse wait.selector = .ok found)
    (scene : Scene first past now entries world) :
    ∃ asked, Scene first past now entries asked ∧ heard asked = heard world ++ [wait.asks now] ∧
      world.act Clock.service (Waiter.awaitAll (Work.host (listening usual))
          ⟨.callback wait.callback, wait.interval.getD usual⟩ [wait.condition]) =
        if wait.shows first past then (.met wait.callback, asked)
        else (.waiting, (asked.act Clock.service (wait.stayWork usual)).2) := by
  obtain ⟨asked, checked, scene, told⟩ := wait.check_eq usual valid scene
  refine ⟨asked, scene, told, ?_⟩
  have started : Waiter.awaitAll (Work.host (listening usual))
      ⟨.callback wait.callback, wait.interval.getD usual⟩ [wait.condition] =
        Wait.start (Work.host (listening usual)) (wait.interval.getD usual)
          (.callback wait.callback) (.done (.met wait.callback)) wait.condition := rfl
  have asking : (Work.host (listening usual)).check wait.condition =
      Work.check (listening usual) wait.condition := rfl
  simp only [started, Wait.start, Routine.bind_eq, World.act_bind, asking, checked]
  cases wait.shows first past <;> rfl

theorem perform_action (usual : Span) :
    Work.perform (listening usual) wait.action =
      (Waiter.awaitAll (Work.host (listening usual))
        ⟨.callback wait.callback, wait.interval.getD usual⟩ [wait.condition]).bind fun progress =>
          match progress with
          | .met _ => (Work.record (.fire wait.label)).bind fun _ =>
              (Work.performAll (listening usual) wait.next).bind fun _ => .done .nothing
          | _ => .done .nothing := by
  rw [action, Work.perform]
  refine congrArg (Routine.bind _) (funext fun progress => ?_)
  cases progress <;> rfl

/-- A wait whose callback edits the page leaves the clock alone. -/
theorem still_action (usual : Span) :
    (Work.perform (listening usual) wait.action).Still := by
  have edits : (Work.performAll (listening usual) wait.next).Still :=
    (Work.modest_performAll (listening usual) rests_of_edits wait.next
      (everywhereInList_of_edits wait.edits)).still
  rw [perform_action]
  refine (Work.still_awaitAll (listening usual) _ _).bind fun progress => ?_
  cases progress with
  | met callback => exact (Work.still_record _).bind fun _ => edits.bind fun _ => trivial
  | waiting | dropped => trivial

/-- A wait asks the page when it starts, and fires at once if the page shows the value. -/
theorem act_action (usual : Span) (valid : ∃ found, Selector.parse wait.selector = .ok found)
    (scene : Scene first past now [] world) :
    let after := (world.act Clock.service (Work.perform (listening usual) wait.action)).2
    (wait.shows first past = true → Scene first (callsOf wait.next ++ past) now [] after ∧
      heard after = heard world ++ [wait.asks now, wait.fires now]) ∧
    (wait.shows first past = false →
      (∃ timer, Scene first past now (wait.polling usual timer (now + wait.period usual)) after) ∧
      heard after = heard world ++ [wait.asks now]) := by
  obtain ⟨asked, scene, told, awaited⟩ := wait.act_awaitAll usual valid scene
  rw [perform_action, World.act_bind, awaited]
  constructor
  · intro shown
    have ends : (World.act Clock.service ((Work.record (.fire wait.label)).bind fun _ =>
        (Work.performAll (listening usual) wait.next).bind fun _ => Routine.done Outcome.nothing)
          asked).2 = (asked.act Clock.service (wait.fireWork usual)).2 := by
      simp only [fireWork, World.act_bind]
      rfl
    obtain ⟨fired, silent⟩ := wait.act_fireWork usual scene
    rw [if_pos shown]
    simp only [ends]
    refine ⟨fired, ?_⟩
    rw [silent, told, List.append_assoc]
    rfl
  · intro shown
    obtain ⟨timer, stays, silent⟩ := wait.act_stayWork usual scene
    rw [if_neg (shown ▸ Bool.false_ne_true)]
    exact ⟨⟨timer, stays⟩, silent.trans told⟩

/-- A wait whose condition holds at a poll gives up its timer. -/
def metWork (timer : Handle) : Work Unit :=
  .cancel timer (Work.report .conditionMet)

theorem act_metWork {timer : Handle} {held : Timer Task}
    (scene : Scene first past now [(timer, held)] world) :
    Scene first past now [] (world.act Clock.service (metWork timer)).2 ∧
      heard (world.act Clock.service (metWork timer)).2 = heard world := by
  obtain ⟨⟨clockNow, next, scheduled, timers⟩, ⟨page, names, log⟩⟩ := world
  obtain ⟨rfl, rfl, same⟩ := scene
  obtain rfl : timers = [(timer, held)] := same
  refine ⟨⟨rfl, rfl, by simp [metWork, Clock.service, Clock.cancel, Work.report, Work.record,
    Routine.modify]⟩, ?_⟩
  exact (heard_record (.notice .conditionMet) _).trans (List.append_nil _)

/-- What a poll comes to. -/
theorem act_poll (usual : Span) (valid : ∃ found, Selector.parse wait.selector = .ok found)
    (timer : Handle) (scene : Scene first past now entries world) :
    ∃ asked, Scene first past now entries asked ∧ heard asked = heard world ++ [wait.asks now] ∧
      world.act Clock.service (Wait.tick (Work.host (listening usual))
          (Sequel.run (Work.host (listening usual)))
          ⟨wait.condition, some (.callback wait.callback), some timer⟩) =
        if wait.shows first past then
          ((⟨wait.condition, none, none⟩, .met wait.callback),
            (asked.act Clock.service (metWork timer)).2)
        else ((⟨wait.condition, some (.callback wait.callback), some timer⟩, .waiting), asked) := by
  obtain ⟨asked, checked, scene, told⟩ := wait.check_eq usual valid scene
  refine ⟨asked, scene, told, ?_⟩
  have asking : (Work.host (listening usual)).check wait.condition =
      Work.check (listening usual) wait.condition := rfl
  simp only [Wait.tick, Routine.bind_eq, World.act_bind, asking, checked]
  cases wait.shows first past <;> rfl

/-- A poll asks the page, and the wait fires at its instant if the page shows the value. -/
theorem beat_polling (valid : ∃ found, Selector.parse wait.selector = .ok found)
    {timer : Handle} {due : Instant}
    (scene : Scene first past now (wait.polling usual timer due) world) :
    let after := world.beat (Work.tick (listening usual)) ⟨timer, due, wait.task timer⟩
    (wait.shows first past = true → Scene first (callsOf wait.next ++ past) due [] after ∧
      heard after = heard world ++ [wait.asks due, wait.fires due]) ∧
    (wait.shows first past = false →
      Scene first past due (wait.polling usual timer (due + wait.period usual)) after ∧
      heard after = heard world ++ [wait.asks due]) := by
  have running : Scene first past due [(timer, ⟨wait.period usual, due + wait.period usual, none⟩)]
      { world with timers := world.timers.taking ⟨timer, due, wait.task timer⟩ } :=
    ⟨scene.page_eq, rfl, by simp [Clock.timers_taking, Clock.update, scene.timers_eq, polling]⟩
  obtain ⟨asked, scene, told, polled⟩ := wait.act_poll usual valid timer running
  have told : heard asked = heard world ++ [wait.asks due] := told
  have ticked : Work.tick (listening usual) timer (wait.task timer) =
      (Wait.tick (Work.host (listening usual)) (Sequel.run (Work.host (listening usual)))
          ⟨wait.condition, some (.callback wait.callback), some timer⟩).bind fun ended =>
        match ended.2 with
        | .met callback => (Work.record (.fire callback.label)).bind fun _ =>
            (Work.performAll (listening usual) callback.next).bind fun _ => .done (.wait ended.1)
        | _ => .done (.wait ended.1) := by
    simp only [Work.tick, task, Routine.bind_eq]
    refine congrArg (Routine.bind _) (funext fun ended => ?_)
    obtain ⟨polled, progress⟩ := ended
    cases progress <;> rfl
  simp only [World.beat, ticked, World.act_bind, polled]
  constructor
  · intro shown
    obtain ⟨cancelled, quiet⟩ := act_metWork scene
    obtain ⟨fired, silent⟩ := wait.act_fireWork usual cancelled
    rw [fireWork, World.act_bind] at fired silent
    simp only [if_pos shown, World.act_bind, World.act_done]
    refine ⟨fired.putBack timer _, ?_⟩
    have told : _ = heard world ++ [wait.asks due, wait.fires due] :=
      silent.trans (by rw [quiet, told, List.append_assoc]; rfl)
    exact told
  · intro shown
    simp only [if_neg (shown ▸ Bool.false_ne_true), World.act_done]
    refine ⟨?_, told⟩
    have back := scene.putBack timer (wait.task timer)
    rw [List.map_singleton, if_pos rfl] at back
    exact back

/-! ## Moves of the clock -/

/-- The instant of a poll of a wait that started at an instant. -/
def due (wait : ValueWait) (usual : Span) (start : Instant) (poll : Nat) : Instant :=
  start + poll * wait.period usual

theorem period_pos (usual : Span) : 0 < wait.period usual := Span.clamp_pos _

theorem due_add (start : Instant) (poll later : Nat) :
    wait.due usual start (poll + later) =
      wait.due usual start poll + later * wait.period usual := by
  rw [due, due, Nat.add_mul, Nat.add_assoc]

/-- What is heard of the wait at some polls, from one of them on. -/
def told (wait : ValueWait) (usual : Span) (start : Instant) (holds : Nat → Bool) :
    Nat → Nat → List (Instant × Event) :=
  course (fun poll => wait.asks (wait.due usual start poll))
    (fun poll => wait.fires (wait.due usual start poll)) holds

/-- A tick of the timer of a wait leaves the clock alone. -/
theorem still_tick (usual : Span) (timer : Handle) :
    (Work.tick (listening usual) timer (wait.task timer)).Still := by
  refine (Work.modest_tick (listening usual) rests_of_edits timer _ ?_).still
  intro sequel same
  obtain rfl := Option.some.inj same
  exact everywhereInList_of_edits wait.edits

/-- A move of the clock goes through the polls that are due by its end.  The page stays as it is, so
either the first of them fires, or none. -/
theorem drain_polling (valid : ∃ found, Selector.parse wait.selector = .ok found)
    {start target : Instant} {timer : Handle} {count poll : Nat}
    (reach : ∀ later, wait.due usual start (poll + later) ≤ target ↔ later < count)
    (scene : Scene first past now
      (wait.polling usual timer (wait.due usual start poll)) world) :
    ∃ after, ComesTo (fun ticks =>
        World.drain Clock.service (Work.tick (listening usual)) ticks target world) after ∧
      heard after = heard world ++
        wait.told usual start (fun _ => wait.shows first past) count poll ∧
      (wait.shows first past = true ∧ 0 < count →
        Scene first (callsOf wait.next ++ past) target [] after) ∧
      (wait.shows first past = false ∨ count = 0 →
        Scene first past target
          (wait.polling usual timer (wait.due usual start (poll + count))) after) := by
  induction count generalizing poll now world with
  | zero =>
      have late : ¬wait.due usual start poll ≤ target := fun inTime =>
        Nat.not_lt_zero 0 ((reach 0).mp inTime)
      have rests : world.timers.nextDue? target = none := by
        rw [Clock.nextDue?, scene.timers_eq]
        simp [polling, Clock.Due.ofTimer?, late]
      refine ⟨world.arrive target, .succ (.always fun _ => rfl) (World.drain_rest rests),
        (List.append_nil _).symm, fun fired => absurd fired.2 (Nat.lt_irrefl 0), fun _ => ?_⟩
      exact ⟨scene.page_eq, rfl, scene.timers_eq⟩
  | succ count ih =>
      have inTime : wait.due usual start poll ≤ target := (reach 0).mpr (Nat.succ_pos count)
      have next : world.timers.nextDue? target =
          some ⟨timer, wait.due usual start poll, wait.task timer⟩ := by
        rw [Clock.nextDue?, scene.timers_eq]
        simp [polling, Clock.Due.ofTimer?, inTime]
      have ticks := World.drain_tick next (wait.still_tick usual timer)
      obtain ⟨met, fails⟩ := wait.beat_polling valid scene
      cases shown : wait.shows first past with
      | true =>
          obtain ⟨settled, heardNow⟩ := met shown
          let ticked := world.beat (Work.tick (listening usual))
            ⟨timer, wait.due usual start poll, wait.task timer⟩
          have rests : ticked.timers.nextDue? target = none := by
            rw [Clock.nextDue?, settled.timers_eq]
            rfl
          have ends : ComesTo (fun ticks => World.drain Clock.service
              (Work.tick (listening usual)) ticks target ticked) (ticked.arrive target) :=
            .succ (.always fun _ => rfl) (World.drain_rest rests)
          refine ⟨ticked.arrive target, ends.succ ticks, ?_,
            fun _ => ⟨settled.page_eq, rfl, settled.timers_eq⟩, fun none => ?_⟩
          · rw [told, course_of_holds rfl]
            exact heardNow
          · exact absurd none (by simp)
      | false =>
          obtain ⟨waits, heardNow⟩ := fails shown
          rw [← Nat.one_mul (wait.period usual), ← wait.due_add] at waits
          have onward (later : Nat) :
              wait.due usual start (poll + 1 + later) ≤ target ↔ later < count := by
            rw [Nat.add_assoc, Nat.add_comm 1, reach, Nat.succ_lt_succ_iff]
          obtain ⟨after, comes, heardLater, -, stays⟩ := ih onward waits
          refine ⟨after, comes.succ ticks, ?_, fun fired => absurd fired.1 Bool.false_ne_true,
            fun _ => ?_⟩
          · rw [heardLater, heardNow, shown, List.append_assoc]
            rfl
          · rw [Nat.add_comm count, ← Nat.add_assoc]
            exact stays (.inl shown)

/-! ## Sessions -/

/-- The number of polls that are due by an instant. -/
theorem due_le_iff {start target : Instant} {poll : Nat}
    (inTime : wait.due usual start poll ≤ target) (later : Nat) :
    wait.due usual start (poll + later) ≤ target ↔
      later < (target - wait.due usual start poll) / wait.period usual + 1 := by
  rw [Nat.lt_succ_iff, Nat.le_div_iff_mul_le (wait.period_pos usual), due_add]
  lia

theorem exists_reach (usual : Span) (start target : Instant) (poll : Nat) :
    ∃ count, ∀ later, wait.due usual start (poll + later) ≤ target ↔ later < count := by
  by_cases inTime : wait.due usual start poll ≤ target
  · exact ⟨_, wait.due_le_iff inTime⟩
  · refine ⟨0, fun later => ?_⟩
    rw [due_add]
    lia

theorem callsBy_edit {action : Action} {call : Call} (called : action.call? = some call)
    (instant now : Instant) (past : List Call) (more : List Action) :
    callsBy instant now past (action :: more) = callsBy instant now (call :: past) more := by
  have edits : action.edits = true := by rw [Action.edits, called]; rfl
  rw [callsBy, if_neg (by simp [edits]), Action.span_of_edits edits, called]
  rfl

theorem callsBy_within {instant now : Instant} {action : Action} (other : action.edits = false)
    (within : instant ≤ now + action.span) (past : List Call) (more : List Action) :
    callsBy instant now past (action :: more) = past := by
  rw [callsBy, if_pos ⟨other, within⟩]

theorem callsBy_beyond {instant now : Instant} {action : Action} (other : action.edits = false)
    (beyond : now + action.span < instant) (past : List Call) (more : List Action) :
    callsBy instant now past (action :: more) =
      callsBy instant (now + action.span) past more := by
  have called : action.call? = none := by simpa [Action.edits] using other
  rw [callsBy, if_neg fun both => Nat.not_le_of_lt beyond both.2, called]
  rfl

section Move

variable {start : Instant} {span : Span} {poll passed : Nat}

/-- The calls that a session has made by a poll, when it goes on with a move of the clock. -/
theorem callsBy_move (within : ∀ later,
      wait.due usual start (poll + later) ≤ now + span ↔ later < passed)
    (past : List Call) (more : List Action) (later : Nat) :
    callsBy (wait.due usual start (poll + later)) now past (.advance span :: more) =
      if later < passed then past
      else callsBy (wait.due usual start (poll + later)) (now + span) past more := by
  by_cases less : later < passed
  · rw [if_pos less]
    exact callsBy_within rfl ((within later).mpr less) past more
  · rw [if_neg less]
    exact callsBy_beyond rfl (Nat.lt_of_not_le (mt (within later).mp less)) past more

/-- If the page shows the value, the first poll of a move is the last one. -/
theorem told_move_of_shows (within : ∀ later,
      wait.due usual start (poll + later) ≤ now + span ↔ later < passed)
    (more : List Action) (left : Nat) (shown : wait.shows first past = true) (some : 0 < passed) :
    wait.told usual start (fun poll => wait.shows first
        (callsBy (wait.due usual start poll) now past (.advance span :: more)))
        (passed + left) poll =
      wait.told usual start (fun _ => wait.shows first past) passed poll := by
  obtain ⟨others, rfl⟩ : ∃ others, passed = others + 1 := Nat.exists_eq_add_one.mpr some
  have here := wait.callsBy_move within past more 0
  rw [if_pos some, Nat.add_zero] at here
  have holds : wait.shows first
      (callsBy (wait.due usual start poll) now past (.advance span :: more)) = true := by
    rw [here, shown]
  rw [told, told, Nat.add_right_comm, course_of_holds holds, course_of_holds shown]

/-- Otherwise all polls of the move fail. -/
theorem told_move_of_fails (within : ∀ later,
      wait.due usual start (poll + later) ≤ now + span ↔ later < passed)
    (more : List Action) (left : Nat) (fails : wait.shows first past = false ∨ passed = 0) :
    wait.told usual start (fun poll => wait.shows first
        (callsBy (wait.due usual start poll) now past (.advance span :: more)))
        (passed + left) poll =
      wait.told usual start (fun _ => wait.shows first past) passed poll ++
        wait.told usual start (fun poll => wait.shows first
          (callsBy (wait.due usual start poll) (now + span) past more)) left (poll + passed) := by
  have early (later : Nat) (less : later < passed) :
      callsBy (wait.due usual start (poll + later)) now past (.advance span :: more) = past := by
    rw [wait.callsBy_move within, if_pos less]
  have late (later : Nat) :
      callsBy (wait.due usual start (poll + passed + later)) now past (.advance span :: more) =
        callsBy (wait.due usual start (poll + passed + later)) (now + span) past more := by
    rw [Nat.add_assoc, wait.callsBy_move within, if_neg (by lia)]
  have failing : ∀ later < passed, wait.shows first
      (callsBy (wait.due usual start (poll + later)) now past (.advance span :: more)) = false := by
    intro later less
    rw [early later less]
    exact fails.resolve_right (by lia)
  refine (course_append failing left).trans (congrArg₂ (· ++ ·) ?_ ?_)
  · exact course_congr fun later less => congrArg (wait.shows first) (early later less)
  · exact course_congr fun later _ => congrArg (wait.shows first) (late later)

/-- The polls that are due by the end of a session come in its first move, or after it. -/
theorem exists_left {count : Nat} {more : List Action} (within : ∀ later,
      wait.due usual start (poll + later) ≤ now + span ↔ later < passed)
    (reach : ∀ later, wait.due usual start (poll + later) ≤
      now + elapsed (.advance span :: more) ↔ later < count) :
    ∃ left, count = passed + left ∧ ∀ later,
      wait.due usual start (poll + passed + later) ≤ now + span + elapsed more ↔ later < left := by
  simp only [elapsed_cons, Action.span, ← Nat.add_assoc] at reach
  obtain ⟨left, rfl⟩ : ∃ left, count = passed + left := by
    refine Nat.exists_eq_add_of_le (Nat.le_of_not_lt fun fewer => ?_)
    have early := (within count).mpr fewer
    exact Nat.lt_irrefl _ ((reach count).mp (Nat.le_trans early (Nat.le_add_right _ _)))
  refine ⟨left, rfl, fun later => ?_⟩
  rw [Nat.add_assoc poll, reach, Nat.add_lt_add_iff_left]

end Move

/-- An action that moves the clock goes through the polls that are due by its end. -/
theorem advance_polling (valid : ∃ found, Selector.parse wait.selector = .ok found)
    {start : Instant} {span : Span} {timer : Handle} {passed poll : Nat}
    (within : ∀ later, wait.due usual start (poll + later) ≤ now + span ↔ later < passed)
    (scene : Scene first past now (wait.polling usual timer (wait.due usual start poll)) world)
    (silent : heard world = []) :
    ∃ after, ComesTo (fun ticks => world.perform Clock.service (Work.tick (listening usual)) ticks
        (Work.perform (listening usual) (.advance span))) (.nothing, after) ∧
      heard after = wait.told usual start (fun _ => wait.shows first past) passed poll ∧
      (wait.shows first past = true ∧ 0 < passed →
        Scene first (callsOf wait.next ++ past) (now + span) [] after) ∧
      (wait.shows first past = false ∨ passed = 0 → Scene first past (now + span)
        (wait.polling usual timer (wait.due usual start (poll + passed))) after) := by
  obtain ⟨after, moves, told, met, stays⟩ := wait.drain_polling valid within scene
  have moved : ComesTo (fun ticks => World.advance Clock.service
      (Work.tick (listening usual)) ticks span world) after := by
    simp only [World.advance, scene.now_eq]
    exact moves
  rw [silent, List.nil_append] at told
  exact ⟨after, advance_comesTo (byHand usual) moved, told, met, stays⟩

/-- A wait that polls is heard at the polls that are due in the rest of a session, until the page
shows the value at one of them. -/
theorem run_polling (valid : ∃ found, Selector.parse wait.selector = .ok found)
    {start : Instant} {timer : Handle} {count poll : Nat} {actions : List Action}
    (edit : ∀ action ∈ actions, action.edits = true ∨ action.moves = true)
    (reach : ∀ later,
      wait.due usual start (poll + later) ≤ now + elapsed actions ↔ later < count)
    (ahead : now < wait.due usual start poll)
    (scene : Scene first past now (wait.polling usual timer (wait.due usual start poll)) world)
    (silent : heard world = []) :
    ∃ steps, ComesTo (fun ticks =>
        runOnClock (listening usual) Clock.service ticks actions world) steps ∧
      steps.flatMap (fun step => attended step.log) =
        wait.told usual start (fun poll =>
          wait.shows first (callsBy (wait.due usual start poll) now past actions)) count poll := by
  induction actions generalizing past now world count poll with
  | nil =>
      obtain rfl : count = 0 := Nat.eq_zero_of_not_pos fun some =>
        Nat.not_le_of_lt ahead ((reach 0).mpr some)
      exact ⟨[], .always fun _ => rfl, rfl⟩
  | cons action more ih =>
      have edits : ∀ other ∈ more, other.edits = true ∨ other.moves = true :=
        fun other member => edit other (.tail _ member)
      rcases edit action (.head _) with editing | moving
      · obtain ⟨call, called⟩ := Option.isSome_iff_exists.mp editing
        obtain ⟨edited, same⟩ := scene.perform_edit (listening usual) called
        have reach : ∀ later,
            wait.due usual start (poll + later) ≤ now + elapsed more ↔ later < count := by
          simpa [Action.span_of_edits editing] using reach
        obtain ⟨steps, comes, told⟩ := ih edits reach ahead edited.between.1 edited.between.2
        refine ⟨_, cons_comesTo (edit_comesTo world editing) comes, ?_⟩
        simp only [callsBy_edit called]
        rw [← told, List.flatMap_cons]
        exact congrArg (· ++ _) (same.trans silent)
      · obtain ⟨span, rfl⟩ := Action.exists_of_moves moving
        obtain ⟨passed, within⟩ := wait.exists_reach usual start (now + span) poll
        obtain ⟨left, rfl, onward⟩ := wait.exists_left within reach
        obtain ⟨after, performs, told, met, stays⟩ :=
          wait.advance_polling valid within scene silent
        by_cases fired : wait.shows first past = true ∧ 0 < passed
        · obtain ⟨steps, comes, unheard⟩ := (met fired).run_settled (byHand usual) edits
          refine ⟨_, cons_comesTo performs comes, ?_⟩
          rw [wait.told_move_of_shows within more left fired.1 fired.2, List.flatMap_cons, unheard,
            List.append_nil]
          exact told
        · have fails : wait.shows first past = false ∨ passed = 0 := by
            rw [not_and_or, Bool.not_eq_true, Nat.not_lt, Nat.le_zero] at fired
            exact fired
          have beyond : now + span < wait.due usual start (poll + passed) :=
            Nat.lt_of_not_le fun inTime => Nat.lt_irrefl _ ((within passed).mp inTime)
          obtain ⟨scene, quiet⟩ := (stays fails).between
          obtain ⟨steps, comes, toldLater⟩ := ih edits onward beyond scene quiet
          refine ⟨_, cons_comesTo performs comes, ?_⟩
          rw [wait.told_move_of_fails within more left fails, List.flatMap_cons, toldLater]
          exact congrArg (· ++ _) told

theorem due_zero (usual : Span) (start : Instant) : wait.due usual start 0 = start := by
  rw [due, Nat.zero_mul]
  rfl

/-- The polls that are due in a span. -/
theorem due_le_start_iff (usual : Span) (start : Instant) (span : Span) (poll : Nat) :
    wait.due usual start poll ≤ start + span ↔ poll < span / wait.period usual + 1 := by
  rw [Nat.lt_succ_iff, Nat.le_div_iff_mul_le (wait.period_pos usual), due]
  exact Nat.add_le_add_iff_left

/-- What is heard of a wait in a session from its start on. -/
theorem run_action (usual : Span) (valid : ∃ found, Selector.parse wait.selector = .ok found)
    {start : Instant} {actions : List Action}
    (edit : ∀ action ∈ actions, action.edits = true ∨ action.moves = true)
    (scene : Scene first past start [] world) (silent : heard world = []) :
    ∃ started later, ComesTo (fun ticks =>
        runOnClock (listening usual) Clock.service ticks (wait.action :: actions) world)
          (started :: later) ∧
      (started :: later).flatMap (fun step => attended step.log) =
        wait.told usual start (fun poll => wait.shows first
          (callsBy (wait.due usual start poll) start past (wait.action :: actions)))
          (elapsed actions / wait.period usual + 1) 0 ∧
      (wait.shows first past = true →
        attended started.log = [wait.asks start, wait.fires start]) := by
  have performs : ComesTo (fun ticks => world.perform Clock.service
      (Work.tick (listening usual)) ticks (Work.perform (listening usual) wait.action))
      (world.act Clock.service (Work.perform (listening usual) wait.action)) :=
    .always fun _ => Routine.run_eq_act _ _ (wait.still_action usual) world
  have other : wait.action.edits = false := rfl
  have atStart : callsBy (wait.due usual start 0) start past (wait.action :: actions) = past :=
    callsBy_within other (Nat.le_of_eq (wait.due_zero usual start)) past actions
  obtain ⟨met, fails⟩ := wait.act_action usual valid scene
  cases shown : wait.shows first past with
  | true =>
      obtain ⟨settled, told⟩ := met shown
      rw [silent, List.nil_append] at told
      obtain ⟨steps, comes, unheard⟩ := settled.run_settled (byHand usual) edit
      refine ⟨_, steps, cons_comesTo performs comes, ?_, fun _ => told⟩
      rw [List.flatMap_cons, unheard, List.append_nil, ValueWait.told,
        course_of_holds (atStart.symm ▸ shown), due_zero]
      exact told
  | false =>
      obtain ⟨⟨timer, waits⟩, told⟩ := fails shown
      rw [silent, List.nil_append] at told
      have second (later : Nat) : start < wait.due usual start (1 + later) := by
        have positive := wait.period_pos usual
        rw [due_add, due, Nat.one_mul]
        lia
      have reach (later : Nat) : wait.due usual start (1 + later) ≤ start + elapsed actions ↔
          later < elapsed actions / wait.period usual := by
        rw [due_le_start_iff, Nat.add_comm 1, Nat.succ_lt_succ_iff]
      rw [← Nat.one_mul (wait.period usual), ← due] at waits
      obtain ⟨steps, comes, toldLater⟩ :=
        wait.run_polling valid edit reach (second 0) waits.between.1 waits.between.2
      refine ⟨_, steps, cons_comesTo performs comes, ?_,
        fun shows => absurd shows Bool.false_ne_true⟩
      have onward : wait.told usual start (fun poll => wait.shows first
            (callsBy (wait.due usual start poll) start past actions))
            (elapsed actions / wait.period usual) 1 =
          wait.told usual start (fun poll => wait.shows first
            (callsBy (wait.due usual start poll) start past (wait.action :: actions)))
            (elapsed actions / wait.period usual) 1 := by
        refine course_congr fun later _ => ?_
        rw [callsBy_beyond other (second later)]
        rfl
      rw [List.flatMap_cons, toldLater, onward, ValueWait.told, course, atStart, shown, due_zero]
      exact congrArg (· ++ _) told

/-- What has been typed last through a selector is the value of its first match, if that takes
text. -/
theorem firstValue?_setValue {earlier : List Call} {selector text : String}
    {found : (Markup.Element × List Markup.Node) × Nat}
    {others : List ((Markup.Element × List Markup.Node) × Nat)}
    (matched : Snapshot.matched (Markup.parse (Snapshot.lastSource first earlier)) selector =
      .ok (found :: others))
    (control : Snapshot.takesText found.1.1 = true) :
    firstValue? first (.setValue selector text :: earlier) selector = some text := by
  have hit := ((Snapshot.Recalls.mem_matched matched).mp (.head _)).2
  have same : Snapshot.lastSource first (.setValue selector text :: earlier) =
      Snapshot.lastSource first earlier := rfl
  have latest : ((selector, text) :: Snapshot.typing earlier).find? (fun typed =>
      Snapshot.hits (Markup.parse (Snapshot.lastSource first earlier)) typed.1 found.2) =
        some (selector, text) := List.find?_cons_of_pos hit
  simp only [firstValue?, same, matched, Snapshot.currentValue?, control, if_true, Snapshot.typing,
    latest]

end ValueWait

/-- The course of a wait for a value in a session that otherwise edits its page and moves its clock.
The wait asks the page when it starts and then after every period, up to the first of these instants
at which the first match of its selector has the wanted value, after all calls that the session has
made by then.  It fires at that instant, and only then.  If the value has been typed through the
same selector just before the wait starts, and the first match takes text, it fires before the
action ends that starts it. -/
theorem ValueWait.asks_until_shown (wait : ValueWait) (usual : Span) (first : String)
    (before after : List Action) (valid : ∃ found, Selector.parse wait.selector = .ok found)
    (edit : ∀ action ∈ before ++ after, action.edits = true ∨ action.moves = true) :
    let start : Instant := elapsed before
    let last : Instant := start + elapsed after
    let period : Span := (wait.interval.getD usual).clamp
    let due (poll : Nat) : Instant := start + poll * period
    let value (poll : Nat) : Option String := firstValue? first
      (callsBy (due poll) start (callsOf before) (wait.action :: after)) wait.selector
    let asks (poll : Nat) : Instant × Event := (due poll, .query wait.selector)
    ∃ former started later,
      ComesTo (fun ticks => runOnClock ⟨true, usual, true⟩ Clock.service ticks
        (before ++ wait.action :: after)
        ⟨Clock.start, State.start (.snapshot (Snapshot.parse first))⟩)
        (former ++ started :: later) ∧
      former.length = before.length ∧ (∀ step ∈ former, attended step.log = []) ∧
      (∀ poll, due poll ≤ last → value poll = some wait.wanted →
        (∀ earlier < poll, value earlier ≠ some wait.wanted) →
          (started :: later).flatMap (fun step => attended step.log) =
            (List.range (poll + 1)).map asks ++ [(due poll, .fire wait.label)]) ∧
      ((∀ poll, due poll ≤ last → value poll ≠ some wait.wanted) →
        (started :: later).flatMap (fun step => attended step.log) =
          (List.range (elapsed after / period + 1)).map asks) ∧
      ∀ earlier found others,
        callsOf before = .setValue wait.selector wait.wanted :: earlier →
        Snapshot.matched (Markup.parse (Snapshot.lastSource first earlier)) wait.selector =
          .ok (found :: others) →
        Snapshot.takesText found.1.1 = true →
          attended started.log =
            [(start, .query wait.selector), (start, .fire wait.label)] := by
  intro start last period due value asks
  have edits (actions : List Action) (part : ∀ action ∈ actions, action ∈ before ++ after) :
      ∀ action ∈ actions, action.edits = true ∨ action.moves = true :=
    fun action member => edit action (part action member)
  have begun : Scene first [] 0 []
      ⟨Clock.start, State.start (.snapshot (Snapshot.parse first))⟩ := ⟨rfl, rfl, rfl⟩
  obtain ⟨former, world, length, unheard, scene, silent, onward⟩ :=
    begun.run_edits (byHand usual) (edits before fun _ member => List.mem_append_left _ member) rfl
  rw [List.append_nil, Nat.zero_add] at scene
  obtain ⟨started, later, comes, told, atOnce⟩ := wait.run_action usual valid
    (edits after fun _ member => List.mem_append_right _ member) scene silent
  have shows_eq (poll : Nat) : wait.shows first
      (callsBy (wait.due usual start poll) start (callsOf before) (wait.action :: after)) = true ↔
        value poll = some wait.wanted := by
    rw [shows, beq_iff_eq]
    rfl
  have due_le (poll : Nat) : due poll ≤ last ↔ poll < elapsed after / period + 1 :=
    wait.due_le_start_iff usual start (elapsed after) poll
  refine ⟨former, started, later, onward _ _ comes, length, unheard, ?_, ?_, ?_⟩
  · intro poll inTime shown fails
    rw [told]
    refine course_of_first ((due_le poll).mp inTime) ((shows_eq poll).mpr shown) ?_
    exact fun earlier less => Bool.eq_false_iff.mpr (mt (shows_eq earlier).mp (fails earlier less))
  · intro fails
    rw [told]
    refine (course_of_fails fun poll less => ?_).trans ?_
    · rw [Nat.zero_add]
      exact Bool.eq_false_iff.mpr (mt (shows_eq poll).mp (fails poll ((due_le poll).mpr less)))
    · simp only [Nat.zero_add]
      rfl
  · intro earlier found others calls matched control
    refine atOnce ?_
    rw [shows, calls, firstValue?_setValue matched control]
    exact beq_self_eq_true _

/-- A form control is empty until something is typed into it between the first two polls of a wait.
The wait fires at the second one. -/
theorem ValueWait.asks_until_typed :
    let wait : ValueWait := ⟨"field", "input", "on", some (Span.ofMs 10), [], nofun⟩
    let after : List Action :=
      [.advance (Span.ofMs 4), .set "input" "on", .advance (Span.ofMs 8), .load "<input>"]
    (∃ found, Selector.parse wait.selector = .ok found) ∧
      (∀ action ∈ [] ++ after, action.edits = true ∨ action.moves = true) ∧
      ∃ started later,
        ComesTo (fun ticks => runOnClock ⟨true, standardInterval, true⟩ Clock.service ticks
          (wait.action :: after)
          ⟨Clock.start, State.start (.snapshot (Snapshot.parse "<input>"))⟩) (started :: later) ∧
        (started :: later).flatMap (fun step => attended step.log) =
          [(0, .query "input"), (Span.ofMs 10, .query "input"), (Span.ofMs 10, .fire "field")] := by
  intro wait after
  have valid : ∃ found, Selector.parse "input" = .ok found := ⟨_, rfl⟩
  have edit : ∀ action ∈ [] ++ after, action.edits = true ∨ action.moves = true := by
    simp [after, Action.edits, Action.call?, Action.moves]
  refine ⟨valid, edit, ?_⟩
  obtain ⟨former, started, later, comes, length, -, fires, -⟩ :=
    asks_until_shown wait standardInterval "<input>" [] after valid edit
  obtain rfl := List.eq_nil_of_length_eq_zero length
  refine ⟨started, later, comes,
    (fires 1 (by decide) (by decide +kernel) fun earlier less => ?_).trans ?_⟩
  · obtain rfl : earlier = 0 := by lia
    decide +kernel
  · decide

end PageWatch.Session
