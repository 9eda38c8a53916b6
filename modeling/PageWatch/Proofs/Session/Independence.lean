import PageWatch.Proofs.Session.Limit
import PageWatch.Proofs.Session.Visiting

/-!
# Waits are independent of one another

A session with one wait more shows what it shows without that wait, apart from what the wait itself
records, and has one timer more for as long as the wait is unresolved.

There is one way in which a wait can be in the way of others: a wait with a long interval, late in a
session, is due at a time that cannot be kept, and that ends the session.  A session that ends in
this way without the wait ends so with it, but not the other way round.
-/

namespace PageWatch

/-- What is seen while some actions are run from one world to another. -/
def Passes {action world step : Type} (run : Nat → List action → world → Option (List step))
    (actions : List action) (steps : List step) (first last : world) : Prop :=
  ∀ more rest, ComesTo (fun ticks => run ticks more last) rest →
    ComesTo (fun ticks => run ticks (actions ++ more) first) (steps ++ rest)

namespace Passes

variable {action world step : Type} {run : Nat → List action → world → Option (List step)}
  {first middle last : world} {actions : List action} {steps : List step}

theorem nil : Passes run [] [] first first := fun _ _ comes => comes

theorem trans {more : List action} {rest : List step}
    (start : Passes run actions steps first middle) (onward : Passes run more rest middle last) :
    Passes run (actions ++ more) (steps ++ rest) first last := by
  intro yet remaining comes
  rw [List.append_assoc, List.append_assoc]
  exact start _ _ (onward _ _ comes)

theorem comesTo (stops : ∀ ticks, run ticks [] last = some [])
    (passes : Passes run actions steps first last) :
    ComesTo (fun ticks => run ticks actions first) steps := by
  have whole := passes [] [] (.always stops)
  simpa using whole

end Passes

namespace Session

variable {callback : Callback} {pairs : Pairing} {plain : World.Clocked Task State}
  {full : World.Clocked Task (State × Visit)} {outcome : Outcome}

open Work

theorem passes_runOnClock (setup : Setup) {action : Action} {after : World.Clocked Task State}
    (performs : ComesTo (fun ticks =>
      plain.perform Clock.service (tick setup) ticks (perform setup action)) (outcome, after)) :
    Passes (runOnClock setup Clock.service) [action] [seenOnClock outcome after] plain
      (between after) := by
  intro more rest comes
  simp only [List.cons_append, List.nil_append, runOnClock_cons]
  apply ComesTo.bind performs
  exact comes.map _

theorem passes_runVisited (setup : Setup) {guest : Bool} {action : Action}
    {after : World.Clocked Task (State × Visit)}
    (performs : ComesTo (fun ticks => full.perform Clock.service (tickVisited setup) ticks
      (visited guest (perform setup action))) (outcome, after)) :
    Passes (runVisited setup) [(guest, action)] [seenVisited outcome after] full
      (betweenVisited after) := by
  intro more rest comes
  simp only [List.cons_append, List.nil_append, runVisited_cons]
  apply ComesTo.bind performs
  exact comes.map _

/-- What is done with notes is done without them. -/
theorem comesTo_forget {setup : Setup} {guest : Bool} {action : Action}
    {after : World.Clocked Task (State × Visit)}
    (performs : ComesTo (fun ticks => full.perform Clock.service (tickVisited setup) ticks
      (visited guest (perform setup action))) (outcome, after)) :
    ComesTo (fun ticks => full.forget.perform Clock.service (tick setup) ticks
      (perform setup action)) (outcome, after.forget) := by
  have erased := performs.map World.forgetEnd
  simp only [World.perform_mirrors Clock.service (mirrors_tickVisited setup) _
    (mirrors_visited guest _)] at erased
  exact erased

/-! ## What is seen -/

/-- What is seen after an action of a session, and after the same with a guest. -/
structure Shows (step : ClockStep) (seen : Seen) : Prop where
  outcome_eq : seen.step.outcome = step.outcome
  now_eq : seen.step.now = step.now
  /-- The log of the session with the guest is what has been noted. -/
  recorded : seen.records.map Prod.snd = seen.step.log
  /-- Apart from the records of the guest, that is the log of the session without it. -/
  others_eq : Visit.others seen.records = step.log
  active_eq : seen.step.active = step.active + if seen.unresolved then 1 else 0

/-- What is seen after some steps if nothing happens. -/
def lull (start : ClockStep) (steps : List ClockStep) : ClockStep :=
  { steps.getLastD start with outcome := .nothing, log := [] }

theorem lull_cons {start step same : ClockStep} (steps : List ClockStep)
    (alike : lull step [] = lull same []) : lull start (step :: steps) = lull same steps := by
  cases steps with
  | nil => exact alike
  | cons later steps => rfl

namespace Visiting

theorem active_eq (visiting : Visiting callback pairs plain full) :
    full.timers.active = plain.timers.active + if full.state.2.unresolved then 1 else 0 := by
  have shared := visiting.timers.timers.length_eq
  have total := Clock.length_timers full.state.2.timers full.timers
  have own : (full.timers.its full.state.2.timers).length =
      if full.state.2.unresolved then 1 else 0 := by
    cases visiting.attending with
    | polling waits only => simp [waits, only]
    | resolved settled gone => simp [settled, gone]
  rw [Clock.active, Clock.active, total, shared, own]

theorem shows (visiting : Visiting callback pairs plain full) (outcome : Outcome) :
    Shows (seenOnClock outcome plain) (seenVisited outcome full) where
  outcome_eq := rfl
  now_eq := visiting.timers.now_eq
  recorded := by
    have recorded := congrArg List.reverse visiting.recorded
    rwa [← List.map_reverse] at recorded
  others_eq := by
    have shared := congrArg List.reverse visiting.shared
    rwa [Visit.others, ← List.map_reverse, ← List.filter_reverse] at shared
  active_eq := visiting.active_eq

/-- The next action starts with an empty log. -/
theorem between (visiting : Visiting callback pairs plain full) :
    Visiting callback pairs (Session.between plain) (betweenVisited full) :=
  { visiting with recorded := rfl, shared := rfl }

/-! ## Whole sessions -/

variable (setup : Setup) {texts : List String}

/-- A session with a guest shows what the session shows without it, as long as nothing but its own
moves lets time go by.  Whatever follows, the session meets a time that cannot be kept only if it
does so with the guest. -/
theorem sessions (marks : callback.next = texts.map .mark) {actions : List Action}
    (calm : actions.all Action.calm = true) (visiting : Visiting callback pairs plain full)
    (silent : plain.state.log = []) :
    ∃ steps seen plainLast fullLast grown,
      Passes (runOnClock setup Clock.service) actions steps plain plainLast ∧
      Passes (runVisited setup) (actions.map fun action => (false, action)) seen full fullLast ∧
      List.Forall₂ Shows steps seen ∧ steps.length = actions.length ∧
      fullLast.state.2.begun = full.state.2.begun ∧ Visiting callback grown plainLast fullLast ∧
      plainLast.state.log = [] ∧
      seenOnClock .nothing plainLast = lull (seenOnClock .nothing plain) steps ∧
      ∀ more others, (Lasts setup more fullLast.forget → Lasts setup others plainLast) →
        Lasts setup (actions ++ more) full.forget → Lasts setup (actions ++ others) plain := by
  induction actions generalizing pairs plain full with
  | nil =>
      refine ⟨[], [], plain, full, pairs, .nil, .nil, .nil, rfl, rfl, visiting, silent, ?_,
        fun _ _ onward => onward⟩
      simp [lull, seenOnClock, takeLog, silent]
  | cons action actions ih =>
      rw [List.all_cons, Bool.and_eq_true] at calm
      obtain ⟨outcome, plainAfter, fullAfter, grown, plainActs, fullActs, begun, after, sound⟩ :=
        visiting.acts setup marks calm.1
      obtain ⟨steps, seen, plainLast, fullLast, grown, plainPasses, fullPasses, shows, length,
        begun', ends, silent', idle, spares⟩ := ih calm.2 after.between rfl
      refine ⟨seenOnClock outcome plainAfter :: steps, seenVisited outcome fullAfter :: seen,
        plainLast, fullLast, grown, (passes_runOnClock setup plainActs).trans plainPasses,
        (passes_runVisited setup fullActs).trans fullPasses, .cons (after.shows outcome) shows,
        congrArg (· + 1) length, begun'.trans begun, ends, silent', ?_,
        fun more others onward => ?_⟩
      · have alike : lull (seenOnClock outcome plainAfter) [] =
            lull (seenOnClock .nothing (Session.between plainAfter)) [] := rfl
        rw [idle, lull_cons steps alike]
      · rw [List.cons_append, List.cons_append, lasts_cons (comesTo_forget fullActs),
          lasts_cons plainActs]
        exact And.imp sound (spares more others onward)

theorem start (callback : Callback) (document : Snapshot) :
    Visiting callback [] ⟨Clock.start, State.start (.snapshot document)⟩
      ⟨Clock.start, State.start (.snapshot document), Visit.start⟩ where
  timers :=
    { now_eq := rfl
      timers := .nil
      ordered := fun _ member => absurd member List.not_mem_nil
      below := fun _ member => absurd member List.not_mem_nil
      foreign := fun _ member => absurd member List.not_mem_nil
      known := fun _ member => absurd member List.not_mem_nil }
  page := ⟨document, rfl, rfl⟩
  names := .nil
  recorded := rfl
  shared := rfl
  orderly := Clock.orderly_start
  settled := fun _ member => absurd member List.not_mem_nil
  attending := .resolved rfl rfl
  unbegun := fun _ => rfl

end Visiting

/-- Waits are independent of one another.  Take a session on a document in which nothing that ticks
or fires moves the clock and nothing clears the timers, and start one wait more between any two of
its actions: for one selector, for all of several, or for a value, with any interval and with a
callback that only leaves marks.  If all times in the session with that wait can be kept, then so
can those in the session without it, both come to an end, and all actions show the same in both,
apart from the records that are noted as the wait's own.  Starting the wait shows nothing else.
There is one timer more for as long as the wait has neither fired nor been dropped. -/
theorem waits_independent (setup : Setup) (document : Snapshot) {before after : List Action}
    (calm : (before ++ after).all Action.calm = true) (label : String) {target : Target}
    (onPage : target.onPage = true) (interval : Option Span) (texts : List String)
    (lasts : Lasts setup (before ++ .wait label target interval (texts.map .mark) :: after)
      ⟨Clock.start, State.start (.snapshot document)⟩) :
    let start : World.Clocked Task State := ⟨Clock.start, State.start (.snapshot document)⟩
    let guest : Action := .wait label target interval (texts.map .mark)
    ∃ former later seen,
      former.length = before.length ∧
      ComesTo (fun ticks => (runKept setup Clock.service ticks (before ++ after) start).toOption)
        (former ++ later) ∧
      ComesTo (fun ticks =>
        (runKept setup Clock.service ticks (before ++ guest :: after) start).toOption)
        (seen.map Seen.step) ∧
      ComesTo (fun ticks => runVisited setup ticks
        (before.map (fun action => (false, action)) ++ (true, guest) ::
          after.map fun action => (false, action))
        ⟨start.timers, start.state, Visit.start⟩) seen ∧
      List.Forall₂ Shows (former ++ lull (seenOnClock .nothing start) former :: later) seen := by
  intro start guest
  rw [List.all_append, Bool.and_eq_true] at calm
  let callback : Callback := ⟨label, texts.map .mark⟩
  obtain ⟨former, formerSeen, plainMiddle, fullMiddle, pairs, plainFirst, fullFirst, firstShows,
    length, unbegun, visiting, silent, idle, spared⟩ :=
    (Visiting.start callback document).sessions setup rfl calm.1 rfl
  obtain ⟨fullAfter, performs, began⟩ := visiting.begins setup unbegun onPage interval rfl
  have guestPasses := passes_runVisited setup (.always performs)
  have guestShows := began.shows .nothing
  obtain ⟨later, laterSeen, plainLast, fullLast, _, plainRest, fullRest, restShows, -, -, -, -, -,
    sparedRest⟩ := began.between.sessions setup rfl calm.2 rfl
  have same : Session.between plainMiddle = plainMiddle := by
    simp [Session.between, takeLog, ← silent]
  rw [same] at plainRest sparedRest
  rw [idle] at guestShows
  have plainLasts : Lasts setup (before ++ after) start := by
    refine spared (guest :: after) after (fun onward => ?_) lasts
    have rest := ((lasts_cons (comesTo_forget (.always performs))).mp onward).2
    have spare := sparedRest [] [] id
    rw [List.append_nil] at spare
    exact spare rest
  have notes := (fullFirst.trans (guestPasses.trans fullRest)).comesTo fun _ => rfl
  have plainEnds := (plainFirst.trans plainRest).comesTo fun _ => rfl
  have fullEnds := notes.map (List.map Seen.step)
  simp only [steps_runVisited, List.map_append, List.map_cons, List.map_map, List.cons_append,
    List.nil_append] at fullEnds
  rw [show Prod.snd ∘ (fun action : Action => (false, action)) = id from rfl, List.map_id,
    List.map_id] at fullEnds
  refine ⟨former, later, formerSeen ++ seenVisited .nothing fullAfter :: laterSeen, length,
    plainLasts.comesTo plainEnds, lasts.comesTo ?_, notes,
    List.rel_append firstShows (.cons guestShows restShows)⟩
  rw [List.map_append, List.map_cons]
  exact fullEnds

/-- A document with a field in which nothing has been typed. -/
def form : Snapshot := ⟨Markup.Outline.ofNodes [.element ⟨⟨.html, "input"⟩, []⟩ []], []⟩

/-- A bell rings every ten milliseconds. -/
def ringing : List Action := [.schedule "bell" (Span.ofMs 10) []]

/-- The bell rings before and after something is typed into the field. -/
def typing : List Action :=
  [.advance (Span.ofMs 10), .set "input" "on", .advance (Span.ofMs 10)]

theorem waits_independent_typing :
    let setup : Setup := ⟨true, Span.ofMs 10, true⟩
    let start : World.Clocked Task State := ⟨Clock.start, State.start (.snapshot form)⟩
    let guest : Action := .wait "field" (.value "input" "on") none [.mark "typed"]
    (ringing ++ typing).all Action.calm = true ∧
      Lasts setup (ringing ++ guest :: typing) start ∧
      ∃ former later seen,
        former.length = 1 ∧
        ComesTo (fun ticks =>
          (runKept setup Clock.service ticks (ringing ++ typing) start).toOption)
          (former ++ later) ∧
        ComesTo (fun ticks =>
          (runKept setup Clock.service ticks (ringing ++ guest :: typing) start).toOption)
          (seen.map Seen.step) ∧
        List.Forall₂ Shows (former ++ lull (seenOnClock .nothing start) former :: later) seen := by
  intro setup start guest
  have calm : (ringing ++ typing).all Action.calm = true := rfl
  have ends : (runKept setup Clock.service 5 (ringing ++ guest :: typing) start).toOption.isSome =
      true := by decide +kernel
  have lasts : Lasts setup (ringing ++ guest :: typing) start := .of_ends ends
  obtain ⟨former, later, seen, length, plain, full, -, shows⟩ :=
    waits_independent setup form calm "field" (rfl : (Target.value "input" "on").onPage = true)
      none ["typed"] lasts
  exact ⟨calm, lasts, former, later, seen, length, plain, full, shows⟩

/-- The wait for the text is unresolved until the field is looked at after the text is there. -/
example :
    (runVisited ⟨true, Span.ofMs 10, true⟩ 5
      (ringing.map (fun action => (false, action)) ++
        (true, .wait "field" (.value "input" "on") none [.mark "typed"]) ::
          typing.map fun action => (false, action))
      ⟨Clock.start, State.start (.snapshot form), Visit.start⟩).map (List.map Seen.unresolved) =
      some [false, true, true, true, false] := by
  decide +kernel

/-- It gets as late as a thousand steps of the greatest number of milliseconds make it. -/
def ageing : List Action := List.replicate 1000 (.advance (Span.ofMs (UInt64.size - 1)))

/-- A wait that looks every second, started when a second later is too late, ends the session.
Without it the bell is scheduled. -/
theorem late_wait_in_the_way :
    let setup : Setup := ⟨false, Span.ofMs 10, true⟩
    let guest : Action := .wait "extra" (.element "p") (some (Span.ofMs 1000)) []
    (ageing ++ ringing).all Action.calm = true ∧
      (onKeptClock setup false (.snapshot .empty) (ageing ++ ringing)).toOption.map List.length =
        some 1001 ∧
      onKeptClock setup false (.snapshot .empty) (ageing ++ guest :: ringing) =
        .error .overflow := by
  intro setup guest
  have calm : (ageing ++ ringing).all Action.calm = true := by decide +kernel
  have ends : (onKeptClock setup false (.snapshot .empty) (ageing ++ ringing)).toOption.map
      List.length = some 1001 := by decide +kernel
  have halted : (match onKeptClock setup false (.snapshot .empty) (ageing ++ guest :: ringing) with
      | .ok _ => none
      | .error halt => some halt) = some .overflow := by decide +kernel
  refine ⟨calm, ends, ?_⟩
  cases result : onKeptClock setup false (.snapshot .empty) (ageing ++ guest :: ringing) with
  | ok steps => simp [result] at halted
  | error halt => simpa [result] using halted

end Session

end PageWatch
