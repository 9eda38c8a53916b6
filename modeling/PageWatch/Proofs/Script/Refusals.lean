import PageWatch.Proofs.Performance.Carrying
import PageWatch.Proofs.Script.Errands
import PageWatch.Proofs.Script.Provision

/-!
# Calls that the host refuses

A function of the host converts its arguments one by one and checks them, and only then it asks
the host for something, once.  So a call that is refused for its arguments has asked for nothing.
The host itself refuses one kind of request: to set a value in controls that cannot be found.  Then
it has touched nothing.  So a refused call leaves everything as the conversions of its arguments
have left it.

Most conversions leave everything as it was.  But an object may have a method of its own by which
it wants to be converted, and that method may ask the host for anything; the last part shows such a
call, which prints a line before it is refused.
-/

namespace PageWatch.Performance

open Script Library Errand Text

variable {α β : Type} {interval : Span}

/-- A host answers what a computation asks for, and the computation goes on from there.  While a
generator runs in between, anything may happen. -/
inductive Attends (interval : Span) : Course α → Scene → List Stop → Course α → Scene → Prop
  | here (course : Course α) (scene : Scene) : Attends interval course scene [] course scene
  | asked {memory : Memory} {request : Request} {next : Memory → Reply → Course α}
      {scene last : Scene} {stops : List Stop} {rest : Course α} :
      Attends interval (next memory (scene.act (Work.answer interval request)).1)
        (scene.act (Work.answer interval request)).2 stops rest last →
      Attends interval (.asks memory request next) scene
        (.asked request (scene.act (Work.answer interval request)).1 :: stops) rest last
  | resumed {memory : Memory} {generator : ObjectId} {message : Resumption}
      {next : Memory → Except Abrupt (Value × Bool) → Course α} {scene last : Scene}
      {stops : List Stop} {rest : Course α} (after : Memory)
      (answer : Except Abrupt (Value × Bool)) (between : Scene) :
      Attends interval (next after answer) between stops rest last →
      Attends interval (.resumes memory generator message next) scene
        (.resumed generator message answer :: stops) rest last

namespace Attends

variable {course middle last : Course α} {scene between after : Scene} {first second : List Stop}

theorem trans (begins : Attends interval course scene first middle between)
    (goesOn : Attends interval middle between second last after) :
    Attends interval course scene (first ++ second) last after := by
  induction begins with
  | here => exact goesOn
  | asked _ ih => exact .asked (ih goesOn)
  | resumed memory answer between _ ih => exact .resumed memory answer between (ih goesOn)

theorem bind (attends : Attends interval course scene first middle between) (rest : α → Run β) :
    Attends interval (course.bind rest) scene first (middle.bind rest) between := by
  induction attends with
  | here => exact .here _ _
  | asked _ ih => exact .asked ih
  | resumed memory answer between _ ih => exact .resumed memory answer between ih

/-- Two computations in a row come to an end if the first is broken off, or else both come to an
end. -/
theorem bind_ends_iff {rest : α → Run β} {stops : List Stop} {result : Except Abrupt β}
    {memory : Memory} :
    Attends interval (course.bind rest) scene stops (.ends result memory) after ↔
      (∃ abrupt, result = .error abrupt ∧
        Attends interval course scene stops (.ends (.error abrupt) memory) after) ∨
      ∃ value kept between before later, stops = before ++ later ∧
        Attends interval course scene before (.ends (.ok value) kept) between ∧
        Attends interval (rest value kept) between later (.ends result memory) after := by
  constructor
  · intro attends
    induction course generalizing scene stops with
    | ends ended kept =>
        cases ended with
        | ok value => exact .inr ⟨value, kept, scene, [], stops, rfl, .here _ _, attends⟩
        | error abrupt =>
            cases attends
            exact .inl ⟨abrupt, rfl, .here _ _⟩
    | asks kept request next ih =>
        cases attends with
        | asked attends =>
            rcases ih _ _ attends with ⟨abrupt, rfl, broken⟩ |
              ⟨value, kept, between, before, later, rfl, begins, goesOn⟩
            · exact .inl ⟨abrupt, rfl, .asked broken⟩
            · exact .inr ⟨value, kept, between, _ :: before, later, rfl, .asked begins, goesOn⟩
    | resumes kept generator message next ih =>
        cases attends with
        | resumed changed answer meanwhile attends =>
            rcases ih _ _ attends with ⟨abrupt, rfl, broken⟩ |
              ⟨value, kept, between, before, later, rfl, begins, goesOn⟩
            · exact .inl ⟨abrupt, rfl, .resumed changed answer meanwhile broken⟩
            · exact .inr ⟨value, kept, between, _ :: before, later, rfl,
                .resumed changed answer meanwhile begins, goesOn⟩
    | pauses kept value next => cases attends
  · rintro (⟨abrupt, rfl, broken⟩ | ⟨value, kept, between, before, later, rfl, begins, goesOn⟩)
    · exact broken.bind rest
    · exact (begins.bind rest).trans goesOn

theorem asks_ends_iff {memory last : Memory} {request : Request}
    {next : Memory → Reply → Course α} {stops : List Stop} {result : Except Abrupt α}
    {reply : Reply} {answered : Scene}
    (answers : scene.act (Work.answer interval request) = (reply, answered)) :
    Attends interval (.asks memory request next) scene stops (.ends result last) after ↔
      ∃ later, stops = .asked request reply :: later ∧
        Attends interval (next memory reply) answered later (.ends result last) after := by
  have reply_eq : reply = (scene.act (Work.answer interval request)).1 := by rw [answers]
  have answered_eq : answered = (scene.act (Work.answer interval request)).2 := by rw [answers]
  subst reply_eq answered_eq
  constructor
  · intro attends
    cases attends with
    | asked attends => exact ⟨_, rfl, attends⟩
  · rintro ⟨later, rfl, attends⟩
    exact .asked attends

/-- Nothing happens while a course comes to its end by itself. -/
theorem ends_iff {result ended : Except Abrupt α} {memory last : Memory} {stops : List Stop} :
    Attends interval (.ends result memory) scene stops (.ends ended last) after ↔
      stops = [] ∧ after = scene ∧ ended = result ∧ last = memory := by
  constructor
  · intro attends
    cases attends
    exact ⟨rfl, rfl, rfl, rfl⟩
  · rintro ⟨rfl, rfl, rfl, rfl⟩
    exact .here _ _

end Attends

/-! ## What comes of a request -/

theorem setting_error {selector text : String} {before after : State} {error : QueryError}
    (set : setting selector text before = (.error error, after)) : after = before := by
  obtain ⟨page, ready, printed, notices⟩ := before
  cases page with
  | scripted source => simp [setting] at set
  | snapshot document =>
      cases found : document.setValue selector text with
      | error other =>
          simp only [setting, found, Prod.mk.injEq] at set
          exact set.2.symm
      | ok controls => simp [setting, found] at set

/-- If controls to be set cannot be found, nothing is touched. -/
theorem answer_setValue (interval : Span) (selector text : String) (scene : Scene) :
    (∃ reason, scene.act (Work.answer interval (.setValue selector text)) =
        (.refused reason, scene)) ∨
      ∃ controls after, scene.act (Work.answer interval (.setValue selector text)) =
        (.counted controls, after) := by
  have updated : World.act Clock.service (Routine.update (setting selector text)) scene =
      ((setting selector text scene.state).1,
        { scene with state := (setting selector text scene.state).2 }) := rfl
  rw [Work.answer, setValue_eq, Scene.act, World.act_bind, updated]
  rcases set : setting selector text scene.state with ⟨error | controls, after⟩
  · rw [setting_error set]
    exact .inl ⟨error.message, rfl⟩
  · exact .inr ⟨controls, _, rfl⟩

/-- What comes of the request of a call that is not refused, from the reply to the end of the call.
A wait is registered once: it is over at once and its callback is called, a timer holds its
callback, or it is dropped.  A timeout is registered once, at a timer. -/
inductive Settled (interval : Span) (machine : Machine) (memory : Memory) (scene : Scene) :
    Request → Reply → Scene → List Stop → Except Abrupt Value → Memory → Scene → Prop
  | due {conditions : List PageCondition} {callback : ObjectId} {answered after : Scene}
      {stops : List Stop} {ended : Except Abrupt Value} {last : Memory} :
      Carried scene callback (.met callback) answered →
      Attends interval (machine.call (.object callback) .undefined [] memory) answered stops
        (.ends ended last) after →
      Settled interval machine memory scene (.wait conditions callback) .due answered stops
        (ended.map fun _ => .undefined) last after
  | waiting {conditions : List PageCondition} {callback : ObjectId} {answered : Scene}
      {progress : Wait.Progress ObjectId} :
      replyTo progress = .done → Carried scene callback progress answered →
      Settled interval machine memory scene (.wait conditions callback) .done answered []
        (.ok .undefined) memory answered
  | deferred {delayMs : Nat} {callback : ObjectId} {answered : Scene} :
      answered =
        ⟨(scene.timers.schedule (Span.ofMs delayMs) fun handle =>
          .timeout (some handle) (some callback)).2, scene.state⟩ →
      Settled interval machine memory scene (.timeout delayMs callback) .done answered []
        (.ok .undefined) memory answered
  | printed {line : String} {answered : Scene} :
      Settled interval machine memory scene (.print line) .done answered [] (.ok .undefined) memory
        answered
  | loaded {source : String} {answered : Scene} :
      Settled interval machine memory scene (.load source) .done answered [] (.ok .undefined) memory
        answered
  | set {selector text : String} {controls : Nat} {answered : Scene} :
      Settled interval machine memory scene (.setValue selector text) (.counted controls) answered
        [] (.ok (Run.countValue controls)) memory answered

variable {given : Given} {memory last : Memory} {scene answered after : Scene} {wanted : Request}
  {reply : Reply} {stops : List Stop} {result : Except Abrupt Value}

/-- A callback that is due is called in full before the registering call ends. -/
theorem conclude_due (given : Given) (conditions : List PageCondition) (callback : ObjectId)
    (memory : Memory) :
    conclude given (.wait conditions callback) .due memory =
      (given.machine.call (.object callback) .undefined [] memory).bind fun _ => Run.nothing :=
  Course.bind_assoc _ (fun _ => (pure () : Run Unit)) _

theorem attends_conclude_due {conditions : List PageCondition} {callback : ObjectId} :
    Attends interval (conclude given (.wait conditions callback) .due memory) answered stops
        (.ends result last) after ↔
      ∃ ended, result = ended.map (fun _ => .undefined) ∧
        Attends interval (given.machine.call (.object callback) .undefined [] memory) answered
          stops (.ends ended last) after := by
  rw [conclude_due, Attends.bind_ends_iff]
  constructor
  · rintro (⟨abrupt, rfl, broken⟩ | ⟨value, kept, between, before, later, rfl, called, rest⟩)
    · exact ⟨.error abrupt, rfl, broken⟩
    · obtain ⟨rfl, rfl, rfl, rfl⟩ := Attends.ends_iff.mp rest
      exact ⟨.ok value, rfl, by simpa using called⟩
  · rintro ⟨ended, rfl, called⟩
    cases ended with
    | error abrupt => exact .inl ⟨abrupt, rfl, called⟩
    | ok value =>
        exact .inr ⟨value, last, after, stops, [], (List.append_nil _).symm, called, .here _ _⟩

/-- After its request a call settles, unless the host has refused to set a value. -/
theorem attends_conclude_iff
    (answers : scene.act (Work.answer interval wanted) = (reply, answered)) :
    Attends interval (conclude given wanted reply memory) answered stops (.ends result last) after ↔
      (∃ selector text reason, wanted = .setValue selector text ∧ reply = .refused reason ∧
        answered = scene ∧ stops = [] ∧ result = .error (.thrown (.text reason)) ∧
        last = memory ∧ after = scene) ∨
      Settled interval given.machine memory scene wanted reply answered stops result last
        after := by
  constructor
  · intro attends
    cases wanted with
    | wait conditions callback =>
        obtain ⟨progress, changed, same, carried⟩ := answer_wait interval conditions callback scene
        obtain ⟨rfl, rfl⟩ := Prod.mk.inj (same.symm.trans answers)
        cases carried with
        | met kept =>
            obtain ⟨ended, rfl, called⟩ := attends_conclude_due.mp attends
            exact .inr (.due (.met kept) called)
        | waiting lapse task holds timers_eq ready_eq drops_eq =>
            obtain ⟨rfl, rfl, rfl, rfl⟩ := Attends.ends_iff.mp attends
            exact .inr (.waiting rfl (.waiting lapse task holds timers_eq ready_eq drops_eq))
        | dropped timers_eq ready_eq drops_eq =>
            obtain ⟨rfl, rfl, rfl, rfl⟩ := Attends.ends_iff.mp attends
            exact .inr (.waiting rfl (.dropped timers_eq ready_eq drops_eq))
    | timeout delayMs callback =>
        obtain ⟨rfl, rfl⟩ := Prod.mk.inj answers
        obtain ⟨rfl, rfl, rfl, rfl⟩ := Attends.ends_iff.mp attends
        exact .inr (.deferred rfl)
    | print line =>
        obtain ⟨rfl, rfl⟩ := Prod.mk.inj answers
        obtain ⟨rfl, rfl, rfl, rfl⟩ := Attends.ends_iff.mp attends
        exact .inr .printed
    | load source =>
        obtain ⟨rfl, rfl⟩ := Prod.mk.inj answers
        obtain ⟨rfl, rfl, rfl, rfl⟩ := Attends.ends_iff.mp attends
        exact .inr .loaded
    | setValue selector text =>
        rcases answer_setValue interval selector text scene with ⟨reason, same⟩ |
          ⟨controls, changed, same⟩
        · obtain ⟨rfl, rfl⟩ := Prod.mk.inj (same.symm.trans answers)
          obtain ⟨rfl, rfl, rfl, rfl⟩ := Attends.ends_iff.mp attends
          exact .inl ⟨selector, text, reason, rfl, rfl, rfl, rfl, rfl, rfl, rfl⟩
        · obtain ⟨rfl, rfl⟩ := Prod.mk.inj (same.symm.trans answers)
          obtain ⟨rfl, rfl, rfl, rfl⟩ := Attends.ends_iff.mp attends
          exact .inr .set
  · rintro (⟨selector, text, reason, rfl, rfl, rfl, rfl, rfl, rfl, rfl⟩ | settled)
    · exact .here _ _
    · cases settled with
      | due carried called => exact attends_conclude_due.mpr ⟨_, rfl, called⟩
      | _ => exact .here _ _

/-! ## Calls -/

/-- A call is refused for its arguments, and everything is as their conversions have left it. -/
inductive Refused (interval : Span) (request : Run Request) (memory : Memory) (scene : Scene) :
    List Stop → Abrupt → Memory → Scene → Prop
  /-- They cannot be converted, or the function cannot use what they are converted to. -/
  | unusable {stops : List Stop} {abrupt : Abrupt} {last : Memory} {after : Scene} :
      Attends interval (request memory) scene stops (.ends (.error abrupt) last) after →
      Refused interval request memory scene stops abrupt last after
  /-- The host cannot find the controls that they name. -/
  | unset {selector text reason : String} {stops : List Stop} {last : Memory} {after : Scene} :
      Attends interval (request memory) scene stops (.ends (.ok (.setValue selector text)) last)
        after →
      after.act (Work.answer interval (.setValue selector text)) = (.refused reason, after) →
      Refused interval request memory scene
        (stops ++ [.asked (.setValue selector text) (.refused reason)]) (.thrown (.text reason))
        last after

/-- A call makes one request after its arguments have been converted, and settles. -/
inductive Granted (interval : Span) (machine : Machine) (request : Run Request) (memory : Memory)
    (scene : Scene) (wanted : Request) :
    List Stop → Except Abrupt Value → Memory → Scene → Prop
  | made {before later : List Stop} {middle last : Memory} {between answered after : Scene}
      {reply : Reply} {result : Except Abrupt Value} :
      Attends interval (request memory) scene before (.ends (.ok wanted) middle) between →
      between.act (Work.answer interval wanted) = (reply, answered) →
      Settled interval machine middle between wanted reply answered later result last after →
      Granted interval machine request memory scene wanted
        (before ++ .asked wanted reply :: later) result last after

/-- However a call of a function of the host comes to its end, it has been refused or granted. -/
theorem attends_asking_iff {request : Given → Run Request} :
    Attends interval (asking request given memory) scene stops (.ends result last) after ↔
      (∃ abrupt, result = .error abrupt ∧
        Refused interval (request given) memory scene stops abrupt last after) ∨
      ∃ wanted, Granted interval given.machine (request given) memory scene wanted stops result last
        after := by
  let rest (wanted : Request) : Run Value := Run.ask wanted >>= conclude given wanted
  have goes : asking request given memory = (request given memory).bind rest := rfl
  -- The rest makes the request, and what is left then is to conclude.
  have rest_iff {wanted : Request} {middle : Memory} {between answered : Scene} {reply : Reply}
      {later : List Stop}
      (answers : between.act (Work.answer interval wanted) = (reply, answered)) :
      Attends interval (rest wanted middle) between later (.ends result last) after ↔
        ∃ final, later = .asked wanted reply :: final ∧
          Attends interval (conclude given wanted reply middle) answered final (.ends result last)
            after :=
    Attends.asks_ends_iff answers
  rw [goes, Attends.bind_ends_iff]
  constructor
  · rintro (⟨abrupt, rfl, broken⟩ | ⟨wanted, middle, between, before, later, rfl, begins, goesOn⟩)
    · exact .inl ⟨abrupt, rfl, .unusable broken⟩
    · obtain ⟨final, rfl, concludes⟩ := (rest_iff rfl).mp goesOn
      rcases (attends_conclude_iff rfl).mp concludes with
        ⟨selector, text, reason, rfl, replied, untouched, rfl, rfl, rfl, rfl⟩ | settled
      · rw [replied]
        exact .inl ⟨_, rfl, .unset begins (Prod.ext replied untouched)⟩
      · exact .inr ⟨wanted, .made begins rfl settled⟩
  · rintro (⟨abrupt, rfl, refused⟩ | ⟨wanted, ⟨begins, answers, settled⟩⟩)
    · cases refused with
      | unusable broken => exact .inl ⟨abrupt, rfl, broken⟩
      | unset begins answers =>
          exact .inr ⟨_, _, _, _, _, rfl, begins, (rest_iff answers).mpr ⟨[], rfl, .here _ _⟩⟩
    · exact .inr ⟨_, _, _, _, _, rfl, begins, (rest_iff answers).mpr
        ⟨_, rfl, (attends_conclude_iff answers).mpr (.inr settled)⟩⟩

/-- Where its conversions go by unnoticed, a refused call leaves everything as it was.  At most, the
host has been asked to set a value and has refused, so no wait has looked for anything. -/
theorem Refused.unnoticed {request : Run Request} {abrupt : Abrupt}
    (refused : Refused interval request memory scene stops abrupt last after)
    (silent : ∃ found middle, request memory = .ends found middle) :
    after = scene ∧ ∀ stop ∈ stops, ∃ selector text reason,
      stop = .asked (.setValue selector text) (.refused reason) := by
  obtain ⟨found, middle, ends⟩ := silent
  cases refused with
  | unusable broken =>
      rw [ends] at broken
      obtain ⟨rfl, rfl, -, -⟩ := Attends.ends_iff.mp broken
      exact ⟨rfl, nofun⟩
  | unset begins answers =>
      rw [ends] at begins
      obtain ⟨rfl, rfl, -, -⟩ := Attends.ends_iff.mp begins
      refine ⟨rfl, fun stop member => ?_⟩
      obtain rfl := List.mem_singleton.mp member
      exact ⟨_, _, _, rfl⟩

variable {natives : Array Native} {place : ObjectId}

section Meddling

variable {log wait : ObjectId}
  (prints : Finds natives memory.objects log printingFunctions[0]!.2.2)
  (waits : Finds natives memory.objects wait waitingFunctions[0]!.2.2)
  (meddles : (objectIn memory.objects log).table.get? WellKnown.toPrimitive.key =
    some (.quiet (.object log)))

include prints meddles

/-- A function that prints a line says of itself how it wants to be converted: by printing. -/
theorem meddling_method (machine : Machine) :
    Run.method? machine (.object log) WellKnown.toPrimitive.key memory =
      .ends (.ok (some (.object log))) memory := by
  obtain ⟨number, creates, fields, native, kind, -⟩ := prints
  have looked {α : Type} (rest : Object → Run α) : (Run.objectAt log >>= rest) memory =
      rest (objectIn memory.objects log) memory := rfl
  have own : Run.plainProperty? (objectIn memory.objects log) WellKnown.toPrimitive.key =
      some (.quiet (.object log)) := by
    rw [Run.plainProperty?, kind]
    exact meddles
  have got (steps : Nat) : Run.getFrom machine (steps + 1) log WellKnown.toPrimitive.key
      (.object log) memory = .ends (.ok (.object log)) memory := by
    rw [Run.getFrom, looked]
    simp only [kind, own]
    rfl
  have callable : Run.isCallable (.object log) memory = .ends (.ok true) memory := by
    rw [Run.isCallable, looked]
    simp only [kind]
    rfl
  have goes : Run.method? machine (.object log) WellKnown.toPrimitive.key memory =
      (Run.getFrom machine Run.manyParents log WellKnown.toPrimitive.key (.object log)
        memory).bind _ := rfl
  rw [goes, Run.manyParents, got 99999]
  change (Run.isCallable (.object log) memory).bind _ = _
  rw [callable]
  rfl

omit prints meddles in
theorem print_text (machine : Machine) (self : Value) (memory : Memory) :
    printingFunctions[0]!.2.2 ⟨machine, self, [.text "string"], .undefined⟩ memory =
      .asks memory (.print "string") fun memory _ => .ends (.ok .undefined) memory := by
  have line : "" ++ " ".intercalate [(Units.ofString "string").write] = "string" := by
    decide +kernel
  rw [← line]
  rfl

theorem meddling_text (deeper : Machine) (levels : Nat) :
    Run.toText (Machine.within natives deeper (levels + 1)) (.object log) memory =
      .asks memory (.print "string") fun memory _ => .ends (.ok "undefined") memory := by
  let machine := Machine.within natives deeper (levels + 1)
  let print := machine.call (.object log) (.object log) [.text Hint.text.name]
  have printed : print memory =
      .asks memory (.print "string") fun memory _ => .ends (.ok .undefined) memory :=
    (prints.call_eq levels _ _).trans (print_text _ _ memory)
  have called (rest : Value → Run Value) :
      (print >>= rest) memory = (print memory).bind rest := rfl
  have goes : Run.toText machine (.object log) memory =
      ((Run.method? machine (.object log) WellKnown.toPrimitive.key memory).bind _).bind
        Run.textOf := rfl
  rw [goes, meddling_method prints meddles]
  simp only [Course.bind, called, print, printed]
  rfl

include waits in
theorem meddling_call (deeper : Machine) (levels : Nat) :
    (Machine.within natives deeper (levels + 2)).call (.object wait) .undefined
        [.object log, .number 42] memory =
      .asks memory (.print "string") fun memory _ =>
        .ends (.error (.thrown (.text "onElementAvailable: argument 2 must be a function")))
          memory := by
  let given : Given :=
    ⟨Machine.within natives deeper (levels + 1), .undefined, [.object log, .number 42],
      .undefined⟩
  have goes : waitingFunctions[0]!.2.2 given memory =
      ((Run.toText given.machine (.object log) memory).bind fun text => pure text.write).bind
        fun selector => callbackArgument given 1 "onElementAvailable" >>= fun callback =>
          waitFor given [.element selector] callback := rfl
  rw [waits.call_eq, goes, meddling_text prints meddles]
  rfl

end Meddling

end PageWatch.Performance
