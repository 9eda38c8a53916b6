import PageWatch.Script.Library.Host

/-!
# Ways through courses

A course branches wherever its surroundings answer: the host replies to a request, another
generator answers, or the generator itself is told to go on.  A way through a course picks
one branch at each of these places and leads to an end.  What holds of all ways holds
whatever the surroundings do.

The ways through a call that registers a wait show when its callback is called: if it is due
at once, in full, before the registering call ends, and otherwise not at all.  A call that
registers a timeout never calls its callback.
-/

namespace PageWatch.Script

variable {α β γ : Type}

/-- A place where the surroundings of a course have answered. -/
inductive Stop where
  | asked (request : Request) (reply : Reply)
  | resumed (generator : ObjectId) (message : Resumption)
      (answer : Except Abrupt (Value × Bool))
  | paused (value : Value) (message : Resumption)

namespace Course

/-- A way through a course, with the result and the memory at its end.  While generators run
in between, memory may change. -/
inductive Way : Course α → List Stop → Except Abrupt α → Memory → Prop
  | ends (result : Except Abrupt α) (memory : Memory) : Way (.ends result memory) [] result memory
  | asks {memory last : Memory} {request : Request} {next : Memory → Reply → Course α}
      {stops : List Stop} {result : Except Abrupt α} (reply : Reply) :
      Way (next memory reply) stops result last →
      Way (.asks memory request next) (.asked request reply :: stops) result last
  | resumes {memory last : Memory} {generator : ObjectId} {message : Resumption}
      {next : Memory → Except Abrupt (Value × Bool) → Course α} {stops : List Stop}
      {result : Except Abrupt α} (after : Memory) (answer : Except Abrupt (Value × Bool)) :
      Way (next after answer) stops result last →
      Way (.resumes memory generator message next) (.resumed generator message answer :: stops)
        result last
  | pauses {memory last : Memory} {value : Value} {next : Memory → Resumption → Course α}
      {stops : List Stop} {result : Except Abrupt α} (after : Memory) (message : Resumption) :
      Way (next after message) stops result last →
      Way (.pauses memory value next) (.paused value message :: stops) result last

theorem bind_assoc (course : Course α) (rest : α → Run β) (more : β → Run γ) :
    (course.bind rest).bind more =
      course.bind fun value memory => (rest value memory).bind more := by
  induction course with
  | ends result memory => cases result <;> rfl
  | asks memory request next ih => simp only [Course.bind, ih]
  | resumes memory generator message next ih => simp only [Course.bind, ih]
  | pauses memory value next ih => simp only [Course.bind, ih]

namespace Way

variable {course : Course α} {rest : α → Run β} {stops : List Stop} {result : Except Abrupt β}
  {last : Memory}

theorem bind {first second : List Stop} {value : α} {middle : Memory}
    (way : Way course first (.ok value) middle)
    (more : Way (rest value middle) second result last) :
    Way (course.bind rest) (first ++ second) result last := by
  generalize ended_eq : Except.ok value = ended at way
  induction way with
  | ends ended memory =>
      subst ended_eq
      exact more
  | asks reply way ih => exact .asks reply (ih more ended_eq)
  | resumes after answer way ih => exact .resumes after answer (ih more ended_eq)
  | pauses after message way ih => exact .pauses after message (ih more ended_eq)

theorem bind_error {abrupt : Abrupt} (way : Way course stops (.error abrupt) last)
    (rest : α → Run β) : Way (course.bind rest) stops (.error abrupt) last := by
  generalize ended_eq : Except.error abrupt = ended at way
  induction way with
  | ends ended memory =>
      subst ended_eq
      exact .ends _ memory
  | asks reply way ih => exact .asks reply (ih ended_eq)
  | resumes after answer way ih => exact .resumes after answer (ih ended_eq)
  | pauses after message way ih => exact .pauses after message (ih ended_eq)

/-- A way through two courses in a row goes through the first, and unless that has been broken
off, through the second. -/
theorem bind_iff : Way (course.bind rest) stops result last ↔
    (∃ abrupt, result = .error abrupt ∧ Way course stops (.error abrupt) last) ∨
      ∃ value middle first second, stops = first ++ second ∧
        Way course first (.ok value) middle ∧ Way (rest value middle) second result last := by
  constructor
  · intro way
    induction course generalizing stops with
    | ends ended memory =>
        cases ended with
        | ok value => exact .inr ⟨value, memory, [], stops, rfl, .ends _ memory, way⟩
        | error abrupt =>
            cases way with
            | ends => exact .inl ⟨abrupt, rfl, .ends _ _⟩
    | asks memory request next ih =>
        cases way with
        | asks reply way =>
            rcases ih memory reply way with ⟨abrupt, rfl, broken⟩ |
              ⟨value, middle, first, second, rfl, way, more⟩
            · exact .inl ⟨abrupt, rfl, .asks reply broken⟩
            · exact .inr ⟨value, middle, _ :: first, second, rfl, .asks reply way, more⟩
    | resumes memory generator message next ih =>
        cases way with
        | resumes after answer way =>
            rcases ih after answer way with ⟨abrupt, rfl, broken⟩ |
              ⟨value, middle, first, second, rfl, way, more⟩
            · exact .inl ⟨abrupt, rfl, .resumes after answer broken⟩
            · exact .inr ⟨value, middle, _ :: first, second, rfl, .resumes after answer way, more⟩
    | pauses memory value next ih =>
        cases way with
        | pauses after message way =>
            rcases ih after message way with ⟨abrupt, rfl, broken⟩ |
              ⟨value, middle, first, second, rfl, way, more⟩
            · exact .inl ⟨abrupt, rfl, .pauses after message broken⟩
            · exact .inr ⟨value, middle, _ :: first, second, rfl, .pauses after message way, more⟩
  · rintro (⟨abrupt, rfl, broken⟩ | ⟨value, middle, first, second, rfl, way, more⟩)
    · exact broken.bind_error rest
    · exact way.bind more

end Way

end Course

theorem Run.bind_assoc (computation : Run α) (rest : α → Run β) (more : β → Run γ) :
    computation >>= rest >>= more = computation >>= fun value => rest value >>= more :=
  funext fun memory => (computation memory).bind_assoc rest more

theorem Run.pure_bind (value : α) (rest : α → Run β) : (pure value : Run α) >>= rest = rest value :=
  rfl

namespace Library

open Course Run

/-- A function that finds conditions and a callback in what it is given, and registers them. -/
def registering (arguments : Given → Run (List PageCondition × ObjectId)) (given : Given) :
    Run Value := do
  let (conditions, callback) ← arguments given
  waitFor given conditions callback

theorem registering_eq (arguments : Given → Run (List PageCondition × ObjectId)) :
    registering arguments = fun given =>
      arguments given >>= fun found => waitFor given found.1 found.2 := rfl

/-- The functions that register waits, each with what it finds in its arguments. -/
def registrations : List (String × Nat × (Given → Run (List PageCondition × ObjectId))) :=
  [("onElementAvailable", 2, fun given => do
      let selector ← textArgument given 0
      let callback ← callbackArgument given 1 "onElementAvailable"
      return ([.element selector], callback)),
   ("allElementsAvailable", 2, fun given => do
      let selectors ← selectorsArgument given
      let callback ← callbackArgument given 1 "allElementsAvailable"
      return (selectors.map .element, callback)),
   ("onInputHasValue", 3, fun given => do
      let selector ← textArgument given 0
      let value ← textArgument given 1
      let callback ← callbackArgument given 2 "onInputHasValue"
      return ([.value selector value], callback))]

/-- A function that finds a delay and a callback in what it is given, and registers them. -/
def deferring (arguments : Given → Run (Nat × ObjectId)) (given : Given) : Run Value := do
  let (delayMs, callback) ← arguments given
  discard <| ask (.timeout delayMs callback)
  nothing

theorem deferring_eq (arguments : Given → Run (Nat × ObjectId)) :
    deferring arguments = fun given =>
      arguments given >>= fun found => ask (.timeout found.1 found.2) >>= fun _ => nothing := by
  funext given
  exact congrArg (arguments given >>= ·) (funext fun found => Run.bind_assoc _ _ _)

/-- The function that registers timeouts, with what it finds in its arguments. -/
def deferrals : List (String × Nat × (Given → Run (Nat × ObjectId))) :=
  [("setTimeout", 2, fun given => do
      let callback ← callbackArgument given 0 "setTimeout"
      let delay ← toNumber given.machine given.second
      return (delayOf delay, callback))]

/-- Scripts find these functions in the library, and no others that register anything. -/
theorem waitingFunctions_eq :
    waitingFunctions =
      registrations.map (fun entry => (entry.1, entry.2.1, registering entry.2.2)) ++
        deferrals.map (fun entry => (entry.1, entry.2.1, deferring entry.2.2)) := by
  simp only [registrations, deferrals, registering_eq, deferring_eq, Run.bind_assoc, Run.pure_bind,
    List.map_cons, List.map_nil, List.cons_append, List.nil_append]
  rfl

theorem mem_waitingFunctions {name : String} {length : Nat}
    {arguments : Given → Run (List PageCondition × ObjectId)}
    (registers : (name, length, arguments) ∈ registrations) :
    (name, length, registering arguments) ∈ waitingFunctions := by
  rw [waitingFunctions_eq]
  exact List.mem_append_left _ (List.mem_map_of_mem registers)

/-- What comes after the reply to a registration: a complete call of the callback if that is
due, and nothing otherwise. -/
inductive Served (given : Given) (callback : ObjectId) (memory : Memory) :
    Reply → List Stop → Except Abrupt Value → Memory → Prop
  | called {stops : List Stop} {ended : Except Abrupt Value} {last : Memory} :
      Way (given.machine.call (.object callback) .undefined [] memory) stops ended last →
      Served given callback memory .due stops (ended.map fun _ => .undefined) last
  | left {reply : Reply} : reply ≠ .due →
      Served given callback memory reply [] (.ok .undefined) memory

variable {given : Given} {memory last : Memory} {stops : List Stop} {result : Except Abrupt Value}

/-- A wait is registered, and its callback is called before that ends if it is due. -/
theorem way_waitFor {conditions : List PageCondition} {callback : ObjectId}
    (way : Way (waitFor given conditions callback memory) stops result last) :
    ∃ reply called, stops = .asked (.wait conditions callback) reply :: called ∧
      Served given callback memory reply called result last := by
  cases way with
  | asks reply way =>
      refine ⟨reply, _, rfl, ?_⟩
      cases reply with
      | due =>
          let call := given.machine.call (.object callback) .undefined [] memory
          have calls : Way ((call.bind fun _ => (pure () : Run Unit)).bind fun _ => Run.nothing)
              _ result last := way
          rw [Course.bind_assoc] at calls
          rcases Way.bind_iff.mp calls with ⟨abrupt, rfl, broken⟩ |
            ⟨value, middle, first, second, rfl, called, rest⟩
          · exact .called broken
          · cases rest
            rw [List.append_nil]
            exact .called called
      | done | counted | refused =>
          cases way
          exact .left (by simp)

/-- A function registers waits: on every way through it, either what it finds in its arguments
cannot be used, or its own request is for the wait, and if the callback is due then, it is
called in full before the function ends. -/
def Registers (arguments : Given → Run (List PageCondition × ObjectId))
    (function : Given → Run Value) : Prop :=
  ∀ given memory stops result last, Way (function given memory) stops result last →
    (∃ abrupt, result = .error abrupt ∧
      Way (arguments given memory) stops (.error abrupt) last) ∨
    ∃ conditions callback middle before reply called,
      stops = before ++ .asked (.wait conditions callback) reply :: called ∧
      Way (arguments given memory) before (.ok (conditions, callback)) middle ∧
      Served given callback middle reply called result last

theorem registers_registering (arguments : Given → Run (List PageCondition × ObjectId)) :
    Registers arguments (registering arguments) := by
  intro given memory stops result last way
  rcases Way.bind_iff.mp way with broken |
    ⟨⟨conditions, callback⟩, middle, before, rest, rfl, found, way⟩
  · exact .inl broken
  · obtain ⟨reply, called, rfl, served⟩ := way_waitFor way
    exact .inr ⟨conditions, callback, middle, before, reply, called, rfl, found, served⟩

/-- A function registers timeouts: on every way through it, either what it finds in its arguments
cannot be used, or its own request is for the timeout, and it ends after the reply, whatever that
is, without calling anything. -/
def Defers (arguments : Given → Run (Nat × ObjectId)) (function : Given → Run Value) : Prop :=
  ∀ given memory stops result last, Way (function given memory) stops result last →
    (∃ abrupt, result = .error abrupt ∧
      Way (arguments given memory) stops (.error abrupt) last) ∨
    ∃ delayMs callback before reply,
      stops = before ++ [.asked (.timeout delayMs callback) reply] ∧
      Way (arguments given memory) before (.ok (delayMs, callback)) last ∧
      result = .ok .undefined

theorem defers_deferring (arguments : Given → Run (Nat × ObjectId)) :
    Defers arguments (deferring arguments) := by
  intro given memory stops result last way
  rw [deferring_eq] at way
  rcases Way.bind_iff.mp way with broken |
    ⟨⟨delayMs, callback⟩, middle, before, rest, rfl, found, way⟩
  · exact .inl broken
  · cases way with
    | asks reply way =>
        cases way
        exact .inr ⟨delayMs, callback, before, reply, rfl, found, rfl⟩

/-- Every function that registers something registers waits or timeouts. -/
theorem registers_or_defers {name : String} {length : Nat} {function : Given → Run Value}
    (offered : (name, length, function) ∈ waitingFunctions) :
    (∃ arguments, (name, length, arguments) ∈ registrations ∧ Registers arguments function) ∨
      ∃ arguments, (name, length, arguments) ∈ deferrals ∧ Defers arguments function := by
  rw [waitingFunctions_eq] at offered
  rcases List.mem_append.mp offered with listed | listed
  · obtain ⟨⟨name, length, arguments⟩, member, rfl, rfl, rfl⟩ := List.mem_map.mp listed
    exact .inl ⟨arguments, member, registers_registering arguments⟩
  · obtain ⟨⟨name, length, arguments⟩, member, rfl, rfl, rfl⟩ := List.mem_map.mp listed
    exact .inr ⟨arguments, member, defers_deferring arguments⟩

end Library

end PageWatch.Script
