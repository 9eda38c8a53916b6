import PageWatch.Proofs.Script.Relaying
import PageWatch.Proofs.Script.Silence

/-!
# Errands to the host

A function of the host is an errand: it converts its arguments one by one and checks them, which
comes to one request, and only then it asks the host, once.  Everything up to the request relays,
so that nothing is noticed of it but what the conversions call.  If no method is called but the
library's own, nothing is noticed at all.
-/

namespace PageWatch.Script

open Text

variable {α β : Type}

/-! ## Results on all ways -/

/-- On every way through a computation, whatever the surroundings do, its result is a good one. -/
def Run.Yields (good : α → Prop) (computation : Run α) : Prop :=
  ∀ memory stops value last, Course.Way (computation memory) stops (.ok value) last → good value

namespace Run.Yields

variable {good : α → Prop} {next : β → Prop} {computation : Run α} {rest : α → Run β}

theorem any (computation : Run α) : Yields (fun _ => True) computation :=
  fun _ _ _ _ _ => trivial

theorem pure {value : α} (holds : good value) : Yields good (Pure.pure value : Run α) := by
  rintro memory stops value last ⟨⟩
  exact holds

theorem stop (abrupt : Abrupt) : Yields good (Run.stop abrupt : Run α) := by
  rintro memory stops value last ⟨⟩

theorem bind (first : Yields good computation)
    (rests : ∀ value, good value → Yields next (rest value)) :
    Yields next (computation >>= rest) := by
  intro memory stops value last way
  rcases Course.Way.bind_iff.mp way with ⟨abrupt, broken, -⟩ |
    ⟨found, middle, before, later, -, begins, more⟩
  · exact absurd broken nofun
  · exact rests found (first _ _ _ _ begins) _ _ _ _ more

end Run.Yields

namespace Request

/-- The callback that a request registers, if it registers one. -/
def callback? : Request → Option ObjectId
  | .wait _ callback | .timeout _ callback => some callback
  | .print _ | .load _ | .setValue _ _ => none

/-- A request registers one of some values. -/
def Registers (values : List Value) (request : Request) : Prop :=
  ∃ callback, request.callback? = some callback ∧ .object callback ∈ values

/-- What a request registers can be called. -/
def Callable (objects : Array Object) (request : Request) : Prop :=
  ∀ callback, request.callback? = some callback →
    (objectIn objects callback).kind.callable = true

end Request

namespace Library

open Run

/-- What a function of the host does after the reply to its request. -/
def conclude (given : Given) : Request → Reply → Run Value
  | .wait _ callback, reply => do
    match reply with
    | .due => discard <| given.machine.call (.object callback) .undefined []
    | _ => pure ()
    nothing
  | .setValue _ _, reply =>
    match reply with
    | .counted number => natValue number
    | .refused reason => refuse reason
    | _ => natValue 0
  | _, _ => nothing

/-- A function that finds a request in what it is given, asks the host and concludes. -/
def asking (request : Given → Run Request) (given : Given) : Run Value := do
  let wanted ← request given
  conclude given wanted (← ask wanted)

theorem asking_eq (request : Given → Run Request) :
    asking request = fun given =>
      request given >>= fun wanted => ask wanted >>= conclude given wanted := rfl

/-- What a function of the host makes of an argument. -/
inductive Demand where
  | nothing
  | text
  | number
  | selectors

/-- A value that a function of the host makes something of without any method but the library's
own. -/
def Demand.Met (natives : Array Native) (objects : Array Object) : Demand → Value → Prop
  | .text, value | .number, value => Ordinary natives objects value
  | .selectors, .object place => Listed objects place
  | .selectors, _ | .nothing, _ => True

/-- A function of the host, with what it makes of the arguments at each position and the request
that it finds in them. -/
structure Errand where
  name : String
  length : Nat
  demand : Nat → Demand
  request : Given → Run Request

namespace Errand

/-- What scripts find of an errand. -/
def offer (errand : Errand) : String × Nat × (Given → Run Value) :=
  (errand.name, errand.length, asking errand.request)

/-- The errand of a function that registers waits. -/
def waiting (demand : Nat → Demand)
    (entry : String × Nat × (Given → Run (List PageCondition × ObjectId))) : Errand :=
  ⟨entry.1, entry.2.1, demand, fun given => do
    let found ← entry.2.2 given
    return .wait found.1 found.2⟩

/-- The errand of a function that registers timeouts. -/
def deferring (demand : Nat → Demand)
    (entry : String × Nat × (Given → Run (Nat × ObjectId))) : Errand :=
  ⟨entry.1, entry.2.1, demand, fun given => do
    let found ← entry.2.2 given
    return .timeout found.1 found.2⟩

/-- The errand of a function that prints the texts of all its arguments. -/
def printing (name opening : String) : Errand :=
  ⟨name, 1, fun _ => .text, fun given => do
    return .print (opening ++ " ".intercalate (← textArguments given given.arguments))⟩

def registeringErrands : List Errand :=
  List.zipWith waiting
    [fun position => if position = 0 then .text else .nothing,
     fun position => if position = 0 then .selectors else .nothing,
     fun position => if position < 2 then .text else .nothing] registrations ++
  List.zipWith deferring [fun position => if position = 1 then .number else .nothing] deferrals

def otherErrands : List Errand :=
  [printing "log" "", printing "info" "", printing "warn" "warn: ", printing "error" "error: ",
   ⟨"load", 1, fun _ => .text, fun given => do return .load (← textArgument given 0)⟩,
   ⟨"setValue", 2, fun _ => .text, fun given => do
      let selector ← textArgument given 0
      let text ← textArgument given 1
      return .setValue selector text⟩]

theorem offer_registering : registeringErrands.map offer = waitingFunctions := by
  simp only [registeringErrands, waiting, deferring, registrations, deferrals,
    List.zipWith_cons_cons, List.zipWith_nil_left, List.cons_append, List.nil_append, List.map_cons, List.map_nil, offer,
    asking_eq, Run.bind_assoc, Run.pure_bind]
  rfl

theorem offer_others : otherErrands.map offer = printingFunctions ++ documentFunctions := by
  simp only [otherErrands, printing, List.map_cons, List.map_nil, offer, asking_eq, Run.bind_assoc,
    Run.pure_bind]
  rfl

/-! ## Requests -/

variable {errand : Errand}

/-- What a function of the host does before its request is left to the functions that it calls to
convert its arguments. -/
theorem relays_request (listed : errand ∈ registeringErrands ++ otherErrands) (given : Given) :
    Run.Relays given.machine (errand.request given) := by
  have prints (name opening : String) :
      Run.Relays given.machine ((printing name opening).request given) :=
    (Relays.textArguments given given.arguments).bind fun _ => .pure _
  simp only [registeringErrands, registrations, deferrals, otherErrands, List.zipWith_cons_cons,
    List.zipWith_nil_left, List.cons_append, List.nil_append, List.mem_cons, List.not_mem_nil,
    or_false] at listed
  rcases listed with rfl | rfl | rfl | rfl | rfl | rfl | rfl | rfl | rfl | rfl
  · refine Relays.bind ?_ fun _ => .pure _
    exact (Relays.textArgument given 0).bind fun _ =>
      (Relays.callbackArgument given 1 _).bind fun _ => .pure _
  · refine Relays.bind ?_ fun _ => .pure _
    exact (Relays.selectorsArgument given).bind fun _ =>
      (Relays.callbackArgument given 1 _).bind fun _ => .pure _
  · refine Relays.bind ?_ fun _ => .pure _
    exact (Relays.textArgument given 0).bind fun _ => (Relays.textArgument given 1).bind fun _ =>
      (Relays.callbackArgument given 2 _).bind fun _ => .pure _
  · refine Relays.bind ?_ fun _ => .pure _
    exact (Relays.callbackArgument given 0 _).bind fun _ =>
      (Relays.toNumber given.second).bind fun _ => .pure _
  · exact prints "log" ""
  · exact prints "info" ""
  · exact prints "warn" "warn: "
  · exact prints "error" "error: "
  · exact (Relays.textArgument given 0).bind fun _ => .pure _
  · exact (Relays.textArgument given 0).bind fun _ =>
      (Relays.textArgument given 1).bind fun _ => .pure _

theorem yields_callbackArgument (given : Given) (position : Nat) (name : String) :
    Run.Yields (fun callback => .object callback ∈ given.arguments)
      (callbackArgument given position name) := by
  rw [callbackArgument, Given.argument]
  cases found : given.arguments[position]? with
  | none => exact .stop _
  | some argument =>
      cases argument with
      | object place =>
          refine (Yields.any _).bind fun callable _ => ?_
          split
          · exact .pure (List.mem_of_getElem? found)
          · exact .stop _
      | _ => exact .stop _

/-- What a function that registers something asks for is to register one of its arguments. -/
theorem yields_registering (listed : errand ∈ registeringErrands) (given : Given) :
    Run.Yields (Request.Registers given.arguments) (errand.request given) := by
  have callback (position : Nat) (name : String) := yields_callbackArgument given position name
  simp only [registeringErrands, registrations, deferrals, List.zipWith_cons_cons,
    List.zipWith_nil_left, List.cons_append, List.nil_append, List.mem_cons, List.not_mem_nil,
    or_false] at listed
  have finds {α : Type} {found : Run (α × ObjectId)} {wanted : α × ObjectId → Request}
      (asks : ∀ value, (wanted value).callback? = some value.2)
      (yields : Run.Yields (fun value => .object value.2 ∈ given.arguments) found) :
      Run.Yields (Request.Registers given.arguments) (found >>= fun value => pure (wanted value)) :=
    yields.bind fun value member => .pure ⟨value.2, asks value, member⟩
  rcases listed with rfl | rfl | rfl | rfl
  · refine finds (fun _ => rfl) ?_
    exact (Yields.any _).bind fun _ _ => (callback 1 _).bind fun _ member => .pure member
  · refine finds (fun _ => rfl) ?_
    exact (Yields.any _).bind fun _ _ => (callback 1 _).bind fun _ member => .pure member
  · refine finds (fun _ => rfl) ?_
    exact (Yields.any _).bind fun _ _ => (Yields.any _).bind fun _ _ =>
      (callback 2 _).bind fun _ member => .pure member
  · refine finds (fun _ => rfl) ?_
    exact (callback 0 _).bind fun _ member => (Yields.any _).bind fun _ _ => .pure member

/-- All other functions register nothing. -/
theorem yields_others (listed : errand ∈ otherErrands) (given : Given) :
    Run.Yields (fun wanted => wanted.callback? = none) (errand.request given) := by
  simp only [otherErrands, List.mem_cons, List.not_mem_nil, or_false] at listed
  rcases listed with rfl | rfl | rfl | rfl | rfl | rfl
  · exact (Yields.any _).bind fun _ _ => .pure rfl
  · exact (Yields.any _).bind fun _ _ => .pure rfl
  · exact (Yields.any _).bind fun _ _ => .pure rfl
  · exact (Yields.any _).bind fun _ _ => .pure rfl
  · exact (Yields.any _).bind fun _ _ => .pure rfl
  · exact (Yields.any _).bind fun _ _ => (Yields.any _).bind fun _ _ => .pure rfl

/-! ## Arguments that the library alone converts -/

section Silence

variable {natives : Array Native} {objects : Array Object} {deeper : Machine} {levels : Nat}

theorem silent_textArgument {position : Nat} {given : Given}
    (inside : given.machine = Machine.within natives deeper levels)
    (converted : Ordinary natives objects (given.argument position)) :
    Silent objects (fun _ => True) (textArgument given position) := by
  rw [textArgument, inside]
  exact (converted.silent_toText deeper levels).bind fun _ _ => .pure trivial

theorem silent_textArguments {values : List Value} {given : Given}
    (inside : given.machine = Machine.within natives deeper levels)
    (converted : ∀ value ∈ values, Ordinary natives objects value) :
    Silent objects (fun _ => True) (textArguments given values) := by
  induction values with
  | nil => exact .pure trivial
  | cons value values ih =>
      obtain ⟨first, others⟩ := List.forall_mem_cons.mp converted
      rw [textArguments, inside]
      exact (first.silent_toText deeper levels).bind fun _ _ => (ih others).bind fun _ _ =>
        .pure trivial

theorem silent_callbackArgument (given : Given) (position : Nat) (name : String) :
    Silent objects (fun callback => (objectIn objects callback).kind.callable = true)
      (callbackArgument given position name) := by
  rw [callbackArgument]
  cases given.argument position with
  | object place =>
      refine (Silent.isCallable place).known ?_
      split
      · next calls => exact .pure calls
      · exact .stop _
  | _ => exact .stop _

theorem silent_selectorsArgument {given : Given}
    (converted : Demand.Met natives objects .selectors given.first) :
    Silent objects (fun _ => True) (selectorsArgument given) := by
  rw [selectorsArgument]
  cases found : given.first with
  | object place =>
      rw [found] at converted
      obtain ⟨length, shown, primitive⟩ := Listed.length converted
      refine (shown.getOf _).known ?_
      refine (Silent.toNumber_primitive primitive).bind fun number _ => ?_
      split
      · exact .stop _
      refine .andThen (.forPositions fun selectors position => ?_) fun _ => .pure trivial
      obtain ⟨item, shown, primitive⟩ := Listed.item converted position
      refine (shown.getOf _).known ?_
      exact (Silent.toText_primitive primitive).bind fun _ _ => .pure trivial
  | _ => exact .stop _

theorem callable_of_none {wanted : Request} (uncalled : wanted.callback? = none) :
    Request.Callable objects wanted :=
  fun callback same => absurd (same.symm.trans uncalled) (Option.some_ne_none callback)

/-- Where the library alone converts what is converted, a function comes to its request without
anybody noticing, and what it registers can be called. -/
theorem silent_request {given : Given} (listed : errand ∈ registeringErrands ++ otherErrands)
    (inside : given.machine = Machine.within natives deeper levels)
    (met : ∀ position, (errand.demand position).Met natives objects (given.argument position)) :
    Silent objects (Request.Callable objects) (errand.request given) := by
  have callback (position : Nat) (name : String) : Silent objects
      (fun callback => (objectIn objects callback).kind.callable = true)
      (callbackArgument given position name) := silent_callbackArgument given position name
  have finds {α : Type} {found : Run (α × ObjectId)} {wanted : α × ObjectId → Request}
      (asks : ∀ value, (wanted value).callback? = some value.2)
      (silent : Silent objects (fun value => (objectIn objects value.2).kind.callable = true)
        found) :
      Silent objects (Request.Callable objects) (found >>= fun value => pure (wanted value)) :=
    silent.bind fun value calls => .pure fun callback same => by
      obtain rfl : value.2 = callback := Option.some.inj ((asks value).symm.trans same)
      exact calls
  have prints (name opening : String)
      (texts : ∀ position, Ordinary natives objects (given.argument position)) :
      Silent objects (Request.Callable objects) ((printing name opening).request given) := by
    refine (silent_textArguments inside fun value member => ?_).bind fun _ _ =>
      .pure (callable_of_none rfl)
    obtain ⟨position, found⟩ := List.mem_iff_getElem?.mp member
    have converted := texts position
    rw [Given.argument, found] at converted
    exact converted
  simp only [registeringErrands, registrations, deferrals, otherErrands, List.zipWith_cons_cons,
    List.zipWith_nil_left, List.cons_append, List.nil_append, List.mem_cons, List.not_mem_nil,
    or_false] at listed
  rcases listed with rfl | rfl | rfl | rfl | rfl | rfl | rfl | rfl | rfl | rfl
  · refine finds (fun _ => rfl) ?_
    exact (silent_textArgument inside (met 0)).bind fun _ _ =>
      (callback 1 _).bind fun _ calls => .pure calls
  · refine finds (fun _ => rfl) ?_
    exact (silent_selectorsArgument (met 0)).bind fun _ _ =>
      (callback 1 _).bind fun _ calls => .pure calls
  · refine finds (fun _ => rfl) ?_
    exact (silent_textArgument inside (met 0)).bind fun _ _ =>
      (silent_textArgument inside (met 1)).bind fun _ _ =>
        (callback 2 _).bind fun _ calls => .pure calls
  · refine finds (fun _ => rfl) ?_
    refine (callback 0 _).bind fun _ calls => ?_
    rw [inside]
    exact (Ordinary.silent_toNumber deeper levels (met 1)).bind fun _ _ => .pure calls
  · exact prints "log" "" met
  · exact prints "info" "" met
  · exact prints "warn" "warn: " met
  · exact prints "error" "error: " met
  · exact (silent_textArgument inside (met 0)).bind fun _ _ => .pure (callable_of_none rfl)
  · exact (silent_textArgument inside (met 0)).bind fun _ _ =>
      (silent_textArgument inside (met 1)).bind fun _ _ => .pure (callable_of_none rfl)

end Silence

end Errand

end Library

end PageWatch.Script
