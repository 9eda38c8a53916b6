import PageWatch.Proofs.Script.Ways
import PageWatch.Script.Engine

/-!
# Computations that nobody notices

A computation is silent if it ends without asking the host for anything, without waiting for a
generator and without pausing.  It may fail, and it may leave new objects behind when it does;
if it succeeds, all objects are as before.

Conversions run methods of objects, so they are as silent as those methods are.  The methods that
the library gives to functions, to arrays and to all objects are silent, as long as the values
that they come across are primitive.
-/

namespace PageWatch.Script

open Text

variable {α β : Type} {objects : Array Object} {good : α → Prop} {next : β → Prop}

def objectIn (objects : Array Object) (place : ObjectId) : Object := (objects[place]?).getD default

/-- Among some objects, a computation ends without anybody noticing, and if it does so with a
result, that is a good one and the objects are the same. -/
def Run.Silent (objects : Array Object) (good : α → Prop) (computation : Run α) : Prop :=
  ∀ memory : Memory, memory.objects = objects →
    (∃ abrupt last, computation memory = .ends (.error abrupt) last) ∨
      ∃ value last, computation memory = .ends (.ok value) last ∧ last.objects = objects ∧
        good value

namespace Run.Silent

variable {computation : Run α} {rest : α → Run β}

theorem pure {value : α} (holds : good value) : Silent objects good (Pure.pure value : Run α) :=
  fun memory same => .inr ⟨value, memory, rfl, same, holds⟩

theorem stop (abrupt : Abrupt) : Silent objects good (Run.stop abrupt : Run α) :=
  fun memory _ => .inl ⟨abrupt, memory, rfl⟩

theorem raise (kind : Intrinsic) (message : String) :
    Silent objects good (Run.raise kind message : Run α) :=
  fun _ _ => .inl ⟨_, _, rfl⟩

theorem look (view : Memory → α) : Silent objects (fun _ => True) (Run.look view) :=
  fun memory same => .inr ⟨view memory, memory, rfl, same, trivial⟩

theorem objectAt (place : ObjectId) :
    Silent objects (· = objectIn objects place) (Run.objectAt place) :=
  fun memory same => .inr ⟨_, memory, rfl, same, same ▸ rfl⟩

theorem bind (first : Silent objects good computation)
    (rests : ∀ value, good value → Silent objects next (rest value)) :
    Silent objects next (computation >>= rest) := by
  intro memory same
  rcases first memory same with ⟨abrupt, last, ends⟩ | ⟨value, last, ends, lastSame, holds⟩
  · refine .inl ⟨abrupt, last, ?_⟩
    exact congrArg (Course.bind · rest) ends
  · have goes : (computation >>= rest) memory = rest value last :=
      congrArg (Course.bind · rest) ends
    rw [goes]
    exact rests value holds last lastSame

theorem mono {better : α → Prop} (silent : Silent objects good computation)
    (weaker : ∀ value, good value → better value) : Silent objects better computation := by
  intro memory same
  rcases silent memory same with fails | ⟨value, last, ends, lastSame, holds⟩
  · exact .inl fails
  · exact .inr ⟨value, last, ends, lastSame, weaker value holds⟩

/-- Whatever the first result is, the rest is silent. -/
theorem andThen (first : Silent objects (fun _ => True) computation)
    (rests : ∀ value, Silent objects next (rest value)) :
    Silent objects next (computation >>= rest) :=
  first.bind fun value _ => rests value

/-- The first result is known, so the rest is only of interest for that. -/
theorem known {value : α} (first : Silent objects (· = value) computation)
    (rests : Silent objects next (rest value)) : Silent objects next (computation >>= rest) :=
  first.bind fun _ same => same ▸ rests

theorem toObject (place : ObjectId) :
    Silent objects (· = place) (Run.toObject (.object place)) :=
  pure rfl

/-- A failure that has been kept may be followed by anything that fails in the end. -/
theorem attempt {onward : Except Abrupt α → Run β} (first : Silent objects good computation)
    (rests : ∀ value, good value → Silent objects next (onward (.ok value)))
    (fails : ∀ abrupt memory, ∃ final last,
      onward (.error abrupt) memory = .ends (.error final) last) :
    Silent objects next (computation.attempt >>= onward) := by
  intro memory same
  rcases first memory same with ⟨abrupt, last, ends⟩ | ⟨value, last, ends, lastSame, holds⟩
  · have goes : (computation.attempt >>= onward) memory = onward (.error abrupt) last :=
      congrArg (fun course => course.attempt.bind onward) ends
    rw [goes]
    exact .inl (fails abrupt last)
  · have goes : (computation.attempt >>= onward) memory = onward (.ok value) last :=
      congrArg (fun course => course.attempt.bind onward) ends
    rw [goes]
    exact rests value holds last lastSame

theorem modify {change : Memory → Memory}
    (keeps : ∀ memory, (change memory).objects = memory.objects) :
    Silent objects (fun _ => True) (Run.modify change) :=
  fun memory same => .inr ⟨(), change memory, rfl, (keeps memory).trans same, trivial⟩

theorem repeatUntil {σ : Type} {step : σ → Run (σ ⊕ α)}
    (steps : ∀ state, Silent objects (fun _ => True) (step state)) (count : Nat) (state : σ) :
    Silent objects (fun _ => True) (Run.repeatUntil step count state) := by
  induction count generalizing state with
  | zero => exact stop _
  | succ count ih =>
      refine (steps state).bind fun outcome _ => ?_
      cases outcome with
      | inl state => exact ih state
      | inr result => exact pure trivial

theorem forPositions {length : Nat} {state : α} {step : α → Nat → Run α}
    (steps : ∀ state position, Silent objects (fun _ => True) (step state position)) :
    Silent objects (fun _ => True) (Run.forPositions length state step) := by
  refine repeatUntil (fun ⟨position, state⟩ => ?_) _ _
  dsimp only
  split
  · exact pure trivial
  · exact (steps state position).bind fun _ _ => pure trivial

end Run.Silent

/-! ## Properties that are just there -/

/-- An object that stands before no other one. -/
def Kind.Direct : Kind → Prop
  | .proxy _ _ _ _ => False
  | _ => True

/-- An object has or inherits a property that holds a value, so that nothing runs when it is read.
A property that is missing holds nothing. -/
inductive Shows (objects : Array Object) (key : Key) : ObjectId → Value → Prop
  | own {place : ObjectId} {value : Value} {writable enumerable configurable : Bool} :
      (objectIn objects place).kind.Direct →
      Run.plainProperty? (objectIn objects place) key =
        some ⟨.data value writable, enumerable, configurable⟩ →
      Shows objects key place value
  | inherited {place parent : ObjectId} {value : Value} :
      (objectIn objects place).kind.Direct →
      Run.plainProperty? (objectIn objects place) key = none →
      (objectIn objects place).parent = some parent →
      Shows objects key parent value → Shows objects key place value
  | missing {place : ObjectId} :
      (objectIn objects place).kind.Direct →
      Run.plainProperty? (objectIn objects place) key = none →
      (objectIn objects place).parent = none → Shows objects key place .undefined

namespace Shows

variable {key : Key} {place : ObjectId} {value : Value}

theorem direct (shown : Shows objects key place value) :
    (objectIn objects place).kind.Direct := by
  cases shown <;> assumption

theorem getFrom (shown : Shows objects key place value) (machine : Machine) (receiver : Value)
    (steps : Nat) :
    Run.Silent objects (· = value) (Run.getFrom machine steps place key receiver) := by
  -- The search goes from parent to parent, one step for each, as what is shown does.
  induction steps generalizing place with
  | zero => exact .stop _
  | succ steps ih =>
      refine (Run.Silent.objectAt place).known ?_
      split
      · next kind => exact absurd shown.direct (by simp [kind, Kind.Direct])
      · cases shown with
        | own _ own =>
            simp only [own]
            exact .pure rfl
        | inherited _ lacking parent rest =>
            simp only [lacking, parent]
            exact ih rest
        | missing _ lacking root =>
            simp only [lacking, root]
            exact .pure rfl

theorem getOf (shown : Shows objects key place value) (machine : Machine) :
    Run.Silent objects (· = value) (Run.getOf machine place key) :=
  shown.getFrom machine _ _

end Shows

/-- Whether objects of a kind can be called. -/
def Kind.callable : Kind → Bool
  | .function _ => true
  | .proxy _ _ calls _ => calls
  | _ => false

theorem Run.Silent.isCallable (place : ObjectId) :
    Silent objects (· = (objectIn objects place).kind.callable)
      (Run.isCallable (.object place)) := by
  refine (objectAt place).known ?_
  generalize (objectIn objects place).kind = kind
  cases kind <;> exact pure rfl

/-! ## Tables -/

instance : LawfulBEq Text.Units where
  eq_of_beq {first second} same := by
    have equal : (first.units == second.units) = true := same
    exact congrArg Text.Units.mk (eq_of_beq equal)
  rfl {text} := beq_self_eq_true text.units

instance : LawfulBEq Key where
  eq_of_beq {first second} same := by
    cases first <;> cases second <;> first
      | exact absurd same (by decide)
      | exact congrArg _ (eq_of_beq same)
      | contradiction
  rfl {key} := by
    cases key with
    | index position => exact beq_self_eq_true position
    | name text => exact beq_self_eq_true text
    | symbol number => exact beq_self_eq_true number
    | hidden number => exact beq_self_eq_true number

namespace Table

variable {key wanted : Key} {property : Property} {table : Table}

theorem get?_empty : Table.empty.get? wanted = none := by
  simp [Table.get?, Table.empty]

theorem get?_put_self : (table.put wanted property).get? wanted = some property := by
  simp only [Table.put, Table.get?]
  cases found : table.entries.get? wanted <;> simp

theorem get?_put_of_ne (other : wanted ≠ key) :
    (table.put key property).get? wanted = table.get? wanted := by
  have differs : (key == wanted) = false := by simpa using Ne.symm other
  simp only [Table.put, Table.get?]
  cases found : table.entries.get? key <;> simp [Std.HashMap.getElem?_insert, differs]

end Table

/-! ## Functions of the library -/

/-- An object is a function of the library, and this is what it does. -/
def Finds (natives : Array Native) (objects : Array Object) (place : ObjectId)
    (run : Given → Run Value) : Prop :=
  ∃ number creates fields native,
    (objectIn objects place).kind = .function ⟨.native number, creates, none, fields⟩ ∧
    natives[number]? = some native ∧
    native.run = fun machine self arguments newTarget => run ⟨machine, self, arguments, newTarget⟩

variable {natives : Array Native} {deeper : Machine}

/-- The function does what it does, on the levels that are left below the call. -/
theorem Finds.call_eq {memory : Memory} {place : ObjectId} {run : Given → Run Value}
    (finds : Finds natives memory.objects place run) (levels : Nat) (self : Value)
    (arguments : List Value) :
    (Machine.within natives deeper (levels + 1)).call (.object place) self arguments memory =
      run ⟨Machine.within natives deeper levels, self, arguments, .undefined⟩ memory := by
  obtain ⟨number, creates, fields, native, kind, listed, run_eq⟩ := finds
  let machine := Machine.within natives deeper levels
  change Run.callValue natives deeper machine (.object place) self arguments memory = _
  have looked (rest : Object → Run Value) :
      (Run.objectAt place >>= rest) memory = rest (objectIn memory.objects place) memory := rfl
  rw [Run.callValue, looked]
  simp only [kind, listed, run_eq]
  rfl

theorem Finds.silent_call {place : ObjectId} {run : Given → Run Value}
    (finds : Finds natives objects place run) {self : Value} {arguments : List Value}
    {good : Value → Prop}
    (runs : ∀ levels, Run.Silent objects good
      (run ⟨Machine.within natives deeper levels, self, arguments, .undefined⟩)) (levels : Nat) :
    Run.Silent objects good
      ((Machine.within natives deeper levels).call (.object place) self arguments) := by
  cases levels with
  | zero => exact .stop _
  | succ levels =>
      intro memory same
      subst same
      rw [finds.call_eq]
      exact runs levels memory rfl

namespace Library

open Run

def functionToString (given : Given) : Run Value := do
  match ← callbackOf given.self with
  | .object place => return .text (← functionText given.machine place)
  | _ => nothing

/-- The texts of the values of an array, with a text between each two. -/
def arrayJoin (given : Given) : Run Value := do
  let place ← toObject given.self
  let between ← match given.first with
    | .undefined => pure (Units.ofString ",")
    | value => toText given.machine value
  return .text (← joinedOnce given place between)

def arrayToString (given : Given) : Run Value := do
  let place ← toObject given.self
  let method ← getOf given.machine place "join"
  if ← isCallable method then given.machine.call method (.object place) []
  else kindText given.machine given.self

def objectToString (given : Given) : Run Value := kindText given.machine given.self

/-- The object itself. -/
def objectValueOf (given : Given) : Run Value := do return .object (← toObject given.self)

end Library

/-! ## Conversions -/

/-- A value that is no object. -/
def Value.Primitive : Value → Prop
  | .object _ => False
  | _ => True

namespace Run.Silent

variable {machine : Machine} {value : Value}

theorem textOf (value : Value) : Silent objects (fun _ => True) (Run.textOf value) := by
  cases value with
  | symbol number => exact raise _ _
  | _ => exact pure trivial

theorem numberOf (value : Value) : Silent objects (fun _ => True) (Run.numberOf value) := by
  cases value with
  | whole number => exact raise _ _
  | symbol number => exact raise _ _
  | _ => exact pure trivial

theorem toPrimitive_primitive (primitive : value.Primitive) (hint : Hint) :
    Silent objects (fun _ => True) (Run.toPrimitive machine value hint) := by
  cases value with
  | object place => exact primitive.elim
  | _ => exact pure trivial

theorem toText_primitive (primitive : value.Primitive) :
    Silent objects (fun _ => True) (Run.toText machine value) := by
  cases value with
  | object place => exact primitive.elim
  | text text => exact pure trivial
  | _ => exact (toPrimitive_primitive primitive .text).bind fun _ _ => textOf _

theorem toNumber_primitive (primitive : value.Primitive) :
    Silent objects (fun _ => True) (Run.toNumber machine value) := by
  cases value with
  | object place => exact primitive.elim
  | number number => exact pure trivial
  | _ => exact (toPrimitive_primitive primitive .number).bind fun _ _ => numberOf _

end Run.Silent

/-- Something like an array, whose length and items are just there and primitive. -/
structure Listed (objects : Array Object) (place : ObjectId) : Prop where
  length : ∃ length, Shows objects "length" place length ∧ length.Primitive
  item : ∀ position, ∃ item, Shows objects (.index position) place item ∧ item.Primitive

/-- A method of the library by which an object is converted: the one of functions, of arrays, of all
objects or of texts, with what it reads on the way. -/
inductive Tame (natives : Array Native) (objects : Array Object) (place : ObjectId) :
    ObjectId → Prop
  | function {method : ObjectId} {name : Value} :
      Finds natives objects method Library.functionToString → Shows objects "name" place name →
      Tame natives objects place method
  | array {method join : ObjectId} :
      Finds natives objects method Library.arrayToString →
      Shows objects "join" place (.object join) → Finds natives objects join Library.arrayJoin →
      Listed objects place → Tame natives objects place method
  | object {method : ObjectId} {tag : Value} :
      Finds natives objects method Library.objectToString →
      Shows objects WellKnown.toStringTag.key place tag → Tame natives objects place method
  | itself {method : ObjectId} :
      Finds natives objects method Library.objectValueOf → Tame natives objects place method
  | text {method : ObjectId} :
      Finds natives objects method Library.exactText → Tame natives objects place method

/-- An object that the library alone converts.  It says nothing about how it wants to be converted,
and of the methods that are tried instead, those that can be called are the library's. -/
structure Unaided (natives : Array Native) (objects : Array Object) (place : ObjectId) : Prop where
  preference : ∃ value, Shows objects WellKnown.toPrimitive.key place value ∧
    (value = .undefined ∨ value = .null)
  method : ∀ name ∈ ["toString", "valueOf"], ∃ value, Shows objects name place value ∧
    ∀ method, value = .object method → (objectIn objects method).kind.callable = true →
      Tame natives objects place method

/-- A primitive value, or an object that the library alone converts. -/
def Ordinary (natives : Array Native) (objects : Array Object) : Value → Prop
  | .object place => Unaided natives objects place
  | _ => True

namespace Listed

open Run

variable {place : ObjectId} (listed : Listed objects place)

include listed

theorem silent_lengthLike (machine : Machine) :
    Silent objects (fun _ => True) (lengthLike machine place) := by
  obtain ⟨length, shown, primitive⟩ := listed.length
  refine (shown.getOf machine).known ?_
  have number : Silent objects (fun _ => True) (toWholeNumber machine length) :=
    (Silent.toNumber_primitive primitive).bind fun _ _ => .pure trivial
  exact number.bind fun _ _ => .pure trivial

theorem silent_joined (given : Given) (between : Units) :
    Silent objects (fun _ => True) (Library.joined given place between) := by
  refine (listed.silent_lengthLike given.machine).bind fun length _ => ?_
  refine .andThen (.forPositions fun texts position => ?_) fun _ => .pure trivial
  obtain ⟨item, shown, primitive⟩ := listed.item position
  refine (shown.getOf given.machine).known ?_
  split
  · exact .pure trivial
  · exact .pure trivial
  · exact (Silent.toText_primitive primitive).bind fun _ _ => .pure trivial

theorem silent_joinedOnce (given : Given) (between : Units) :
    Silent objects (fun _ => True) (Library.joinedOnce given place between) := by
  refine (Silent.look _).bind fun writing _ => ?_
  split
  · exact .pure trivial
  · refine Silent.bind (.modify ?_) fun _ _ => ?_
    · exact fun _ => rfl
    refine (listed.silent_joined given between).attempt (fun text _ => ?_) fun abrupt memory => ?_
    · refine Silent.bind (.modify ?_) fun _ _ => .pure trivial
      exact fun _ => rfl
    · exact ⟨abrupt, _, rfl⟩

end Listed

/-! ## Methods -/

section Methods

open Run

variable {place : ObjectId} (machine : Machine)

theorem Finds.callable {run : Given → Run Value} (finds : Finds natives objects place run) :
    (objectIn objects place).kind.callable = true := by
  obtain ⟨number, creates, fields, native, kind, -⟩ := finds
  rw [kind]
  rfl

theorem Shows.silent_kindText {tag : Value}
    (shown : Shows objects WellKnown.toStringTag.key place tag) :
    Silent objects (fun _ => True) (Library.kindText machine (.object place)) := by
  refine (Silent.toObject place).known ((Silent.objectAt place).known ?_)
  refine (shown.getOf machine).bind fun value _ => ?_
  cases value <;> exact .pure trivial

theorem silent_isCallable (value : Value) :
    Silent objects (fun callable => callable = true → ∃ method, value = .object method ∧
      (objectIn objects method).kind.callable = true) (isCallable value) := by
  cases value with
  | object place =>
      exact (Silent.isCallable place).mono fun _ same holds => ⟨place, rfl, same ▸ holds⟩
  | _ => exact .pure nofun

theorem silent_callbackOf (place : ObjectId) :
    Silent objects (· = .object place) (callbackOf (.object place)) := by
  refine (Silent.isCallable place).bind fun callable _ => ?_
  cases callable
  · exact .raise _ _
  · exact .pure rfl

theorem Shows.silent_functionText {name : Value} (shown : Shows objects "name" place name) :
    Silent objects (fun _ => True) (Library.functionText machine place) := by
  have named : Silent objects (fun _ => True) (Library.functionName machine place) := by
    refine (shown.getOf machine).bind fun value _ => ?_
    cases value <;> exact .pure trivial
  refine (Silent.objectAt place).bind fun object _ => ?_
  split
  · refine (Silent.look _).bind fun code _ => ?_
    split
    · exact .pure trivial
    · exact named.bind fun _ _ => .pure trivial
  · exact .pure trivial
  · exact .pure trivial
  · exact named.bind fun _ _ => .pure trivial

variable (deeper : Machine) (levels : Nat)

theorem Tame.silent_call {method : ObjectId} (tame : Tame natives objects place method) :
    Silent objects (fun _ => True)
      ((Machine.within natives deeper levels).call (.object method) (.object place) []) := by
  -- A method runs on the levels below its call, and may be called on any level.
  cases tame with
  | function finds named =>
      refine finds.silent_call (fun levels => ?_) levels
      refine (silent_callbackOf place).known ?_
      exact (named.silent_functionText _).bind fun _ _ => .pure trivial
  | @array join finds shown joins listed =>
      refine finds.silent_call (fun levels => ?_) levels
      refine (Silent.toObject place).known ((shown.getOf _).known ?_)
      refine (Silent.isCallable join).known ?_
      rw [joins.callable]
      refine joins.silent_call (fun levels => ?_) levels
      refine (Silent.toObject place).known ?_
      exact (listed.silent_joinedOnce _ _).bind fun _ _ => .pure trivial
  | object finds shown =>
      exact finds.silent_call (fun levels => shown.silent_kindText _) levels
  | itself finds =>
      refine finds.silent_call (fun levels => ?_) levels
      exact (Silent.toObject place).bind fun _ _ => .pure trivial
  | text finds =>
      refine finds.silent_call (fun levels => ?_) levels
      refine (Silent.objectAt place).bind fun object _ => ?_
      split
      · exact .pure trivial
      · exact .raise _ _

theorem Unaided.silent_firstPrimitive (unaided : Unaided natives objects place)
    {names : List String} (known : names ⊆ ["toString", "valueOf"]) :
    Silent objects (fun _ => True)
      (firstPrimitive (Machine.within natives deeper levels) place names) := by
  induction names with
  | nil => exact .raise _ _
  | cons name names ih =>
      obtain ⟨first, others⟩ := List.cons_subset.mp known
      obtain ⟨value, shown, tame⟩ := unaided.method name first
      have rest := ih others
      refine (shown.getOf _).known ?_
      refine (silent_isCallable value).bind fun callable calls => ?_
      split
      · next isTrue =>
          obtain ⟨method, rfl, callable⟩ := calls isTrue
          refine ((tame method rfl callable).silent_call deeper levels).bind fun answer _ => ?_
          split
          · exact rest
          · exact .pure trivial
      · exact rest

theorem Unaided.silent_toPrimitive (unaided : Unaided natives objects place) (hint : Hint) :
    Silent objects (fun _ => True)
      (toPrimitive (Machine.within natives deeper levels) (.object place) hint) := by
  obtain ⟨preference, shown, missing⟩ := unaided.preference
  have undecided : Silent objects (· = none)
      (method? (Machine.within natives deeper levels) (.object place)
        WellKnown.toPrimitive.key) := by
    have read (steps : Nat) := shown.getFrom (Machine.within natives deeper levels) (.object place)
      steps
    refine (read _).known ?_
    rcases missing with rfl | rfl <;> exact .pure rfl
  refine undecided.known ?_
  refine unaided.silent_firstPrimitive deeper levels ?_
  split <;> simp

variable {value : Value}

/-- A value that is converted by the library alone becomes a text without anybody noticing. -/
theorem Ordinary.silent_toText (ordinary : Ordinary natives objects value) :
    Silent objects (fun _ => True)
      (toText (Machine.within natives deeper levels) value) := by
  cases value with
  | object place =>
      have primitive := Unaided.silent_toPrimitive deeper levels ordinary .text
      exact primitive.bind fun _ _ => .textOf _
  | _ => exact .toText_primitive trivial

theorem Ordinary.silent_toNumber (ordinary : Ordinary natives objects value) :
    Silent objects (fun _ => True)
      (toNumber (Machine.within natives deeper levels) value) := by
  cases value with
  | object place =>
      have primitive := Unaided.silent_toPrimitive deeper levels ordinary .number
      exact primitive.bind fun _ _ => .numberOf _
  | _ => exact .toNumber_primitive trivial

end Methods

end PageWatch.Script
