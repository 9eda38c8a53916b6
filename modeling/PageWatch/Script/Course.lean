import PageWatch.Script.Memory
import PageWatch.Wait.Condition

/-!
# Courses of computations

A script computes in memory, and now and then asks its host for something: to wait for
conditions, to print, to change the document. What a computation does is therefore a
tree. It ends, with a result or because something was thrown; or it asks, and what
comes next depends on the reply; or it is a generator that pauses; or it makes a
generator go on. The host is not part of the tree, so a fact about all courses holds of
every script.
-/

namespace PageWatch.Script

open Text

/-- What a script asks its host for. -/
inductive Request where
  /-- Calls an object once conditions hold, one after the other. -/
  | wait (conditions : List PageCondition) (callback : ObjectId)
  /-- Calls an object after some milliseconds. -/
  | timeout (delayMs : Nat) (callback : ObjectId)
  | print (line : String)
  | load (source : String)
  | setValue (selector text : String)
  deriving Repr, Inhabited

/-- What a host replies. -/
inductive Reply where
  | done
  /-- All conditions hold already, so the callback is due now. -/
  | due
  | counted (number : Nat)
  | refused (text : String)
  deriving Repr, Inhabited

/-- Why a computation ends before its result. -/
inductive Abrupt where
  | thrown (value : Value)
  /-- A generator that has paused is told to return. -/
  | returning (value : Value)
  /-- A function waits for something that never comes. -/
  | waiting
  /-- The computation took more steps than it may. -/
  | exhausted
  deriving Inhabited, Repr

/-- What a generator that has paused is told. -/
inductive Resumption where
  | next (value : Value)
  | throw (value : Value)
  | return (value : Value)
  deriving Inhabited, Repr

/-- The course of a computation. -/
inductive Course (α : Type) where
  | ends (result : Except Abrupt α) (memory : Memory)
  | asks (memory : Memory) (request : Request) (next : Memory → Reply → Course α)
  /-- A generator goes on. It answers a value and whether it has finished. -/
  | resumes (memory : Memory) (generator : ObjectId) (message : Resumption)
      (next : Memory → Except Abrupt (Value × Bool) → Course α)
  | pauses (memory : Memory) (value : Value) (next : Memory → Resumption → Course α)

/-- A computation: its course depends on the memory that it starts with. -/
def Run (α : Type) : Type := Memory → Course α

instance {α : Type} : Inhabited (Run α) := ⟨fun memory => .ends (.error .exhausted) memory⟩

namespace Course

variable {α β : Type}

/-- Goes on with another computation after the result. -/
def bind (course : Course α) (rest : α → Run β) : Course β :=
  match course with
  | ends (.ok result) memory => rest result memory
  | ends (.error abrupt) memory => ends (.error abrupt) memory
  | asks memory request next => asks memory request fun memory reply =>
      (next memory reply).bind rest
  | resumes memory generator message next => resumes memory generator message
      fun memory answer => (next memory answer).bind rest
  | pauses memory value next => pauses memory value fun memory message =>
      (next memory message).bind rest

/-- Keeps the way in which a computation ends as its result. -/
def attempt : Course α → Course (Except Abrupt α)
  | ends result memory => ends (.ok result) memory
  | asks memory request next => asks memory request fun memory reply =>
      (next memory reply).attempt
  | resumes memory generator message next => resumes memory generator message
      fun memory answer => (next memory answer).attempt
  | pauses memory value next => pauses memory value fun memory message =>
      (next memory message).attempt

end Course

namespace Run

variable {α : Type}

instance : Monad Run where
  pure result := fun memory => .ends (.ok result) memory
  bind computation rest := fun memory => (computation memory).bind rest

/-- Ends with something else than a result. -/
def stop (abrupt : Abrupt) : Run α := fun memory => .ends (.error abrupt) memory

def throwValue (value : Value) : Run α := stop (.thrown value)

/-- Keeps the way in which a computation ends as its result. -/
def attempt (computation : Run α) : Run (Except Abrupt α) :=
  fun memory => (computation memory).attempt

def resumeWith : Except Abrupt α → Run α
  | .ok result => pure result
  | .error abrupt => stop abrupt

def look (view : Memory → α) : Run α := fun memory => .ends (.ok (view memory)) memory

def modify (change : Memory → Memory) : Run Unit :=
  fun memory => .ends (.ok ()) (change memory)

def update (change : Memory → α × Memory) : Run α := fun memory =>
  let (result, memory) := change memory
  .ends (.ok result) memory

def ask (request : Request) : Run Reply := fun memory =>
  .asks memory request fun memory reply => .ends (.ok reply) memory

def resume (generator : ObjectId) (message : Resumption) : Run (Value × Bool) :=
  fun memory => .resumes memory generator message fun memory answer => .ends answer memory

/-- Pauses with a value, up to the next message. -/
def pause (value : Value) : Run Resumption := fun memory =>
  .pauses memory value fun memory message => .ends (.ok message) memory

/-- Repeats a step until it has a result. The number bounds the repetitions. -/
def repeatUntil {σ : Type} (step : σ → Run (σ ⊕ α)) : Nat → σ → Run α
  | 0, _ => stop .exhausted
  | count + 1, state => do
    match ← step state with
    | .inl state => repeatUntil step count state
    | .inr result => pure result

/-- More repetitions than a script can live to see. -/
def manyRounds : Nat := 1000000000000

/-- Repeats a step until it has a result. -/
def repeated {σ : Type} (step : σ → Run (σ ⊕ α)) (state : σ) : Run α :=
  repeatUntil step manyRounds state

end Run

/-- Where in a script something is evaluated. -/
structure Here where
  scope : ScopeId
  strict : Bool
  deriving Inhabited, Repr

/-- How a statement ends. -/
inductive Completion where
  | normal
  | returned (value : Value)
  | broken (label : Option String)
  | continued (label : Option String)
  deriving Inhabited, Repr

/-- What happens to the names of a pattern. -/
inductive Purpose where
  /-- They get another value. -/
  | assign
  /-- They get their first value. -/
  | introduce
  deriving DecidableEq, Inhabited, Repr

/-- The operations that refer to each other: calling an object, creating objects with
it, and what expressions, patterns and statements do. Each of them nests less deeply
than the operation that it belongs to. -/
structure Machine where
  call : Value → Value → List Value → Run Value
  /-- Creates an object with a constructor. The last value is the constructor that was
  asked for, which can be one that extends the first. -/
  create : Value → List Value → Value → Run Value
  evaluate : Here → Expr → Run Value
  /-- Evaluates an expression whose value is kept under a name, which functions and
  classes without a name of their own take. -/
  evaluateNamed : Here → Units → Expr → Run Value
  /-- The value of an expression with the value that it is a member of, unless an optional
  link in it leads nowhere. -/
  link : Here → Expr → Run (Option (Value × Value))
  place : Here → Purpose → Pattern → Value → Run Unit
  execute : Here → Statement → Run Completion

/-- The operations beyond the deepest level. -/
def Machine.exhausted : Machine where
  call := fun _ _ _ => Run.stop .exhausted
  create := fun _ _ _ => Run.stop .exhausted
  evaluate := fun _ _ => Run.stop .exhausted
  evaluateNamed := fun _ _ _ => Run.stop .exhausted
  link := fun _ _ => Run.stop .exhausted
  place := fun _ _ _ _ => Run.stop .exhausted
  execute := fun _ _ => Run.stop .exhausted

/-- The objects that every script finds in memory, at places known in advance. -/
inductive Intrinsic where
  | global
  | object | function | array | text | number | whole | boolean | symbol
  | error | typeError | rangeError | referenceError | syntaxError | evalError | uriError
  | aggregateError
  | iterator | arrayIterator | generator
  | map | set | weakMap | weakSet | promise
  /-- The function that tells a promise its value. -/
  | settle
  | regex
  /-- Where iterators over matches inherit from. -/
  | matchIterator
  | date
  | math | json | reflect | proxy | console | document
  deriving DecidableEq, Inhabited, Repr

/-- The place of an object that every script finds: for types of objects, of the one
that theirs inherit from. -/
def Intrinsic.place (intrinsic : Intrinsic) : ObjectId := intrinsic.ctorIdx

/-- The symbols that every script finds. -/
inductive WellKnown where
  | iterator | asyncIterator | hasInstance | toPrimitive | toStringTag | species
  | isConcatSpreadable | unscopables | matching | matchAll | replace | search | split
  deriving DecidableEq, Inhabited, Repr

/-- The number of a symbol that every script finds. -/
def WellKnown.number (symbol : WellKnown) : Nat := symbol.ctorIdx

def WellKnown.key (symbol : WellKnown) : Key := .symbol symbol.number

namespace Run

/-- What a view shows of the object at a place. Only that is kept, so that the object
can be changed where it is. -/
def lookAt {α : Type} (place : ObjectId) (view : Object → α) : Run α := look fun memory =>
  view ((memory.objects[place]?).getD default)

def objectAt (place : ObjectId) : Run Object := lookAt place id

def addObject (kind : Kind) (parent : Option ObjectId) : Run ObjectId :=
  update (Memory.addObject ⟨kind, parent, .empty, true⟩)

def modifyObject (place : ObjectId) (change : Object → Object) : Run Unit :=
  modify (Memory.modifyObject place change)

def setKind (place : ObjectId) (kind : Kind) : Run Unit :=
  modifyObject place fun object => { object with kind }

/-- Gives an object a property, whatever the object is. -/
def putProperty (place : ObjectId) (key : Key) (property : Property) : Run Unit :=
  modifyObject place fun object => { object with table := object.table.put key property }

def raise {α : Type} (kind : Intrinsic) (message : String) : Run α := do
  let place ← addObject .error (some kind.place)
  putProperty place "message" (.quiet (.text message))
  throwValue (.object place)

/-- Throws an error about a value of the wrong type. -/
def typeError {α : Type} (message : String) : Run α := raise .typeError message

/-- Throws an error about a value out of bounds. -/
def rangeError {α : Type} (message : String) : Run α := raise .rangeError message

end Run

end PageWatch.Script
