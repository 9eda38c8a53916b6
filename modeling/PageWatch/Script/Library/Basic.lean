import PageWatch.Script.Call

/-!
# The library of scripts

What the functions that every script finds have in common: where they are kept and what
they are told.
-/

namespace PageWatch.Script

open Text

/-- How many objects every script finds at places known in advance, besides their
constructors. -/
def Intrinsic.count : Nat := Intrinsic.document.place + 1

/-- The place of the constructor of a type of objects. -/
def Intrinsic.constructor (intrinsic : Intrinsic) : ObjectId :=
  Intrinsic.count + intrinsic.place

/-- What a function of the library is told: the value of `this`, the arguments, and the
constructor that was asked for if it is to create an object. -/
structure Given where
  machine : Machine
  self : Value
  arguments : List Value
  newTarget : Value

namespace Given

def argument (given : Given) (position : Nat) : Value :=
  (given.arguments[position]?).getD .undefined

def first (given : Given) : Value := given.argument 0

def second (given : Given) : Value := given.argument 1

def has (given : Given) (position : Nat) : Bool := position < given.arguments.length

def creates (given : Given) : Bool :=
  match given.newTarget with
  | .undefined => false
  | _ => true

end Given

/-- Something that a script finds in the library. -/
inductive Entry where
  /-- A function, kept under a key of an object. -/
  | method (holder : ObjectId) (key : Key) (length : Nat) (run : Given → Run Value)
  /-- A function that reads a property, and one that writes it. -/
  | accessor (holder : ObjectId) (key : Key) (getter : Given → Run Value)
      (setter : Option (Given → Run Value))
  /-- An object that every script finds is a function itself. -/
  | callable (intrinsic : Intrinsic) (length : Nat) (run : Given → Run Value)
  /-- A value that never changes. -/
  | constant (holder : ObjectId) (key : Key) (value : Value)
  /-- A value that can be replaced. -/
  | changeable (holder : ObjectId) (key : Key) (value : Value) (enumerable : Bool)
  /-- A constructor of a type of objects, known by its name. -/
  | constructor (intrinsic : Intrinsic) (name : String) (length : Nat) (run : Given → Run Value)
  /-- The same function under another key. -/
  | also (holder : ObjectId) (key : Key) (source : ObjectId) (sourceKey : Key)

namespace Entry

/-- Functions of an object, each with its name, its length and what it does. -/
def methods (holder : ObjectId) (functions : List (String × Nat × (Given → Run Value))) :
    List Entry :=
  functions.map fun (name, length, run) => .method holder (.ofString name) length run

/-- Numbers that never change. -/
def numbers (holder : ObjectId) (values : List (String × Float)) : List Entry :=
  values.map fun (name, value) => .constant holder (.ofString name) (.number value)

end Entry

namespace Run

/-- Calls an argument, which must be a function. -/
def callbackOf (value : Value) : Run Value := do
  if ← isCallable value then return value else typeError "not a callable function"

def objectOf (value : Value) (message : String) : Run ObjectId :=
  match value with
  | .object place => return place
  | _ => typeError message

def textValue (text : String) : Run Value := return .text text

def natValue (number : Nat) : Run Value := return countValue number

def nothing : Run Value := return .undefined

/-- Repeats a step for the positions below a length. -/
def forPositions {α : Type} (length : Nat) (state : α) (step : α → Nat → Run α) : Run α :=
  repeated (fun (position, state) => do
    if length ≤ position then return .inr state
    return .inl (position + 1, ← step state position)) ((0, state) : Nat × α)

/-- The first result of a step for the positions below a length. -/
def firstPosition? {α : Type} (length : Nat) (step : Nat → Run (Option α)) : Run (Option α) :=
  repeated (fun position => do
    if length ≤ position then return .inr none
    match ← step position with
    | some result => return .inr (some result)
    | none => return .inl (position + 1)) 0

/-- The first result of a step for the positions below a length, the last first. -/
def lastPosition? {α : Type} (length : Nat) (step : Nat → Run (Option α)) : Run (Option α) :=
  repeated (fun position => do
    if position == 0 then return .inr none
    match ← step (position - 1) with
    | some result => return .inr (some result)
    | none => return .inl (position - 1)) length

end Run

end PageWatch.Script
