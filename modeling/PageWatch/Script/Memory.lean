import Std.Data.HashMap
import PageWatch.Script.Number
import PageWatch.Script.Syntax

/-!
# The memory of a script

The values that a script computes with, the objects among them, which have properties
and can be changed, and the scopes that hold its names. Objects and scopes are known by
their places in memory; nothing is ever removed.
-/

namespace PageWatch.Script

open Text

/-- The place of an object in memory. -/
abbrev ObjectId := Nat

/-- The place of a scope in memory. -/
abbrev ScopeId := Nat

/-- A value of a script. -/
inductive Value where
  | undefined
  | null
  | boolean (value : Bool)
  | number (value : Float)
  | whole (value : Int)
  | text (value : Units)
  | symbol (number : Nat)
  | object (place : ObjectId)
  deriving Inhabited, Repr

/-- The name of a property. -/
inductive Key where
  /-- A position in an array. -/
  | index (position : Nat)
  | name (text : Units)
  | symbol (number : Nat)
  /-- The name of a hidden member, different for every class. -/
  | hidden (number : Nat)
  deriving BEq, DecidableEq, Hashable, Inhabited, Repr

namespace Key

/-- The digits of a position in an array, read as a number. -/
def position? (text : Units) : Option Nat :=
  let units := text.units
  if units.size == 0 || 10 < units.size then none
  else if !units.all (fun unit => 48 ≤ unit && unit ≤ 57) then none
  else if units[0]? == some 48 then (if units.size == 1 then some 0 else none)
  else
    let position := units.foldl (fun value unit => value * 10 + (unit.toNat - 48)) 0
    if position < 4294967295 then some position else none

def ofText (text : Units) : Key :=
  match position? text with
  | some position => .index position
  | none => .name text

def ofString (text : String) : Key := ofText text

instance : Coe String Key := ⟨ofString⟩

def text? : Key → Option Units
  | .index position => some (toString position)
  | .name text => some text
  | .symbol _ | .hidden _ => none

end Key

/-- What a property holds. -/
inductive Slot where
  | data (value : Value) (writable : Bool)
  /-- Functions that are called when the property is read or written, if there are. -/
  | accessor (getter setter : Option ObjectId)
  deriving Inhabited, Repr

/-- A property of an object. -/
structure Property where
  slot : Slot
  enumerable : Bool
  configurable : Bool
  deriving Inhabited, Repr

/-- A property that everything can be done with. -/
def Property.ofValue (value : Value) : Property := ⟨.data value true, true, true⟩

/-- A property that does not show when an object is gone through. -/
def Property.quiet (value : Value) : Property := ⟨.data value true, false, true⟩

/-- The properties of an object, each with a number that grows with time. -/
structure Table where
  entries : Std.HashMap Key (Nat × Property)
  count : Nat
  deriving Inhabited

namespace Table

/-- No properties. -/
def empty : Table := ⟨∅, 0⟩

def get? (key : Key) (table : Table) : Option Property :=
  (table.entries.get? key).map (·.2)

/-- The table with a property. If there was one of that name, the new one takes its
place in the order. -/
def put (key : Key) (property : Property) (table : Table) : Table :=
  match table.entries.get? key with
  | some (number, _) => { table with entries := table.entries.insert key (number, property) }
  | none => ⟨table.entries.insert key (table.count, property), table.count + 1⟩

/-- The table without a property. -/
def erase (key : Key) (table : Table) : Table :=
  { table with entries := table.entries.erase key }

/-- The names of the properties: positions in ascending order, then texts, then symbols,
both in the order in which they came. Hidden ones are left out. -/
def keys (table : Table) : List Key :=
  let all := table.entries.toList
  let positions := (all.filterMap fun (key, _) =>
    match key with
    | .index position => some position
    | _ => none).mergeSort (· ≤ ·)
  let inOrder (wanted : Key → Bool) : List Key :=
    ((all.filter fun (key, _) => wanted key).mergeSort fun (_, first, _) (_, second, _) =>
      first ≤ second).map (·.1)
  positions.map Key.index ++
    inOrder (fun
      | .name _ => true
      | _ => false) ++
    inOrder (fun
      | .symbol _ => true
      | _ => false)

end Table

/-- What happens when an object is called. -/
inductive Callable where
  /-- A function of the script runs, in a scope. Its home is where `super` starts from. -/
  | closure (code : CodeNumber) (scope : ScopeId) (home : Option ObjectId)
  /-- An object of a class that says nothing about that is created. -/
  | creator (derived : Bool)
  /-- A function of the library runs. -/
  | native (number : Nat)
  /-- Another object is called, with arguments before those given. -/
  | bound (target : ObjectId) (self : Value) (arguments : List Value)
  deriving Inhabited, Repr

/-- How the objects of a class get a member. -/
inductive FieldKind where
  /-- A function gives its value. -/
  | computed
  /-- A function is its value. -/
  | method
  | getter
  | setter
  deriving DecidableEq, Inhabited, Repr

/-- A member that each object of a class gets for itself: its name and its function. -/
structure Field where
  key : Key
  kind : FieldKind
  function : ObjectId
  deriving Inhabited, Repr

/-- An object that can be called. -/
structure Function where
  callable : Callable
  /-- Whether it creates objects. -/
  creates : Bool
  /-- Whether it belongs to a class, and if so, whether the class extends another. -/
  ofClass : Option Bool
  fields : List Field
  deriving Inhabited, Repr

/-- What an iterator goes through. -/
inductive Sequence where
  /-- The positions of an object and the values there, or one of both. -/
  | positions (source : ObjectId) (next : Nat) (wanted : Bool × Bool)
  /-- The code points of a text. -/
  | codePoints (rest : List Nat)
  /-- The keys and the values of a map or a set, or one of both. -/
  | entries (source : ObjectId) (next : Nat) (wanted : Bool × Bool)
  | finished
  deriving Inhabited, Repr

/-- How far a generator has come. -/
inductive Phase where
  | fresh | suspended | running | finished
  deriving DecidableEq, Inhabited, Repr

/-- What kind of object an object is. -/
inductive Kind where
  | plain
  | array
  | function (function : Function)
  | error
  /-- A value that has been made an object. -/
  | wrapper (value : Value)
  | arguments
  | promise
  /-- A regular expression and what was written of it. -/
  | regex (source : Units) (rule : Regex.Rule)
  /-- A date and its instant, if it has one. -/
  | date (instant : Option Int)
  /-- Keys with values; what has been removed leaves a gap. -/
  | map (entries : Array (Option (Value × Value)))
  | set (entries : Array (Option (Value × Value)))
  | iterator (sequence : Sequence)
  /-- A function that can pause, and the scope in which it runs. -/
  | generator (code : CodeNumber) (scope : ScopeId) (phase : Phase)
  /-- An object that stands before another and asks a handler how to behave. -/
  | proxy (target handler : ObjectId) (calls creates : Bool)
  deriving Inhabited, Repr

structure Object where
  kind : Kind
  /-- The object from which it inherits. -/
  parent : Option ObjectId
  table : Table
  extensible : Bool
  deriving Inhabited

/-- What a name stands for. -/
structure Binding where
  /-- Its value, once it has one. -/
  value : Option Value
  /-- Whether it can have another value. -/
  constant : Bool
  /-- Whether giving it another value is ignored instead of being an error. -/
  ignored : Bool := false
  deriving Inhabited, Repr

/-- A call in progress. -/
structure Frame where
  /-- The value of `this`, once it has one. -/
  self : Option Value
  function : Option ObjectId
  home : Option ObjectId
  newTarget : Value
  deriving Inhabited, Repr

/-- Names in force somewhere, in addition to those of another scope. -/
structure Scope where
  bindings : List (String × Binding)
  parent : Option ScopeId
  /-- The call that the scope belongs to, if it is the outermost of one. -/
  frame : Option Frame
  /-- Whether names declared for a whole function are found here. -/
  holdsVariables : Bool
  deriving Inhabited, Repr

/-- The memory of a script. -/
structure Memory where
  codes : Array Code
  objects : Array Object
  scopes : Array Scope
  /-- The descriptions of symbols. -/
  symbols : Array (Option Units)
  /-- How many names of hidden members there are. -/
  hidden : Nat
  /-- The symbols that are known by texts. -/
  registry : List (Units × Nat)
  /-- The objects whose texts are being put together, so that an object which contains
  itself has a text. -/
  writing : List ObjectId
  deriving Inhabited

namespace Memory

/-- The memory of a script before anything is in it. -/
def empty (codes : Array Code) : Memory := ⟨codes, #[], #[], #[], 0, [], []⟩

def addObject (object : Object) (memory : Memory) : ObjectId × Memory :=
  (memory.objects.size, { memory with objects := memory.objects.push object })

def modifyObject (place : ObjectId) (change : Object → Object) (memory : Memory) : Memory :=
  { memory with objects := memory.objects.modify place change }

def addScope (scope : Scope) (memory : Memory) : ScopeId × Memory :=
  (memory.scopes.size, { memory with scopes := memory.scopes.push scope })

def modifyScope (place : ScopeId) (change : Scope → Scope) (memory : Memory) : Memory :=
  { memory with scopes := memory.scopes.modify place change }

end Memory

end PageWatch.Script
