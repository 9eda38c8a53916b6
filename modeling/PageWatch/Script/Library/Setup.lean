import PageWatch.Script.Library.Array
import PageWatch.Script.Library.Date
import PageWatch.Script.Library.Function
import PageWatch.Script.Library.Global
import PageWatch.Script.Library.Host
import PageWatch.Script.Library.Iteration
import PageWatch.Script.Library.Json
import PageWatch.Script.Library.Number
import PageWatch.Script.Library.Regex
import PageWatch.Script.Library.Text

/-!
# A memory with a library

The memory that scripts start with. First come the objects at places known in advance,
then their constructors, and then the functions of the library, each with a number under
which its behaviour is found.
-/

namespace PageWatch.Script

open Text

/-- The objects at places known in advance, in the order of their places. -/
def Intrinsic.all : List Intrinsic :=
  [.global, .object, .function, .array, .text, .number, .whole, .boolean, .symbol, .error,
   .typeError, .rangeError, .referenceError, .syntaxError, .evalError, .uriError,
   .aggregateError, .iterator, .arrayIterator, .generator, .map, .set, .weakMap, .weakSet,
   .promise, .settle, .regex, .matchIterator, .date, .math, .json, .reflect, .proxy, .console, .document]

theorem Intrinsic.place_of_all : Intrinsic.all.map Intrinsic.place = List.range Intrinsic.count :=
  rfl

/-- What an object at a known place inherits from. -/
def Intrinsic.parent? : Intrinsic → Option Intrinsic
  | .object => none
  | .typeError | .rangeError | .referenceError | .syntaxError | .evalError | .uriError
  | .aggregateError => some .error
  | .arrayIterator | .generator | .matchIterator => some .iterator
  | .settle => some .function
  | _ => some .object

/-- What the constructor of a type of objects inherits from. -/
def Intrinsic.constructorParent : Intrinsic → ObjectId
  | .typeError | .rangeError | .referenceError | .syntaxError | .evalError | .uriError
  | .aggregateError => Intrinsic.error.constructor
  | _ => Intrinsic.function.place

/-- An object at a known place before anything is in it. -/
def Intrinsic.bare (intrinsic : Intrinsic) : Object :=
  let kind := match intrinsic with
    | .array => Kind.array
    | .text => .wrapper (.text Units.empty)
    | .number => .wrapper (.number 0)
    | .boolean => .wrapper (.boolean false)
    | _ => .plain
  let table := match intrinsic with
    | .array => Table.empty.put "length" ⟨.data (.number 0) true, false, false⟩
    | _ => Table.empty
  ⟨kind, intrinsic.parent?.map Intrinsic.place, table, true⟩

/-- A library that is being put into memory. -/
structure Setup where
  memory : Memory
  natives : Array Native

namespace Setup

/-- The memory with the objects at known places. -/
def start : Setup :=
  let memory := Memory.empty #[]
  let memory := { memory with
    objects := (Intrinsic.all.map Intrinsic.bare).toArray ++
      (Intrinsic.all.map fun intrinsic =>
        ({ kind := .plain, parent := some intrinsic.constructorParent, table := .empty,
           extensible := true } : Object)).toArray
    scopes := #[⟨[], none, some ⟨some (.object Intrinsic.global.place), none, none, .undefined⟩,
      true⟩]
    symbols := (Library.wellKnownSymbols.map fun (_, name) =>
      some (Units.ofString ("Symbol." ++ name))).toArray }
  ⟨memory, #[]⟩

def put (holder : ObjectId) (key : Key) (property : Property) (setup : Setup) : Setup :=
  { setup with
    memory := setup.memory.modifyObject holder fun object =>
      { object with table := object.table.put key property } }

/-- The properties that describe a function of the library. -/
def description (native : Native) : Table :=
  (Table.empty.put "length" ⟨.data (Run.countValue native.length) false, false, true⟩).put "name"
    ⟨.data (.text native.name) false, false, true⟩

/-- Adds a behaviour, and answers its number. -/
def addNative (name : Units) (length : Nat) (creates : Bool) (run : Given → Run Value)
    (setup : Setup) : Native × Nat × Setup :=
  let native : Native :=
    ⟨name, length, creates, fun machine self arguments newTarget =>
      run ⟨machine, self, arguments, newTarget⟩⟩
  (native, setup.natives.size, { setup with natives := setup.natives.push native })

def addFunction (name : Units) (length : Nat) (run : Given → Run Value) (setup : Setup) :
    ObjectId × Setup :=
  let (native, number, setup) := setup.addNative name length false run
  let object : Object :=
    { kind := .function ⟨.native number, false, none, []⟩
      parent := some Intrinsic.function.place
      table := description native
      extensible := true }
  let (place, memory) := setup.memory.addObject object
  (place, { setup with memory })

def makeFunction (place : ObjectId) (name : Units) (length : Nat) (creates : Bool)
    (run : Given → Run Value) (setup : Setup) : Setup :=
  let (native, number, setup) := setup.addNative name length creates run
  { setup with
    memory := setup.memory.modifyObject place fun object =>
      { object with
        kind := .function ⟨.native number, creates, none, []⟩
        table := description native } }

/-- The name of a function that is kept under a key. -/
def nameOf : Key → Units
  | .symbol number =>
    match Library.wellKnownSymbols[number]? with
    | some (_, name) => Units.concat ["[Symbol.", name, "]"]
    | none => Units.empty
  | key => key.text?.getD Units.empty

def add (setup : Setup) : Entry → Setup
  | .method holder key length run =>
    let (place, setup) := setup.addFunction (nameOf key) length run
    setup.put holder key (.quiet (.object place))
  | .accessor holder key getter setter =>
    let (getter, setup) := setup.addFunction ("get " ++ nameOf key) 0 getter
    match setter with
    | none => setup.put holder key ⟨.accessor (some getter) none, false, true⟩
    | some setter =>
      let (setter, setup) := setup.addFunction ("set " ++ nameOf key) 1 setter
      setup.put holder key ⟨.accessor (some getter) (some setter), false, true⟩
  | .callable intrinsic length run =>
    setup.makeFunction intrinsic.place Units.empty length false run
  | .constant holder key value => setup.put holder key ⟨.data value false, false, false⟩
  | .changeable holder key value enumerable =>
    setup.put holder key ⟨.data value true, enumerable, true⟩
  | .constructor intrinsic name length run =>
    let place := intrinsic.constructor
    let setup := setup.makeFunction place name length true run
    let setup := setup.put place "prototype" ⟨.data (.object intrinsic.place) false, false, false⟩
    let setup := setup.put intrinsic.place "constructor" (.quiet (.object place))
    setup.put Intrinsic.global.place name (.quiet (.object place))
  | .also holder key source sourceKey =>
    match (setup.memory.objects[source]?).bind (·.table.get? sourceKey) with
    | some property => setup.put holder key property
    | none => setup

end Setup

/-- Everything that scripts find, in the order in which it is put into memory. Functions
that other objects become come first. -/
def Library.entries (changeable : Bool) : List Entry :=
  functions ++ objects ++ arrays ++ texts ++ regexes ++ numbers ++ wholes ++ booleans ++ symbols ++
  errors ++ dates ++ iterators ++ collections ++ promises ++ mathematics ++ data ++ globals ++
  reflection ++ host changeable

/-- The memory that scripts start with, and the behaviours of the library. -/
def Setup.complete (changeable : Bool) : Setup :=
  (Library.entries changeable).foldl Setup.add .start

end PageWatch.Script
