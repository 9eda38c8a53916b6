import PageWatch.Script.Library.Object

/-!
# Iterators, generators and collections in the library
-/

namespace PageWatch.Script.Library

open Text Run

/-! ## Iterators -/

/-- What an iterator answers for a position and what is there, of which it wants one or
both. -/
def wantedPart (wanted : Bool × Bool) (key value : Value) : Run Value :=
  match wanted with
  | (true, true) => pair key value
  | (true, false) => return key
  | _ => return value

def entriesOf (place : ObjectId) : Run (Array (Option (Value × Value))) := do
  match (← objectAt place).kind with
  | .map entries | .set entries => return entries
  | _ => return #[]

/-- The next value of a sequence with what is left of it, unless it has come to its end. -/
def nextOf (machine : Machine) : Sequence → Run (Option (Value × Sequence))
  | .positions source position wanted => do
    if (← lengthLike machine source) ≤ position then return none
    let value ← getOf machine source (.index position)
    return some (← wantedPart wanted (countValue position) value,
      .positions source (position + 1) wanted)
  | .codePoints [] => return none
  | .codePoints (code :: rest) => return some (.text (Units.ofCodePoint code), .codePoints rest)
  | .entries source position wanted => do
    let entries ← entriesOf source
    let next := (List.range' position (entries.size - position)).find? fun position =>
      ((entries[position]?).getD none).isSome
    match next with
    | none => return none
    | some position =>
      match (entries[position]?).getD none with
      | some (key, value) =>
        return some (← wantedPart wanted key value, .entries source (position + 1) wanted)
      | none => return none
  | .finished => return none

def nextOfIterator (given : Given) : Run Value := do
  let place ← objectOf given.self "`this` is not an iterator"
  match (← objectAt place).kind with
  | .iterator sequence =>
    match ← nextOf given.machine sequence with
    | some (value, rest) =>
      setKind place (.iterator rest)
      iteratorResult value false
    | none =>
      setKind place (.iterator .finished)
      iteratorResult .undefined true
  | _ => typeError "`this` is not an iterator"

/-! ## Generators -/

/-- Sets how far a generator has come. -/
def setPhase (place : ObjectId) (phase : Phase) : Run Unit :=
  modifyObject place fun object =>
    match object.kind with
    | .generator code scope _ => { object with kind := .generator code scope phase }
    | _ => object

/-- Tells a generator that may wait something, and answers an object that stands for
what it will answer. -/
def resumeWaiting (place : ObjectId) (phase : Phase) (message : Resumption) : Run Value := do
  match phase, message with
  | .fresh, .next _ => do
    match ← (resume place message).attempt with
    | .error .exhausted => stop .exhausted
    | _ => newPromise
  | _, _ => newPromise

/-- Tells a generator something. One that has not begun or has finished does not hear
it. -/
def resumeGenerator (message : Value → Resumption) (given : Given) : Run Value := do
  let place ← objectOf given.self "generator method called on incompatible receiver"
  match (← objectAt place).kind with
  | .generator code _ phase =>
    let message := message given.first
    if (← codeAt code).async then resumeWaiting place phase message
    else
      match phase, message with
      | .running, _ => typeError "generator is already running"
      | .finished, .next _ => iteratorResult .undefined true
      | .finished, .throw value => throwValue value
      | .finished, .return value => iteratorResult value true
      | .fresh, .throw value =>
        setPhase place .finished
        throwValue value
      | .fresh, .return value =>
        setPhase place .finished
        iteratorResult value true
      | _, _ =>
        let (value, done) ← resume place message
        iteratorResult value done
  | _ => typeError "generator method called on incompatible receiver"

def iterators : List Entry :=
  [.method Intrinsic.iterator.place WellKnown.iterator.key 0 fun given => return given.self] ++
  Entry.methods Intrinsic.arrayIterator.place [("next", 0, nextOfIterator)] ++
  [.constant Intrinsic.arrayIterator.place WellKnown.toStringTag.key (.text "Array Iterator")] ++
  Entry.methods Intrinsic.matchIterator.place [("next", 0, nextOfIterator)] ++
  [.constant Intrinsic.matchIterator.place WellKnown.toStringTag.key
    (.text "RegExp String Iterator")] ++
  Entry.methods Intrinsic.generator.place
    [("next", 1, resumeGenerator .next), ("return", 1, resumeGenerator .return),
     ("throw", 1, resumeGenerator .throw)] ++
  [.constant Intrinsic.generator.place WellKnown.toStringTag.key (.text "Generator"),
   .method Intrinsic.generator.place WellKnown.asyncIterator.key 0 fun given => return given.self]

/-! ## Collections -/

/-- The collection that `this` is. -/
def selfEntries (given : Given) : Run (ObjectId × Array (Option (Value × Value))) := do
  let place ← objectOf given.self "'this' is not a collection"
  match (← objectAt place).kind with
  | .map entries | .set entries => return (place, entries)
  | _ => typeError "'this' is not a collection"

def modifyEntries (place : ObjectId)
    (change : Array (Option (Value × Value)) → Array (Option (Value × Value))) : Run Unit :=
  modifyObject place fun object =>
    match object.kind with
    | .map entries => { object with kind := .map (change entries) }
    | .set entries => { object with kind := .set (change entries) }
    | _ => object

def positionOfKey? (entries : Array (Option (Value × Value))) (key : Value) : Option Nat :=
  entries.findIdx? fun entry => entry.any fun (other, _) => sameValueZero other key

/-- A key as collections keep it: zero without a sign. -/
def storedKey (key : Value) : Value :=
  match key with
  | .number value => .number (if value == 0 then 0 else value)
  | _ => key

def putEntry (place : ObjectId) (key value : Value) : Run Unit :=
  modifyEntries place fun entries =>
    match positionOfKey? entries key with
    | some position => entries.modify position fun entry =>
        entry.map fun (old, _) => (old, value)
    | none => entries.push (some (storedKey key, value))

def entryCount (entries : Array (Option (Value × Value))) : Nat :=
  (entries.toList.filter Option.isSome).length

def entriesIterator (wanted : Bool × Bool) (given : Given) : Run Value := do
  let (place, _) ← selfEntries given
  return .object (← addObject (.iterator (.entries place 0 wanted))
    (some Intrinsic.arrayIterator.place))

/-- Makes a collection, filled by its own method for adding. -/
def makeCollection (intrinsic : Intrinsic) (kind : Kind) (adder : String) (given : Given) :
    Run Value := do
  if !given.creates then typeError "calling a builtin collection constructor without new is forbidden"
  let parent ← prototypeFor given.machine given.newTarget intrinsic
  let place ← addObject kind (some parent)
  if isNone given.first then return .object place
  let add ← callbackOf (← getOf given.machine place (.ofString adder))
  let iterator ← iterator given.machine given.first
  repeated (fun () => do
    match ← step given.machine iterator with
    | none => return .inr ()
    | some value =>
      closingOnFailure given.machine iterator (do
        if adder == "set" then
          match value with
          | .object entry =>
            let key ← getOf given.machine entry (.index 0)
            let value ← getOf given.machine entry (.index 1)
            discard <| given.machine.call add (.object place) [key, value]
          | _ => typeError "cannot get key and value from primitive item of `iterable`"
        else discard <| given.machine.call add (.object place) [value])
      return .inl ()) ()
  return .object place
where
  /-- Whether a value is nothing. -/
  isNone : Value → Bool
    | .undefined | .null => true
    | _ => false

def collectionMethods : List (String × Nat × (Given → Run Value)) :=
  [("has", 1, fun given => do
      let (_, entries) ← selfEntries given
      return .boolean (positionOfKey? entries given.first).isSome),
   ("delete", 1, fun given => do
      let (place, entries) ← selfEntries given
      match positionOfKey? entries given.first with
      | some position =>
        modifyEntries place fun entries => entries.modify position fun _ => none
        return .boolean true
      | none => return .boolean false)]

/-- The functions of collections that can be gone through. -/
def countedMethods : List (String × Nat × (Given → Run Value)) :=
  [("clear", 0, fun given => do
      let (place, _) ← selfEntries given
      modifyEntries place fun entries => entries.map fun _ => none
      nothing),
   ("forEach", 1, fun given => do
      let (place, _) ← selfEntries given
      let callback ← callbackOf given.first
      repeated (fun position => do
        let entries ← entriesOf place
        if entries.size ≤ position then return .inr ()
        match (entries[position]?).getD none with
        | some (key, value) =>
          discard <| given.machine.call callback given.second [value, key, .object place]
        | none => pure ()
        return .inl (position + 1)) 0
      nothing)]

/-- The function that tells the size of a collection. -/
def sizeOf (holder : ObjectId) : Entry :=
  .accessor holder "size" (fun given => do
    let (_, entries) ← selfEntries given
    natValue (entryCount entries)) none

def mapMethods : List (String × Nat × (Given → Run Value)) :=
  [("get", 1, fun given => do
      let (_, entries) ← selfEntries given
      let found := (positionOfKey? entries given.first).bind fun position =>
        (entries[position]?).getD none
      return (found.map (·.2)).getD .undefined),
   ("set", 2, fun given => do
      let (place, _) ← selfEntries given
      putEntry place given.first given.second
      return given.self)]

def setMethods : List (String × Nat × (Given → Run Value)) :=
  [("add", 1, fun given => do
      let (place, _) ← selfEntries given
      let key := storedKey given.first
      putEntry place key key
      return given.self)]

/-- Checks that a key of a collection which forgets its keys is an object. -/
def checkForgettable (given : Given) : Run Unit := do
  match given.first with
  | .object _ => pure ()
  | _ => typeError "invalid value used in weak collection"

/-- Functions that add only objects. -/
def forObjects (methods : List (String × Nat × (Given → Run Value))) :
    List (String × Nat × (Given → Run Value)) :=
  methods.map fun (name, length, run) =>
    if name == "set" || name == "add" then
      (name, length, fun given => do
        checkForgettable given
        run given)
    else (name, length, run)

/-- What the library says about maps and sets. -/
def collections : List Entry :=
  let map := Intrinsic.map.place
  let set := Intrinsic.set.place
  [.constructor .map "Map" 0 (makeCollection .map (.map #[]) "set"),
   .constructor .set "Set" 0 (makeCollection .set (.set #[]) "add"),
   .constructor .weakMap "WeakMap" 0 (makeCollection .weakMap (.map #[]) "set"),
   .constructor .weakSet "WeakSet" 0 (makeCollection .weakSet (.set #[]) "add")] ++
  Entry.methods Intrinsic.map.constructor
    [("groupBy", 2, fun given => do
        let groups ← groupsOf given.machine given.first given.second
        let entries ← groups.mapM fun (key, values) => do
          return some (storedKey key, .object (← newArray values))
        return .object (← addObject (.map entries.toArray) (some map)))] ++
  Entry.methods map (mapMethods ++ collectionMethods ++ countedMethods) ++
  Entry.methods map
    [("entries", 0, entriesIterator (true, true)), ("keys", 0, entriesIterator (true, false)),
     ("values", 0, entriesIterator (false, true))] ++
  [sizeOf map, .also map WellKnown.iterator.key map "entries",
   .constant map WellKnown.toStringTag.key (.text "Map")] ++
  Entry.methods set (setMethods ++ collectionMethods ++ countedMethods) ++
  Entry.methods set
    [("entries", 0, entriesIterator (true, true)), ("values", 0, entriesIterator (false, true))] ++
  [sizeOf set, .also set "keys" set "values", .also set WellKnown.iterator.key set "values",
   .constant set WellKnown.toStringTag.key (.text "Set")] ++
  Entry.methods Intrinsic.weakMap.place (forObjects mapMethods ++ collectionMethods) ++
  [.constant Intrinsic.weakMap.place WellKnown.toStringTag.key (.text "WeakMap")] ++
  Entry.methods Intrinsic.weakSet.place (forObjects setMethods ++ collectionMethods) ++
  [.constant Intrinsic.weakSet.place WellKnown.toStringTag.key (.text "WeakSet")]

/-! ## Values to come -/

/-- Lets a function of the script start what a value will come from. -/
def makePromise (given : Given) : Run Value := do
  if !given.creates then typeError "promise NewTarget is undefined"
  let executor ← callbackOf given.first
  let parent ← prototypeFor given.machine given.newTarget .promise
  let place ← addObject .promise (some parent)
  let settle := Value.object Intrinsic.settle.place
  match ← (given.machine.call executor .undefined [settle, settle]).attempt with
  | .error (.thrown _) | .ok _ => return .object place
  | .error abrupt => stop abrupt

/-- What the library says about values to come. No function that waits for one is ever
called. -/
def promises : List Entry :=
  let maker := Intrinsic.promise.constructor
  let gathering (given : Given) : Run Value := do
    discard <| (listOf given.machine given.first).attempt
    newPromise
  [.constructor .promise "Promise" 1 makePromise,
   .callable .settle 1 fun _ => nothing] ++
  Entry.methods maker
    [("resolve", 1, fun given => do
        match given.first with
        | .object place =>
          match (← objectAt place).kind with
          | .promise => return given.first
          | _ => newPromise
        | _ => newPromise),
     ("reject", 1, fun _ => newPromise),
     ("all", 1, gathering), ("allSettled", 1, gathering), ("any", 1, gathering),
     ("race", 1, gathering)] ++
  Entry.methods Intrinsic.promise.place
    [("then", 2, fun _ => newPromise),
     ("catch", 1, fun given => do
        invoke given.machine given.self "then" [.undefined, given.first]),
     ("finally", 1, fun given => do
        invoke given.machine given.self "then" [given.first, given.first])] ++
  [.constant Intrinsic.promise.place WellKnown.toStringTag.key (.text "Promise")]

end PageWatch.Script.Library
