import PageWatch.Script.Course

/-!
# Reading properties

How the properties of objects are found and read. An object that lacks a property
inherits it from its parent, reading a property can call a function, and a proxy leaves
the answer to its handler.
-/

namespace PageWatch.Script

open Text

namespace Run

variable (machine : Machine)

/-! ## Equal values -/

/-- Whether two values are the same, where a number that is none equals nothing. -/
def strictlyEqual : Value → Value → Bool
  | .undefined, .undefined | .null, .null => true
  | .boolean first, .boolean second => first == second
  | .number first, .number second => first == second
  | .whole first, .whole second => first == second
  | .text first, .text second => first == second
  | .symbol first, .symbol second => first == second
  | .object first, .object second => first == second
  | _, _ => false

/-- Whether two values are the same, where zero has no sign and a number that is none
equals itself. -/
def sameValueZero : Value → Value → Bool
  | .number first, .number second => first == second || (first.isNaN && second.isNaN)
  | first, second => strictlyEqual first second

/-- Whether two values cannot be told apart. -/
def sameValue : Value → Value → Bool
  | .number first, .number second =>
    (first.isNaN && second.isNaN) ||
      (first == second && Number.isNegativeZero first == Number.isNegativeZero second)
  | first, second => strictlyEqual first second

/-! ## What objects are -/

/-- The place of an object, if a value is one. -/
def object? : Value → Option ObjectId
  | .object place => some place
  | _ => none

/-- More parents than any object has. -/
def manyParents : Nat := 100000

/-- The function of an object that can be called. -/
def functionAt? (place : ObjectId) : Run (Option Function) := do
  match (← objectAt place).kind with
  | .function function => return some function
  | _ => return none

def isCallable : Value → Run Bool
  | .object place => do
    match (← objectAt place).kind with
    | .function _ => return true
    | .proxy _ _ calls _ => return calls
    | _ => return false
  | _ => return false

def isConstructor : Value → Run Bool
  | .object place => do
    match (← objectAt place).kind with
    | .function function => return function.creates
    | .proxy _ _ _ creates => return creates
    | _ => return false
  | _ => return false

/-- The property of a text that has been made an object. -/
def textProperty? (text : Units) : Key → Option Property
  | .index position =>
    if position < text.size then
      some ⟨.data (.text (text.slice position (position + 1))) false, true, false⟩
    else none
  | .name name =>
    if name == "length" then
      some ⟨.data (.number (Float.ofNat text.size)) false, false, false⟩
    else none
  | _ => none

/-- The property of an object's own, apart from what proxies say. -/
def plainProperty? (object : Object) (key : Key) : Option Property :=
  match object.kind with
  | .wrapper (.text text) => (textProperty? text key).or (object.table.get? key)
  | _ => object.table.get? key

/-- The names of an object's own properties, apart from what proxies say. -/
def plainKeys (object : Object) : List Key :=
  match object.kind with
  | .wrapper (.text text) =>
    (List.range text.size).map Key.index ++ [Key.ofString "length"] ++ object.table.keys
  | _ => object.table.keys

/-- The method that a proxy's handler has for an operation. -/
def trap? (read : ObjectId → Key → Run Value) (handler : ObjectId) (name : String) :
    Run (Option Value) := do
  match ← read handler name with
  | .undefined | .null => return none
  | method => if ← isCallable method then return some method else typeError "not a callable function"

/-- The value of a key, as it is told to functions. -/
def keyValue : Key → Value
  | .index position => .text (toString position)
  | .name text => .text text
  | .symbol number => .symbol number
  | .hidden _ => .undefined

/-! ## Reading -/

/-- Reads a property of an object or of those it inherits from, for another value. -/
def getFrom : Nat → ObjectId → Key → Value → Run Value
  | 0, _, _, _ => stop .exhausted
  | steps + 1, place, key, receiver => do
    let object ← objectAt place
    match object.kind with
    | .proxy target handler _ _ =>
      match ← trap? (fun place key => getFrom steps place key (.object place)) handler "get" with
      | some method =>
        machine.call method (.object handler) [.object target, keyValue key, receiver]
      | none => getFrom steps target key receiver
    | _ =>
      match plainProperty? object key with
      | some ⟨.data value _, _, _⟩ => return value
      | some ⟨.accessor (some getter) _, _, _⟩ => machine.call (.object getter) receiver []
      | some ⟨.accessor none _, _, _⟩ => return .undefined
      | none =>
        match object.parent with
        | some parent => getFrom steps parent key receiver
        | none => return .undefined

def getOf (place : ObjectId) (key : Key) : Run Value :=
  getFrom machine manyParents place key (.object place)

/-- The place of the object whose properties a value has. -/
def homeOf : Value → Run ObjectId
  | .object place => return place
  | .text _ => return Intrinsic.text.place
  | .number _ => return Intrinsic.number.place
  | .whole _ => return Intrinsic.whole.place
  | .boolean _ => return Intrinsic.boolean.place
  | .symbol _ => return Intrinsic.symbol.place
  | .undefined | .null => typeError "cannot convert 'null' or 'undefined' to object"

def get (value : Value) (key : Key) : Run Value := do
  match value with
  | .text text =>
    match textProperty? text key with
    | some ⟨.data value _, _, _⟩ => return value
    | _ => getFrom machine manyParents Intrinsic.text.place key value
  | _ => getFrom machine manyParents (← homeOf value) key value

def method? (value : Value) (key : Key) : Run (Option Value) := do
  match ← get machine value key with
  | .undefined | .null => return none
  | method => if ← isCallable method then return some method else typeError "not a callable function"

def invoke (value : Value) (key : Key) (arguments : List Value) : Run Value := do
  machine.call (← get machine value key) value arguments

/-! ## Looking for properties -/

def isTrue : Value → Bool
  | .undefined | .null => false
  | .boolean value => value
  | .number value => !(value == 0 || value.isNaN)
  | .whole value => value != 0
  | .text text => text.size != 0
  | .symbol _ | .object _ => true

def hasFrom : Nat → ObjectId → Key → Run Bool
  | 0, _, _ => stop .exhausted
  | steps + 1, place, key => do
    let object ← objectAt place
    match object.kind with
    | .proxy target handler _ _ =>
      match ← trap? (getOf machine) handler "has" with
      | some method =>
        return isTrue (← machine.call method (.object handler) [.object target, keyValue key])
      | none => hasFrom steps target key
    | _ =>
      if (plainProperty? object key).isSome then return true
      match object.parent with
      | some parent => hasFrom steps parent key
      | none => return false

def has (place : ObjectId) (key : Key) : Run Bool := hasFrom machine manyParents place key

/-! ## New objects -/

def countValue (count : Nat) : Value := .number (Float.ofNat count)

/-- A new object without properties. -/
def newObject : Run ObjectId := addObject .plain (some Intrinsic.object.place)

def newArray (values : List Value) : Run ObjectId := do
  let place ← addObject .array (some Intrinsic.array.place)
  modifyObject place fun object =>
    let filled := values.foldl (fun (position, table) value =>
      (position + 1, Table.put (.index position) (.ofValue value) table))
      ((0, object.table) : Nat × Table)
    { object with
      table := filled.2.put "length" ⟨.data (countValue filled.1) true, false, false⟩ }
  return place

/-- A new regular expression. The property that tells where its next search begins cannot
be removed. -/
def newRegex (source : Units) (rule : Regex.Rule) (parent : ObjectId) : Run ObjectId := do
  let place ← addObject (.regex source rule) (some parent)
  putProperty place "lastIndex" ⟨.data (countValue 0) true, false, false⟩
  return place

def iteratorResult (value : Value) (done : Bool) : Run Value := do
  let place ← newObject
  putProperty place "value" (.ofValue value)
  putProperty place "done" (.ofValue (.boolean done))
  return .object place

end Run

end PageWatch.Script
