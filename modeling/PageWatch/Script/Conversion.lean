import PageWatch.Script.Property

/-!
# Conversions

How values become primitive ones, numbers, texts, keys and objects. An object is asked
by its own methods, so that conversions can run any part of a script.
-/

namespace PageWatch.Script

open Text

/-- The kind of primitive value that is wanted. -/
inductive Hint where
  | any | number | text
  deriving DecidableEq, Inhabited, Repr

def Hint.name : Hint → String
  | .any => "default"
  | .number => "number"
  | .text => "string"

namespace Run

variable (machine : Machine)

/-- Calls the first of an object's methods that answers a primitive value. -/
def firstPrimitive (place : ObjectId) : List String → Run Value
  | [] => typeError "cannot convert object to primitive value"
  | name :: names => do
    let method ← getOf machine place name
    if ← isCallable method then
      match ← machine.call method (.object place) [] with
      | .object _ => firstPrimitive place names
      | value => return value
    else firstPrimitive place names

def toPrimitive (value : Value) (hint : Hint) : Run Value := do
  match value with
  | .object place =>
    match ← method? machine value WellKnown.toPrimitive.key with
    | some method =>
      match ← machine.call method value [.text hint.name] with
      | .object _ => typeError "cannot convert object to primitive value"
      | value => return value
    | none =>
      firstPrimitive machine place
        (if hint == .text then ["toString", "valueOf"] else ["valueOf", "toString"])
  | _ => return value

def numberOf : Value → Run Float
  | .undefined => return Number.nan
  | .null => return 0
  | .boolean value => return if value then 1 else 0
  | .number value => return value
  | .text text => return Number.read text
  | .whole _ => typeError "argument must not be a bigint"
  | .symbol _ => typeError "argument must not be a symbol"
  | .object _ => return Number.nan

def toNumber (value : Value) : Run Float := do
  match value with
  | .number value => return value
  | _ => numberOf (← toPrimitive machine value .number)

def textOf : Value → Run Units
  | .undefined => return "undefined"
  | .null => return "null"
  | .boolean value => return if value then "true" else "false"
  | .number value => return Number.text value
  | .whole value => return toString value
  | .text text => return text
  | .symbol _ => typeError "can't convert symbol to string"
  | .object _ => return Units.empty

def toText (value : Value) : Run Units := do
  match value with
  | .text text => return text
  | _ => textOf (← toPrimitive machine value .text)

def toKey (value : Value) : Run Key := do
  match value with
  | .text text => return .ofText text
  | .number value =>
    if 0 ≤ value && value < 4294967295 && Number.truncate value == value then
      return .index value.toUInt64.toNat
    else return .ofText (Number.text value)
  | _ =>
    match ← toPrimitive machine value .text with
    | .symbol number => return .symbol number
    | value => return .ofText (← textOf value)

def toObject (value : Value) : Run ObjectId := do
  match value with
  | .object place => return place
  | _ => addObject (.wrapper value) (some (← homeOf value))

/-- The whole number that a value becomes, where what is no number becomes zero. -/
def toWholeNumber (value : Value) : Run Float := do
  let number ← toNumber machine value
  return if number.isNaN then 0 else Number.truncate number

def toLength (value : Value) : Run Nat := do
  let number ← toWholeNumber machine value
  return if number ≤ 0 then 0 else (min number 9007199254740991).toUInt64.toNat

/-- The length of something like an array. -/
def lengthLike (place : ObjectId) : Run Nat := do
  toLength machine (← getOf machine place "length")

/-- A position that can count from the end, within some length. -/
def toPosition (value : Value) (length : Nat) (missing : Nat) : Run Nat := do
  match value with
  | .undefined => return missing
  | _ =>
    let number ← toWholeNumber machine value
    if number < 0 then
      let position := Float.ofNat length + number
      return if position ≤ 0 then 0 else position.toUInt64.toNat
    else return (min number (Float.ofNat length)).toUInt64.toNat

/-- The values of something like an array. -/
def listLike (place : ObjectId) : Run (List Value) := do
  let length ← lengthLike machine place
  repeated (fun (position, values) => do
    if length ≤ position then return .inr values.reverse
    return .inl (position + 1, (← getOf machine place (.index position)) :: values))
    ((0, []) : Nat × List Value)

/-! ## Iterating -/

/-- An iterator and its method that goes on. -/
structure Iterator where
  place : Value
  next : Value
  deriving Inhabited

def iterator (value : Value) : Run Iterator := do
  let method ← get machine value WellKnown.iterator.key
  if !(← isCallable method) then typeError "object is not iterable"
  match ← machine.call method value [] with
  | .object place =>
    return ⟨.object place, ← getOf machine place "next"⟩
  | _ => typeError "iterator is not an object"

/-- The next value of an iterator, unless it has come to its end. -/
def step (iterator : Iterator) : Run (Option Value) := do
  match ← machine.call iterator.next iterator.place [] with
  | .object result =>
    if isTrue (← getOf machine result "done") then return none
    else return some (← getOf machine result "value")
  | _ => typeError "iterator result is not an object"

/-- Tells an iterator that no more of its values are wanted. -/
def closeIterator (iterator : Iterator) : Run Unit := do
  match ← method? machine iterator.place "return" with
  | some method => discard <| machine.call method iterator.place []
  | none => pure ()

/-- Goes on with an iterator's values, and tells it when they are no longer wanted
because this fails. -/
def closingOnFailure {α : Type} (iterator : Iterator) (body : Run α) : Run α := do
  match ← body.attempt with
  | .ok result => return result
  | .error abrupt =>
    match abrupt with
    | .waiting | .exhausted => stop abrupt
    | .thrown _ =>
      discard <| (closeIterator machine iterator).attempt
      stop abrupt
    | .returning _ =>
      closeIterator machine iterator
      stop abrupt

/-- All values of something that can be iterated. -/
def listOf (value : Value) : Run (List Value) := do
  let iterator ← iterator machine value
  repeated (fun values => do
    match ← step machine iterator with
    | some value => return .inl (value :: values)
    | none => return .inr values.reverse) []

end Run

end PageWatch.Script
