import PageWatch.Script.Conversion

/-!
# Operators

What operators make of values: arithmetic on doubles and on integers, which do not mix,
comparisons, and tests of an object's ancestry.
-/

namespace PageWatch.Script

open Text

namespace Run

variable (machine : Machine)

def equalsWhole (number : Float) (whole : Int) : Bool :=
  Number.isWhole number && Number.truncate? number == some whole

/-- Whether two values are equal once they are converted. The first argument bounds the
number of conversions. -/
def looselyEqual : Nat → Value → Value → Run Bool
  | 0, _, _ => return false
  | steps + 1, first, second =>
    match first, second with
    | .undefined, .null | .null, .undefined => return true
    | .undefined, _ | .null, _ | _, .undefined | _, .null =>
      return strictlyEqual first second
    | .number number, .text text => return number == Number.read text
    | .text text, .number number => return Number.read text == number
    | .whole whole, .text text => return Number.readWhole? text == some whole
    | .text text, .whole whole => return Number.readWhole? text == some whole
    | .number number, .whole whole | .whole whole, .number number =>
      return equalsWhole number whole
    | .boolean value, .boolean value' => return value == value'
    | .boolean value, _ => looselyEqual steps (.number (if value then 1 else 0)) second
    | _, .boolean value => looselyEqual steps first (.number (if value then 1 else 0))
    | .object _, .object _ => return strictlyEqual first second
    | .object _, _ => do looselyEqual steps (← toPrimitive machine first .any) second
    | _, .object _ => do looselyEqual steps first (← toPrimitive machine second .any)
    | _, _ => return strictlyEqual first second

/-- Whether a number is less than an integer, unless it is none. -/
def lessThanWhole (number : Float) (whole : Int) : Option Bool :=
  if number.isNaN then none
  else if number.isInf then some (number < 0)
  else some (number.floor < Float.ofInt whole || 
    (match Number.truncate? number.floor with
     | some floor => floor < whole
     | none => false))

/-- Whether a primitive value is less than another, unless they do not compare. -/
def lessThan (first second : Value) : Run (Option Bool) := do
  match first, second with
  | .text first, .text second => return some (first.lt second)
  | .whole first, .whole second => return some (first < second)
  | .whole whole, .text text =>
    return (Number.readWhole? text).map fun other => whole < other
  | .text text, .whole whole =>
    return (Number.readWhole? text).map fun other => other < whole
  | .whole whole, other => do
    let number ← numberOf other
    if number.isNaN then return none
    if number.isInf then return some (0 < number)
    return (Number.truncate? number.ceil).map fun ceiling => whole < ceiling
  | other, .whole whole => do
    let number ← numberOf other
    return lessThanWhole number whole
  | _, _ => do
    let first ← numberOf first
    let second ← numberOf second
    if first.isNaN || second.isNaN then return none
    return some (first < second)

def compare (op : BinaryOp) (first second : Value) : Run Value := do
  let first ← toPrimitive machine first .number
  let second ← toPrimitive machine second .number
  match op with
  | .less => return .boolean ((← lessThan first second).getD false)
  | .greater => return .boolean ((← lessThan second first).getD false)
  | .lessOrEqual => return .boolean (!(← lessThan second first).getD true)
  | _ => return .boolean (!(← lessThan first second).getD true)

def calculate (op : BinaryOp) (x y : Float) : Float :=
  match op with
  | .add => x + y
  | .subtract => x - y
  | .multiply => x * y
  | .divide => x / y
  | .remainder => Number.remainder x y
  | .power => Number.power x y
  | .bitAnd => Number.ofSignedWord (Number.toWord x &&& Number.toWord y)
  | .bitOr => Number.ofSignedWord (Number.toWord x ||| Number.toWord y)
  | .bitXor => Number.ofSignedWord (Number.toWord x ^^^ Number.toWord y)
  | .shiftLeft => Number.ofSignedWord (Number.toWord x <<< (Number.toWord y &&& 31))
  | .shiftRightUnsigned => Number.ofWord (Number.toWord x >>> (Number.toWord y &&& 31))
  | .shiftRight =>
    let bits : Int := (Number.toWord x).toNat
    Number.ofInt ((bits.bmod (Nat.pow 2 32)).shiftRight (Number.toWord y &&& 31).toNat)
  | _ => Number.nan

/-- The integer whose binary digits are made from those of two others, for numbers that
fit into `2 ^ bits` places. -/
def combineBits (op : Nat → Nat → Nat) (x y : Int) : Int :=
  let bits := max x.natAbs.log2 y.natAbs.log2 + 2
  let word (n : Int) : Nat := (n.emod (Nat.pow 2 bits)).toNat
  (op (word x) (word y) : Int).bmod (Nat.pow 2 bits)

def calculateWhole (op : BinaryOp) (x y : Int) : Run Int := do
  match op with
  | .add => return x + y
  | .subtract => return x - y
  | .multiply => return x * y
  | .divide => if y == 0 then rangeError "BigInt division by zero" else return x.tdiv y
  | .remainder => if y == 0 then rangeError "BigInt division by zero" else return x.tmod y
  | .power =>
    if y < 0 then rangeError "BigInt negative exponent" else return Int.pow x y.toNat
  | .bitAnd => return combineBits Nat.land x y
  | .bitOr => return combineBits Nat.lor x y
  | .bitXor => return combineBits Nat.xor x y
  | .shiftLeft => return if y < 0 then x.shiftRight y.natAbs else x * Nat.pow 2 y.toNat
  | .shiftRight => return if y < 0 then x * Nat.pow 2 y.natAbs else x.shiftRight y.toNat
  | _ => typeError "BigInts have no unsigned right shift, use >> instead"

/-- A number or an integer that a value becomes. -/
def toNumeric (value : Value) : Run Value := do
  match ← toPrimitive machine value .number with
  | .whole value => return .whole value
  | value => return .number (← numberOf value)

def arithmetic (op : BinaryOp) (first second : Value) : Run Value := do
  let first ← toNumeric machine first
  let second ← toNumeric machine second
  match first, second with
  | .number x, .number y => return .number (calculate op x y)
  | .whole x, .whole y => return .whole (← calculateWhole op x y)
  | _, _ => typeError "cannot mix BigInt and other types, use explicit conversions"

/-- Adds two values, or puts their texts together. -/
def add (first second : Value) : Run Value := do
  let first ← toPrimitive machine first .any
  let second ← toPrimitive machine second .any
  match first, second with
  | .text text, other => return .text (text ++ (← textOf other))
  | other, .text text => return .text ((← textOf other) ++ text)
  | _, _ => arithmetic machine .add first second

/-- Whether an object inherits from another. The first argument bounds the number of
ancestors. -/
def inherits (ancestor : ObjectId) : Nat → ObjectId → Run Bool
  | 0, _ => return false
  | steps + 1, place => do
    match ← parentOf machine place with
    | none => return false
    | some parent =>
      if parent == ancestor then return true else inherits ancestor steps parent

def isInstance (value : Value) : Nat → Value → Run Bool
  | 0, _ => return false
  | steps + 1, constructor => do
    match constructor with
    | .object place =>
      match (← objectAt place).kind with
      | .function ⟨.bound target _ _, _, _, _⟩ => isInstance value steps (.object target)
      | _ =>
        if !(← isCallable constructor) then return false
        match value with
        | .object instancePlace =>
          match ← getOf machine place "prototype" with
          | .object ancestor => inherits machine ancestor manyParents instancePlace
          | _ => typeError "function has non-object prototype in instanceof check"
        | _ => return false
    | _ => return false

/-- Whether a value is an instance of another, which can have its own idea of that. -/
def instanceOf (value target : Value) : Run Bool := do
  match target with
  | .object _ =>
    match ← method? machine target WellKnown.hasInstance.key with
    | some method => return isTrue (← machine.call method target [value])
    | none =>
      if !(← isCallable target) then
        typeError "right-hand side of 'instanceof' is not callable"
      isInstance machine value 1000 target
  | _ => typeError "right-hand side of 'instanceof' should be an object"

def binary (op : BinaryOp) (first second : Value) : Run Value := do
  match op with
  | .add =>
    match first, second with
    | .number x, .number y => return .number (x + y)
    | _, _ => add machine first second
  | .looseEqual => return .boolean (← looselyEqual machine 8 first second)
  | .looseUnequal => return .boolean (!(← looselyEqual machine 8 first second))
  | .equal => return .boolean (strictlyEqual first second)
  | .unequal => return .boolean (!strictlyEqual first second)
  | .less | .greater | .lessOrEqual | .greaterOrEqual => compare machine op first second
  | .instanceOf => return .boolean (← instanceOf machine first second)
  | .isIn =>
    match second with
    | .object place => return .boolean (← has machine place (← toKey machine first))
    | _ => typeError "right-hand side of 'in' should be an object"
  | _ => arithmetic machine op first second

def typeName (value : Value) : Run String := do
  match value with
  | .undefined => return "undefined"
  | .null => return "object"
  | .boolean _ => return "boolean"
  | .number _ => return "number"
  | .whole _ => return "bigint"
  | .text _ => return "string"
  | .symbol _ => return "symbol"
  | .object _ => return if ← isCallable value then "function" else "object"

end Run

end PageWatch.Script
