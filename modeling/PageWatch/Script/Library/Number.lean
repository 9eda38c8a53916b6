import PageWatch.Script.Library.Basic

/-!
# Numbers in the library

Numbers, integers without bounds, truth values and symbols, and the functions of
mathematics.
-/

namespace PageWatch.Script.Library

open Text Run

/-! ## Numbers -/

/-- The number that `this` is. -/
def selfNumber (given : Given) : Run Float := do
  match given.self with
  | .number value => return value
  | .object place =>
    match (← objectAt place).kind with
    | .wrapper (.number value) => return value
    | _ => typeError "'this' is not a number"
  | _ => typeError "'this' is not a number"

/-- A number of digits within bounds. -/
def digitCount (given : Given) (least most : Nat) (name : String) : Run Nat := do
  let count ← toWholeNumber given.machine given.first
  if count < Float.ofNat least || Float.ofNat most < count then
    rangeError s!"{name} argument must be between {least} and {most}"
  return count.toUInt64.toNat

/-- The base that an argument asks for. -/
def baseOf (machine : Machine) (value : Value) : Run Nat := do
  match value with
  | .undefined => return 10
  | value =>
    let base ← toWholeNumber machine value
    if base < 2 || 36 < base then
      rangeError "radix must be an integer at least 2 and no greater than 36"
    return base.toUInt64.toNat

/-- Reads a number as far as a text writes one. -/
def parseFloat (given : Given) : Run Value := do
  let text ← toText given.machine given.first
  match Number.readSigned text.trimLeft.write.toList with
  | some (value, _) => return .number value
  | none => return .number Number.nan

/-- Reads an integer of a base as far as a text writes one. -/
def parseInt (given : Given) : Run Value := do
  let text := (← toText given.machine given.first).trimLeft.write.toList
  let asked ← toNumber given.machine given.second
  let base := (Number.toWord asked).toNat
  let (negative, text) := match text with
    | '-' :: rest => (true, rest)
    | '+' :: rest => (false, rest)
    | _ => (false, text)
  if base != 0 && (base < 2 || 36 < base) then return .number Number.nan
  let (base, text) :=
    if base == 0 || base == 16 then
      match text with
      | '0' :: 'x' :: rest | '0' :: 'X' :: rest => (16, rest)
      | _ => (if base == 0 then 10 else base, text)
    else (base, text)
  let digits := text.takeWhile fun c => (Number.digitValue? c).any (· < base)
  if digits.isEmpty then return .number Number.nan
  let value := digits.foldl
    (fun value c => value * base + (Number.digitValue? c).getD 0) 0
  let number := Float.ofNat value
  return .number (if negative then -number else number)

/-- The digits of a number that count, as few as are needed to tell it from others. -/
def shortestDigits (value : Float) : List Char :=
  let digits := ((Number.text value.abs).write.toList.takeWhile (· != 'e')).filter Char.isDigit
  let digits := digits.dropWhile (· == '0')
  (digits.reverse.dropWhile (· == '0')).reverse

def numbers : List Entry :=
  let maker := Intrinsic.number.constructor
  [.constructor .number "Number" 1 fun given => do
    let value ← if given.has 0 then
        match ← toNumeric given.machine given.first with
        | .number value => pure value
        | .whole value => pure (Number.ofInt value)
        | _ => pure Number.nan
      else pure 0
    if given.creates then
      let parent ← prototypeFor given.machine given.newTarget .number
      return .object (← addObject (.wrapper (.number value)) (some parent))
    return .number value] ++
  Entry.numbers maker
    [("EPSILON", 2.220446049250313e-16), ("MAX_SAFE_INTEGER", 9007199254740991),
     ("MIN_SAFE_INTEGER", -9007199254740991), ("MAX_VALUE", 1.7976931348623157e308),
     ("MIN_VALUE", Float.ofBits 1), ("NaN", Number.nan), ("POSITIVE_INFINITY", Number.infinity),
     ("NEGATIVE_INFINITY", -Number.infinity)] ++
  Entry.methods maker
    [("isFinite", 1, fun given => do
        match given.first with
        | .number value => return .boolean value.isFinite
        | _ => return .boolean false),
     ("isNaN", 1, fun given => do
        match given.first with
        | .number value => return .boolean value.isNaN
        | _ => return .boolean false),
     ("isInteger", 1, fun given => do
        match given.first with
        | .number value => return .boolean (Number.isWhole value)
        | _ => return .boolean false),
     ("isSafeInteger", 1, fun given => do
        match given.first with
        | .number value =>
          return .boolean (Number.isWhole value && value.abs ≤ 9007199254740991)
        | _ => return .boolean false),
     ("parseFloat", 1, parseFloat),
     ("parseInt", 2, parseInt)] ++
  Entry.methods Intrinsic.number.place
    [("toString", 1, fun given => do
        let value ← selfNumber given
        let base ← baseOf given.machine given.first
        return .text (if base == 10 then Number.text value else Number.baseText base value)),
     ("toLocaleString", 0, fun given => do return .text (Number.text (← selfNumber given))),
     ("valueOf", 0, fun given => do return .number (← selfNumber given)),
     ("toFixed", 1, fun given => do
        let value ← selfNumber given
        let count ← digitCount given 0 100 "toFixed() digits"
        if !value.isFinite || 1e21 ≤ value.abs then return .text (Number.text value)
        return .text (Number.fixedText count value)),
     ("toPrecision", 1, fun given => do
        let value ← selfNumber given
        match given.first with
        | .undefined => return .text (Number.text value)
        | _ =>
          if !value.isFinite then return .text (Number.text value)
          let count ← digitCount given 1 100 "precision"
          return .text (Number.precisionText count value)),
     ("toExponential", 1, fun given => do
        let value ← selfNumber given
        if !value.isFinite then return .text (Number.text value)
        let count ← digitCount given 0 100 "toExponential()"
        let (negative, _, _) := Number.fraction value
        let count := match given.first with
          | .undefined => max 1 (shortestDigits value).length
          | _ => count + 1
        let (digits, exponent) := if value == 0 then (List.replicate count '0', 0)
          else Number.significant count value.abs
        let text := String.ofList (Number.exponentText digits exponent)
        return .text (if negative then "-" ++ text else text))]

/-! ## Integers without bounds -/

/-- The integer that `this` is. -/
def selfWhole (given : Given) : Run Int := do
  match given.self with
  | .whole value => return value
  | .object place =>
    match (← objectAt place).kind with
    | .wrapper (.whole value) => return value
    | _ => typeError "'this' is not a BigInt"
  | _ => typeError "'this' is not a BigInt"

def toWhole (machine : Machine) (value : Value) : Run Int := do
  match ← toPrimitive machine value .number with
  | .whole value => return value
  | .boolean value => return if value then 1 else 0
  | .text text =>
    match Number.readWhole? text with
    | some value => return value
    | none => raise .syntaxError "cannot convert string to BigInt"
  | .number value =>
    match Number.isWhole value, Number.truncate? value with
    | true, some whole => return whole
    | _, _ => rangeError "cannot convert number to BigInt"
  | _ => typeError "cannot convert value to a BigInt"

/-- What the library says about integers without bounds. -/
def wholes : List Entry :=
  let maker := Intrinsic.whole.constructor
  [.constructor .whole "BigInt" 1 fun given => do
    if given.creates then typeError "BigInt is not a constructor"
    return .whole (← toWhole given.machine given.first)] ++
  Entry.methods maker
    [("asIntN", 2, fun given => do
        let bits ← toLength given.machine given.first
        let value ← toWhole given.machine given.second
        return .whole (value.bmod (Nat.pow 2 bits))),
     ("asUintN", 2, fun given => do
        let bits ← toLength given.machine given.first
        let value ← toWhole given.machine given.second
        return .whole (value.emod (Nat.pow 2 bits)))] ++
  Entry.methods Intrinsic.whole.place
    [("toString", 0, fun given => do
        let value ← selfWhole given
        let base ← baseOf given.machine given.first
        let digits := String.ofList (Number.digitText base value.natAbs)
        return .text (if value < 0 then "-" ++ digits else digits)),
     ("toLocaleString", 0, fun given => do return .text (toString (← selfWhole given))),
     ("valueOf", 0, fun given => do return .whole (← selfWhole given))] ++
  [.constant Intrinsic.whole.place WellKnown.toStringTag.key (.text "BigInt")]

/-! ## Truth values -/

/-- The truth value that `this` is. -/
def selfBoolean (given : Given) : Run Bool := do
  match given.self with
  | .boolean value => return value
  | .object place =>
    match (← objectAt place).kind with
    | .wrapper (.boolean value) => return value
    | _ => typeError "'this' is not a boolean"
  | _ => typeError "'this' is not a boolean"

/-- What the library says about truth values. -/
def booleans : List Entry :=
  [.constructor .boolean "Boolean" 1 fun given => do
    let value := Value.boolean (isTrue given.first)
    if given.creates then
      let parent ← prototypeFor given.machine given.newTarget .boolean
      return .object (← addObject (.wrapper value) (some parent))
    return value] ++
  Entry.methods Intrinsic.boolean.place
    [("toString", 0, fun given => do
        textValue (if ← selfBoolean given then "true" else "false")),
     ("valueOf", 0, fun given => do return .boolean (← selfBoolean given))]

/-! ## Symbols -/

/-- The symbol that `this` is. -/
def selfSymbol (given : Given) : Run Nat := do
  match given.self with
  | .symbol number => return number
  | .object place =>
    match (← objectAt place).kind with
    | .wrapper (.symbol number) => return number
    | _ => typeError "'this' is not a Symbol"
  | _ => typeError "'this' is not a Symbol"

def descriptionOf (number : Nat) : Run (Option Units) :=
  look fun memory => (memory.symbols[number]?).getD none

def newSymbol (description : Option Units) : Run Nat :=
  update fun memory =>
    (memory.symbols.size, { memory with symbols := memory.symbols.push description })

/-- The symbols that every script finds, with their names. -/
def wellKnownSymbols : List (WellKnown × String) :=
  [(.iterator, "iterator"), (.asyncIterator, "asyncIterator"), (.hasInstance, "hasInstance"),
   (.toPrimitive, "toPrimitive"), (.toStringTag, "toStringTag"), (.species, "species"),
   (.isConcatSpreadable, "isConcatSpreadable"), (.unscopables, "unscopables"),
   (.matching, "match"), (.matchAll, "matchAll"), (.replace, "replace"), (.search, "search"),
   (.split, "split")]

def symbols : List Entry :=
  let maker := Intrinsic.symbol.constructor
  let prototype := Intrinsic.symbol.place
  [.constructor .symbol "Symbol" 0 fun given => do
    if given.creates then typeError "Symbol is not a constructor"
    let description ← match given.first with
      | .undefined => pure none
      | value => do pure (some (← toText given.machine value))
    return .symbol (← newSymbol description)] ++
  (wellKnownSymbols.map fun (symbol, name) =>
    .constant maker (.ofString name) (.symbol symbol.number)) ++
  Entry.methods maker
    [("for", 1, fun given => do
        let text ← toText given.machine given.first
        match ← look (·.registry.lookup text) with
        | some number => return .symbol number
        | none =>
          let number ← newSymbol (some text)
          modify fun memory => { memory with registry := (text, number) :: memory.registry }
          return .symbol number),
     ("keyFor", 1, fun given => do
        match given.first with
        | .symbol number =>
          match ← look fun memory => memory.registry.find? (·.2 == number) with
          | some (text, _) => return .text text
          | none => nothing
        | _ => typeError "Symbol.keyFor: not a symbol")] ++
  Entry.methods prototype
    [("toString", 0, fun given => do
        let description ← descriptionOf (← selfSymbol given)
        return .text (Units.concat ["Symbol(", description.getD Units.empty, ")"])),
     ("valueOf", 0, fun given => do return .symbol (← selfSymbol given))] ++
  [.accessor prototype "description" (fun given => do
      match ← descriptionOf (← selfSymbol given) with
      | some description => return .text description
      | none => nothing) none,
   .method prototype WellKnown.toPrimitive.key 1
     fun given => do return .symbol (← selfSymbol given),
   .constant prototype WellKnown.toStringTag.key (.text "Symbol")]

/-! ## Mathematics -/

def ofNumber (function : Float → Float) (given : Given) : Run Value := do
  return .number (function (← toNumber given.machine given.first))

def ofNumbers (function : Float → Float → Float) (given : Given) : Run Value := do
  let first ← toNumber given.machine given.first
  let second ← toNumber given.machine given.second
  return .number (function first second)

/-- The larger of two numbers. Positive zero is larger than negative zero. -/
def larger (x y : Float) : Float :=
  if x.isNaN || y.isNaN then Number.nan
  else if x == 0 && y == 0 then (if Number.isNegativeZero x then y else x)
  else if x < y then y else x

/-- The smaller of two numbers. Negative zero is smaller than positive zero. -/
def smaller (x y : Float) : Float :=
  if x.isNaN || y.isNaN then Number.nan
  else if x == 0 && y == 0 then (if Number.isNegativeZero x then x else y)
  else if y < x then y else x

/-- The whole number nearest to a number; of two the larger one. -/
def roundUp (x : Float) : Float :=
  if !x.isFinite || x == 0 then x
  else if 0 < x && x < 0.5 then 0
  else if x < 0 && -0.5 ≤ x then -0.0
  else
    let floor := x.floor
    if x - floor < 0.5 then floor else floor + 1

def signOf (x : Float) : Float :=
  if x.isNaN || x == 0 then x else if x < 0 then -1 else 1

def leadingZeros (word : UInt32) : Nat :=
  if word == 0 then 32 else 31 - word.toNat.log2

def numbersGiven (given : Given) : Run (List Float) :=
  given.arguments.mapM (toNumber given.machine ·)

def mathematics : List Entry :=
  let holder := Intrinsic.math.place
  Entry.numbers holder
    [("E", 2.718281828459045), ("LN10", 2.302585092994046), ("LN2", 0.6931471805599453),
     ("LOG10E", 0.4342944819032518), ("LOG2E", 1.4426950408889634), ("PI", 3.141592653589793),
     ("SQRT1_2", 0.7071067811865476), ("SQRT2", 1.4142135623730951)] ++
  Entry.methods holder
    [("abs", 1, ofNumber Float.abs), ("floor", 1, ofNumber Float.floor),
     ("ceil", 1, ofNumber Float.ceil), ("trunc", 1, ofNumber Number.truncate),
     ("round", 1, ofNumber roundUp), ("sign", 1, ofNumber signOf),
     ("sqrt", 1, ofNumber Float.sqrt), ("cbrt", 1, ofNumber Float.cbrt),
     ("exp", 1, ofNumber Float.exp), ("expm1", 1, ofNumber fun x => x.exp - 1),
     ("log", 1, ofNumber Float.log), ("log1p", 1, ofNumber fun x => (1 + x).log),
     ("log2", 1, ofNumber Float.log2), ("log10", 1, ofNumber Float.log10),
     ("sin", 1, ofNumber Float.sin), ("cos", 1, ofNumber Float.cos),
     ("tan", 1, ofNumber Float.tan), ("asin", 1, ofNumber Float.asin),
     ("acos", 1, ofNumber Float.acos), ("atan", 1, ofNumber Float.atan),
     ("sinh", 1, ofNumber Float.sinh), ("cosh", 1, ofNumber Float.cosh),
     ("tanh", 1, ofNumber Float.tanh), ("asinh", 1, ofNumber Float.asinh),
     ("acosh", 1, ofNumber Float.acosh), ("atanh", 1, ofNumber Float.atanh),
     ("atan2", 2, ofNumbers Float.atan2), ("pow", 2, ofNumbers Number.power),
     ("fround", 1, ofNumber fun x => x.toFloat32.toFloat),
     ("clz32", 1, ofNumber fun x => Float.ofNat (leadingZeros (Number.toWord x))),
     ("imul", 2, ofNumbers fun x y => Number.ofSignedWord (Number.toWord x * Number.toWord y)),
     ("random", 0, fun _ => return .number 0.5),
     ("hypot", 2, fun given => do
        let values ← numbersGiven given
        if values.any Float.isInf then return .number Number.infinity
        return .number (values.foldl (fun sum x => sum + x * x) 0).sqrt),
     ("max", 2, fun given => do
        return .number ((← numbersGiven given).foldl larger (-Number.infinity))),
     ("min", 2, fun given => do
        return .number ((← numbersGiven given).foldl smaller Number.infinity))] ++
  [.constant holder WellKnown.toStringTag.key (.text "Math")]

end PageWatch.Script.Library
