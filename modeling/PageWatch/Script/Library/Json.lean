import PageWatch.Script.Library.Array

/-!
# Data as text in the library

Values written as data, and read back.
-/

namespace PageWatch.Script.Library

open Text Run

/-! ## Reading -/

/-- A value that can be written as data. -/
inductive Datum where
  | null
  | boolean (value : Bool)
  | number (value : Float)
  | text (value : Units)
  | array (items : List Datum)
  | object (members : List (Units × Datum))
  deriving Inhabited

namespace Datum

def unitsOf (text : String) : List UInt16 := (Units.ofString text).units.toList

def skipBlanks (text : List UInt16) : List UInt16 :=
  text.dropWhile fun unit => unit == 32 || unit == 10 || unit == 13 || unit == 9

/-- The rest of a text that begins with another one. -/
def after? (front : String) (text : List UInt16) : Option (List UInt16) :=
  let front := unitsOf front
  if text.take front.length == front then some (text.drop front.length) else none

def charOf (unit : UInt16) : Char := Char.ofNat unit.toNat

def isDigit (unit : UInt16) : Bool := 48 ≤ unit && unit ≤ 57

/-- The unit that follows a backslash, if it stands for one. -/
def escaped? (unit : UInt16) : Option UInt16 :=
  match charOf unit with
  | '"' => some 34
  | '\\' => some 92
  | '/' => some 47
  | 'b' => some 8
  | 'f' => some 12
  | 'n' => some 10
  | 'r' => some 13
  | 't' => some 9
  | _ => none

/-- Reads a text after its opening quote. The units come last first. -/
def readText : List UInt16 → List UInt16 → Option (Units × List UInt16)
  | [], _ => none
  | 34 :: rest, units => some (⟨units.reverse.toArray⟩, rest)
  | 92 :: 117 :: a :: b :: c :: d :: rest, units => do
    let digits ← [a, b, c, d].mapM fun unit => hexValue? (charOf unit)
    readText rest ((digits.foldl (fun value digit => value * 16 + digit) 0).toUInt16 :: units)
  | 92 :: unit :: rest, units => do readText rest ((← escaped? unit) :: units)
  | unit :: rest, units => if unit < 32 then none else readText rest (unit :: units)

def readNumber (text : List UInt16) : Option (Float × List UInt16) := do
  let (negative, rest) := match text with
    | 45 :: rest => (true, rest)
    | _ => (false, text)
  let whole := rest.takeWhile isDigit
  if whole.isEmpty || (whole.head? == some 48 && 1 < whole.length) then none
  let rest := rest.dropWhile isDigit
  let (fraction, rest) ← match rest with
    | 46 :: behind =>
      let digits := behind.takeWhile isDigit
      if digits.isEmpty then none else some (digits, behind.dropWhile isDigit)
    | _ => some ([], rest)
  let (exponent, rest) ← match rest with
    | unit :: behind =>
      if unit == 101 || unit == 69 then
        let (sign, behind) := match behind with
          | 45 :: behind => ([45], behind)
          | 43 :: behind => ([], behind)
          | _ => (([] : List UInt16), behind)
        let digits := behind.takeWhile isDigit
        if digits.isEmpty then none else some (101 :: sign ++ digits, behind.dropWhile isDigit)
      else some ([], rest)
    | [] => some ([], [])
  let written := whole ++ (if fraction.isEmpty then [] else 46 :: fraction) ++ exponent
  let value := Number.read ⟨written.toArray⟩
  return (if negative then -value else value, rest)

mutual

/-- Reads a value. The number bounds the steps. -/
def read : Nat → List UInt16 → Option (Datum × List UInt16)
  | 0, _ => none
  | steps + 1, units =>
    match skipBlanks units with
    | 34 :: rest => (readText rest []).map fun (value, rest) => (.text value, rest)
    | 91 :: rest =>
      match skipBlanks rest with
      | 93 :: rest => some (.array [], rest)
      | _ => readItems steps rest []
    | 123 :: rest =>
      match skipBlanks rest with
      | 125 :: rest => some (.object [], rest)
      | _ => readMembers steps rest []
    | units =>
      match after? "null" units, after? "true" units, after? "false" units with
      | some rest, _, _ => some (.null, rest)
      | _, some rest, _ => some (.boolean true, rest)
      | _, _, some rest => some (.boolean false, rest)
      | _, _, _ => (readNumber units).map fun (value, rest) => (.number value, rest)

/-- Reads the items of an array, after some that come last first. -/
def readItems : Nat → List UInt16 → List Datum → Option (Datum × List UInt16)
  | 0, _, _ => none
  | steps + 1, units, items => do
    let (item, rest) ← read steps units
    match skipBlanks rest with
    | 44 :: rest => readItems steps rest (item :: items)
    | 93 :: rest => some (.array (item :: items).reverse, rest)
    | _ => none

/-- Reads the members of an object, after some that come last first. -/
def readMembers : Nat → List UInt16 → List (Units × Datum) → Option (Datum × List UInt16)
  | 0, _, _ => none
  | steps + 1, units, members => do
    match skipBlanks units with
    | 34 :: rest =>
      let (name, rest) ← readText rest []
      match skipBlanks rest with
      | 58 :: rest =>
        let (value, rest) ← read steps rest
        match skipBlanks rest with
        | 44 :: rest => readMembers steps rest ((name, value) :: members)
        | 125 :: rest => some (.object ((name, value) :: members).reverse, rest)
        | _ => none
      | _ => none
    | _ => none

end

/-- The value that a text writes. -/
def ofText? (text : Units) : Option Datum := do
  let (value, rest) ← read (2 * text.size + 2) text.units.toList
  if (skipBlanks rest).isEmpty then some value else none

mutual

/-- The value of a script that data stands for. -/
def build : Datum → Run Value
  | .null => return .null
  | .boolean value => return .boolean value
  | .number value => return .number value
  | .text value => return .text value
  | .array items => do return .object (← newArray (← buildItems items))
  | .object members => do
    let place ← newObject
    buildMembers place members
    return .object place

def buildItems : List Datum → Run (List Value)
  | [] => return []
  | item :: items => do
    let value ← build item
    return value :: (← buildItems items)

def buildMembers (place : ObjectId) : List (Units × Datum) → Run Unit
  | [] => return
  | (name, value) :: members => do
    putProperty place (.ofText name) (.ofValue (← build value))
    buildMembers place members

end

end Datum

/-- Lets a function change what has been read, from the inside out. -/
def revive (machine : Machine) (reviver : Value) : Nat → ObjectId → Key → Run Value
  | 0, _, _ => stop .exhausted
  | steps + 1, holder, key => do
    let value ← getOf machine holder key
    match value with
    | .object place =>
      let keys ← if ← isArrayValue value then do
          pure ((List.range (← lengthLike machine place)).map Key.index)
        else shownKeys machine place
      for key in keys do
        match ← revive machine reviver steps place key with
        | .undefined => discard <| remove machine place key
        | new => discard <| define machine place key (.ofValue new)
    | _ => pure ()
    machine.call reviver (.object holder) [keyValue key, value]

/-! ## Writing -/

/-- How a unit is written in a quoted text. -/
def quoteUnit (unit : UInt16) : List UInt16 :=
  match unit.toNat with
  | 34 => [92, 34]
  | 92 => [92, 92]
  | 8 => Datum.unitsOf "\\b"
  | 12 => Datum.unitsOf "\\f"
  | 10 => Datum.unitsOf "\\n"
  | 13 => Datum.unitsOf "\\r"
  | 9 => Datum.unitsOf "\\t"
  | code => if code < 32 then escapeUnit code else [unit]
where
  /-- The number of a unit, as an escape. -/
  escapeUnit (code : Nat) : List UInt16 :=
    let digits := Nat.toDigits 16 code
    Datum.unitsOf (String.ofList ('\\' :: 'u' :: (List.replicate (4 - digits.length) '0' ++ digits)))

/-- A text in quotes. Surrogates without their partners are written as numbers. -/
def quoteText (text : Units) : Units :=
  let body := text.codePoints.flatMap fun code =>
    if 0xD800 ≤ code && code ≤ 0xDFFF then quoteUnit.escapeUnit code
    else if code < 0x10000 then quoteUnit code.toUInt16
    else (Units.ofCodePoint code).units.toList
  ⟨(34 :: (body ++ [34])).toArray⟩

/-- What decides how values are written. -/
structure Writing where
  machine : Machine
  /-- Changes values before they are written. -/
  replacer : Option Value
  /-- The only members of objects that are written. -/
  allowed : Option (List Key)
  /-- What lines are indented by, for each level. -/
  gap : Units

def valueToWrite (writing : Writing) (holder : ObjectId) (key : Key) : Run Value := do
  let machine := writing.machine
  let value ← getOf machine holder key
  let value ← match value with
    | .object _ | .whole _ =>
      let method ← get machine value "toJSON"
      if ← isCallable method then machine.call method value [keyValue key] else pure value
    | _ => pure value
  let value ← match writing.replacer with
    | some replacer => machine.call replacer (.object holder) [keyValue key, value]
    | none => pure value
  match value with
  | .object place =>
    match (← objectAt place).kind with
    | .wrapper (.number _) => return .number (← toNumber machine value)
    | .wrapper (.text _) => return .text (← toText machine value)
    | .wrapper (.boolean inner) => return .boolean inner
    | .wrapper (.whole inner) => return .whole inner
    | _ => return value
  | _ => return value

/-- Puts written members between brackets. -/
def enclose (writing : Writing) (indent : Units) (opener closer : String)
    (members : List Units) : Units :=
  if members.isEmpty then Units.concat [opener, closer]
  else if writing.gap.size == 0 then
    Units.concat [opener, Units.intercalate "," members, closer]
  else
    let inner := indent ++ writing.gap
    Units.concat
      [opener, "\n", inner, Units.intercalate (Units.concat [",\n", inner]) members, "\n", indent,
       closer]

/-- Writes the value of a member, unless it cannot be written. -/
def writeValue (writing : Writing) :
    Nat → List ObjectId → Units → ObjectId → Key → Run (Option Units)
  | 0, _, _, _, _ => stop .exhausted
  | steps + 1, around, indent, holder, key => do
    match ← valueToWrite writing holder key with
    | .null => return some "null"
    | .boolean value => return some (if value then "true" else "false")
    | .text value => return some (quoteText value)
    | .number value => return some (if value.isFinite then Number.text value else "null")
    | .whole _ => typeError "cannot serialize bigint to JSON"
    | .undefined | .symbol _ => return none
    | .object place =>
      if ← isCallable (.object place) then return none
      if around.contains place then typeError "cyclic object value"
      let around := place :: around
      let inner := indent ++ writing.gap
      if ← isArrayValue (.object place) then
        let length ← lengthLike writing.machine place
        let items ← forPositions length [] fun items position => do
          let item ← writeValue writing steps around inner place (.index position)
          return item.getD "null" :: items
        return some (enclose writing indent "[" "]" items.reverse)
      else
        let keys ← match writing.allowed with
          | some keys => pure keys
          | none => shownKeys writing.machine place
        let colon : Units := if writing.gap.size == 0 then ":" else ": "
        let members ← keys.filterMapM fun key => do
          match ← writeValue writing steps around inner place key with
          | some value =>
            return some (Units.concat [quoteText (key.text?.getD Units.empty), colon, value])
          | none => return none
        return some (enclose writing indent "\x7b" "\x7d" members)

def allowedKeys (machine : Machine) (place : ObjectId) : Run (List Key) := do
  let keys ← (← listLike machine place).filterMapM fun value => do
    match value with
    | .text text => return some (Key.ofText text)
    | .number _ => return some (Key.ofText (← toText machine value))
    | .object inner =>
      match (← objectAt inner).kind with
      | .wrapper (.text _) | .wrapper (.number _) =>
        return some (Key.ofText (← toText machine value))
      | _ => return none
    | _ => return none
  return keys.eraseDups

/-- What lines are indented by. -/
def gapOf (machine : Machine) (value : Value) : Run Units := do
  let value ← match value with
    | .object place =>
      match (← objectAt place).kind with
      | .wrapper (.number _) => do pure (Value.number (← toNumber machine value))
      | .wrapper (.text _) => do pure (Value.text (← toText machine value))
      | _ => pure value
    | _ => pure value
  match value with
  | .number _ =>
    let count ← toPosition machine value 10 0
    return Units.repeated " " (min count 10)
  | .text text => return text.slice 0 10
  | _ => return Units.empty

def stringify (given : Given) : Run Value := do
  let (replacer, allowed) ← match given.second with
    | .object place =>
      if ← isCallable given.second then pure (some given.second, none)
      else if ← isArrayValue given.second then do
        pure (none, some (← allowedKeys given.machine place))
      else pure (none, none)
    | _ => pure (none, none)
  let gap ← match given.argument 2 with
    | .number value => gapOf given.machine (.number (if value < 1 then 0 else value))
    | value => gapOf given.machine value
  let holder ← newObject
  put given.machine holder "" given.first
  match ← writeValue ⟨given.machine, replacer, allowed, gap⟩ 100000 [] Units.empty holder "" with
  | some text => return .text text
  | none => nothing

/-- What the library says about data as text. -/
def data : List Entry :=
  let holder := Intrinsic.json.place
  Entry.methods holder
    [("parse", 2, fun given => do
        let text ← toText given.machine given.first
        match Datum.ofText? text with
        | none => raise .syntaxError "invalid JSON"
        | some datum =>
          let value ← datum.build
          if ← isCallable given.second then
            let root ← newObject
            put given.machine root "" value
            revive given.machine given.second 100000 root ""
          else return value),
     ("stringify", 3, stringify)] ++
  [.constant holder WellKnown.toStringTag.key (.text "JSON")]

end PageWatch.Script.Library
