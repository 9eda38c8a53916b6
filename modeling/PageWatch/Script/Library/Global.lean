import PageWatch.Script.Library.Number
import PageWatch.Script.Library.Object
import PageWatch.Script.Program

/-!
# Global functions in the library

What scripts find under names of their own: functions that read and write texts, and
those that work on objects as operators do.
-/

namespace PageWatch.Script.Library

open Text Run

/-! ## Addresses -/

/-- The bytes of a text, unless it has a surrogate without its partner. -/
def bytesOf? (code : Nat) : Option (List Nat) :=
  if 0xD800 ≤ code && code ≤ 0xDFFF then none
  else some ((String.singleton (Char.ofNat code)).toUTF8.toList.map UInt8.toNat)

def escapeByte (byte : Nat) : List Char :=
  let digits := (Nat.toDigits 16 byte).map Char.toUpper
  '%' :: (if byte < 16 then '0' :: digits else digits)

/-- The characters that stay as they are in a part of an address. -/
def plainInPart : String :=
  "ABCDEFGHIJKLMNOPQRSTUVWXYZabcdefghijklmnopqrstuvwxyz0123456789-_.!~*'()"

/-- The characters that stay as they are in a whole address. -/
def plainInWhole : String := plainInPart ++ ";/?:@&=+$,#"

/-- Writes all but some characters as escapes. -/
def encodeAddress (plain : String) (given : Given) : Run Value := do
  let text ← toText given.machine given.first
  let pieces ← text.codePoints.mapM fun code => do
    let c := Char.ofNat code
    if plain.toList.contains c then return [c]
    match bytesOf? code with
    | some bytes => return bytes.flatMap escapeByte
    | none => raise .uriError "trying to encode an invalid string"
  return .text (String.ofList pieces.flatten)

/-- Reads an escape at the front of a text. -/
def readByte? : List Char → Option (Nat × List Char)
  | '%' :: a :: b :: rest => do
    return ((← hexValue? a) * 16 + (← hexValue? b), rest)
  | _ => none

/-- How many bytes a character has that begins with a byte. -/
def byteLength (first : Nat) : Nat :=
  if first < 0x80 then 1
  else if 0xC2 ≤ first && first < 0xE0 then 2
  else if 0xE0 ≤ first && first < 0xF0 then 3
  else if 0xF0 ≤ first && first < 0xF5 then 4
  else 0

/-- Reads some escapes at the front of a text. -/
def readBytes? : Nat → List Char → Option (List Nat × List Char)
  | 0, text => some ([], text)
  | count + 1, text => do
    let (byte, rest) ← readByte? text
    let (bytes, rest) ← readBytes? count rest
    return (byte :: bytes, rest)

/-- Replaces escapes by what they stand for, except for some characters. The number
bounds the steps. -/
def decodeAddress? (kept : String) : Nat → List Char → Option (List Char)
  | 0, _ => some []
  | _, [] => some []
  | steps + 1, '%' :: rest => do
    let text := '%' :: rest
    let (first, _) ← readByte? text
    let count := byteLength first
    if count == 0 then none
    let (bytes, after) ← readBytes? count text
    let decoded ← String.fromUTF8? ⟨(bytes.map fun byte => byte.toUInt8).toArray⟩
    let decoded := decoded.toList
    let shown := if decoded.all kept.toList.contains then text.take (3 * count) else decoded
    return shown ++ (← decodeAddress? kept steps after)
  | steps + 1, c :: rest => do return c :: (← decodeAddress? kept steps rest)

/-- Replaces escapes by what they stand for, except for some characters. -/
def decodeAddress (kept : String) (given : Given) : Run Value := do
  let text := (← toText given.machine given.first).write
  match decodeAddress? kept (text.length + 1) text.toList with
  | some decoded => return .text (String.ofList decoded)
  | none => raise .uriError "invalid hexadecimal digit found"

/-! ## Escapes of units -/

/-- The characters that stay as they are where units are escaped. -/
def plainUnits : String :=
  "ABCDEFGHIJKLMNOPQRSTUVWXYZabcdefghijklmnopqrstuvwxyz0123456789@*_+-./"

/-- A number in hexadecimal digits, with zeros before it up to a width. -/
def hexDigits (width number : Nat) : List Char :=
  let digits := (Nat.toDigits 16 number).map Char.toUpper
  List.replicate (width - digits.length) '0' ++ digits

/-- Writes all but some units of a text as escapes. -/
def escapeUnits (given : Given) : Run Value := do
  let text ← toText given.machine given.first
  let escape (unit : UInt16) : List Char :=
    if plainUnits.toList.any fun c => c.toNat == unit.toNat then [Char.ofNat unit.toNat]
    else if unit < 256 then '%' :: hexDigits 2 unit.toNat
    else '%' :: 'u' :: hexDigits 4 unit.toNat
  return .text (String.ofList (text.units.toList.flatMap escape))

def hexNumber? (digits : List UInt16) : Option UInt16 := do
  let values ← digits.mapM fun digit => hexValue? (Char.ofNat digit.toNat)
  return UInt16.ofNat (values.foldl (fun number value => number * 16 + value) 0)

/-- Replaces escapes of units by the units. What is no escape stays as it is. The number
bounds the steps. -/
def unescapeAll : Nat → List UInt16 → List UInt16
  | 0, units => units
  | _, [] => []
  | steps + 1, unit :: rest =>
    let long := match unit, rest with
      | 37, 117 :: a :: b :: c :: d :: after => (hexNumber? [a, b, c, d]).map (·, after)
      | _, _ => none
    let short := match unit, rest with
      | 37, a :: b :: after => (hexNumber? [a, b]).map (·, after)
      | _, _ => none
    match long.or short with
    | some (unit, after) => unit :: unescapeAll steps after
    | none => unit :: unescapeAll steps rest

/-- Replaces escapes of units by the units. -/
def unescapeUnits (given : Given) : Run Value := do
  let text ← toText given.machine given.first
  return .text ⟨(unescapeAll text.size text.units.toList).toArray⟩

/-! ## Global names -/

def evaluateText (given : Given) : Run Value := do
  match given.first with
  | .text text =>
    match Program.after? (← look (·.codes)) text.write with
    | some program => evaluateProgram given.machine program
    | none => raise .syntaxError "invalid script"
  | value => return value

/-- What scripts find under global names. -/
def globals : List Entry :=
  let global := Intrinsic.global.place
  [.constant global "undefined" .undefined, .constant global "NaN" (.number Number.nan),
   .constant global "Infinity" (.number Number.infinity),
   .changeable global "globalThis" (.object global) false,
   .changeable global "Math" (.object Intrinsic.math.place) false,
   .changeable global "JSON" (.object Intrinsic.json.place) false,
   .changeable global "Reflect" (.object Intrinsic.reflect.place) false,
   .also global "parseFloat" Intrinsic.number.constructor "parseFloat",
   .also global "parseInt" Intrinsic.number.constructor "parseInt"] ++
  Entry.methods global
    [("isNaN", 1, fun given => do
        return .boolean (← toNumber given.machine given.first).isNaN),
     ("isFinite", 1, fun given => do
        return .boolean (← toNumber given.machine given.first).isFinite),
     ("eval", 1, evaluateText),
     ("escape", 1, escapeUnits),
     ("unescape", 1, unescapeUnits),
     ("encodeURIComponent", 1, encodeAddress plainInPart),
     ("encodeURI", 1, encodeAddress plainInWhole),
     ("decodeURIComponent", 1, decodeAddress ""),
     ("decodeURI", 1, decodeAddress ";/?:@&=+$,#")]

/-! ## Objects as operators see them -/

/-- The object that the first argument must be. -/
def target (given : Given) : Run ObjectId := objectOf given.first "target must be an object"

def reflection : List Entry :=
  let holder := Intrinsic.reflect.place
  Entry.methods holder
    [("apply", 3, fun given => do
        let callee ← callbackOf given.first
        let list ← objectOf (given.argument 2) "cannot create list from non-object"
        given.machine.call callee given.second (← listLike given.machine list)),
     ("construct", 2, fun given => do
        if !(← isConstructor given.first) then typeError "target must be a constructor"
        let list ← objectOf given.second "cannot create list from non-object"
        let newTarget := if given.has 2 then given.argument 2 else given.first
        if !(← isConstructor newTarget) then typeError "newTarget must be a constructor"
        given.machine.create given.first (← listLike given.machine list) newTarget),
     ("get", 2, fun given => do
        let place ← target given
        let key ← toKey given.machine given.second
        let receiver := if given.has 2 then given.argument 2 else given.first
        getFrom given.machine manyParents place key receiver),
     ("set", 3, fun given => do
        let place ← target given
        let key ← toKey given.machine given.second
        let receiver := if given.has 3 then given.argument 3 else given.first
        return .boolean (← setFrom given.machine manyParents place key (given.argument 2) receiver)),
     ("has", 2, fun given => do
        return .boolean (← has given.machine (← target given) (← toKey given.machine given.second))),
     ("deleteProperty", 2, fun given => do
        return .boolean
          (← remove given.machine (← target given) (← toKey given.machine given.second))),
     ("ownKeys", 1, fun given => do
        return .object (← newArray ((← ownKeys given.machine (← target given)).map keyValue))),
     ("getPrototypeOf", 1, fun given => do parentValue given (← target given)),
     ("setPrototypeOf", 2, fun given => do
        let parent ← parentArgument given.second
        return .boolean (← setParent given.machine (← target given) parent)),
     ("defineProperty", 3, fun given => do
        let key ← toKey given.machine given.second
        let description ← readDescription given.machine (given.argument 2)
        return .boolean (← defineDescribed given.machine (← target given) key description)),
     ("getOwnPropertyDescriptor", 2, fun given => do
        match ← ownProperty? given.machine (← target given) (← toKey given.machine given.second) with
        | some property => describingObject (.ofProperty property)
        | none => nothing),
     ("isExtensible", 1, fun given => do
        return .boolean (← Run.isExtensible given.machine (← target given))),
     ("preventExtensions", 1, fun given => do
        return .boolean (← Run.preventExtensions given.machine (← target given)))] ++
  [.constructor .proxy "Proxy" 2 fun given => do
    if !given.creates then typeError "Proxy requires new"
    match given.first, given.second with
    | .object inner, .object handler =>
      return .object (← addObject (.proxy inner handler (← isCallable given.first)
        (← isConstructor given.first)) none)
    | _, _ => typeError "Proxy constructor requires object arguments"]

end PageWatch.Script.Library
