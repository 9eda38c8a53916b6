import PageWatch.Script.Library.Regex
import PageWatch.Text.Case

/-!
# Texts in the library
-/

namespace PageWatch.Script.Library

open Text Run

/-- The text that `this` is. -/
def selfText (given : Given) : Run Units := do
  match given.self with
  | .text text => return text
  | .undefined | .null => typeError "cannot convert 'null' or 'undefined' to object"
  | value => toText given.machine value

/-- A position of an argument within a text, where all that lies outside is moved to its
ends. -/
def positionWithin (machine : Machine) (value : Value) (length missing : Nat) : Run Nat := do
  match value with
  | .undefined => return missing
  | _ =>
    let number ← toWholeNumber machine value
    return if number ≤ 0 then 0
      else if Float.ofNat length ≤ number then length else number.toUInt64.toNat

/-- The position of an argument in a text, if it lies in it. -/
def positionIn? (machine : Machine) (value : Value) (length : Nat) : Run (Option Nat) := do
  let number ← toWholeNumber machine value
  return if number < 0 || Float.ofNat length ≤ number then none else some number.toUInt64.toNat

/-- Fills a text up to a length, in front or behind. -/
def pad (inFront : Bool) (given : Given) : Run Value := do
  let text ← selfText given
  let length ← toLength given.machine given.first
  let filler ← match given.second with
    | .undefined => pure (Units.ofString " ")
    | value => toText given.machine value
  if length ≤ text.size || filler.size == 0 then return .text text
  let missing := length - text.size
  let padding := (filler.repeated (missing / filler.size + 1)).slice 0 missing
  return .text (if inFront then padding ++ text else text ++ padding)

/-- What takes the place of a part of a text. -/
def replacement (given : Given) (whole part : Units) (position : Nat) : Run Units :=
  replacementFor given.machine ⟨whole, part, position, []⟩ none given.second

/-- The positions of a text in another one that do not overlap. The number bounds the
steps. -/
def positionsOf (part whole : Units) : Nat → Nat → List Nat
  | 0, _ => []
  | steps + 1, start =>
    match part.findFrom whole start with
    | some position => position :: positionsOf part whole steps (position + max part.size 1)
    | none => []

def replaceAtAll (given : Given) (whole part : Units) (positions : List Nat) : Run Value := do
  let (pieces, last) ← positions.foldlM (fun (pieces, last) position => do
    let between := whole.slice last position
    let new ← replacement given whole part position
    return (new :: between :: pieces, position + part.size)) (([], 0) : List Units × Nat)
  return .text (Units.concat ((whole.slice last whole.size :: pieces).reverse))

def split (given : Given) : Run Value := do
  let text ← selfText given
  let limit ← match given.second with
    | .undefined => pure 4294967295
    | value => do pure (Number.toWord (← toNumber given.machine value)).toNat
  let pieces ← match given.first with
    | .undefined => pure [text]
    | value =>
      let between ← toText given.machine value
      if between.size == 0 then
        pure ((List.range text.size).map fun position => text.slice position (position + 1))
      else
        let positions := positionsOf between text (text.size + 1) 0
        let starts := 0 :: positions.map (· + between.size)
        let stops := positions ++ [text.size]
        pure ((starts.zip stops).map fun (start, stop) => text.slice start stop)
  return .object (← newArray ((pieces.take limit).map Value.text))

/-- The text that is searched for, which the first argument is. -/
def searched (given : Given) : Run Units := toText given.machine given.first

/-- The text that is searched for, which is not to be a regular expression. -/
def searchedText (given : Given) : Run Units := do
  if ← isRegex given.machine given.first then
    typeError "First argument to String.prototype function must not be a regular expression"
  searched given

/-- Leaves an operation to its first argument, if that has a method for it; otherwise does
it in another way. -/
def leavingTo (symbol : WellKnown) (otherwise : Given → Run Value) (given : Given) :
    Run Value := do
  match given.self with
  | .undefined | .null => typeError "cannot convert 'null' or 'undefined' to object"
  | _ => pure ()
  match given.first with
  | .undefined | .null => otherwise given
  | other =>
    match ← method? given.machine other symbol.key with
    | some method => given.machine.call method other (given.self :: given.arguments.drop 1)
    | none => otherwise given

/-- Does an operation with a regular expression that is made of the first argument. -/
def withRegex (symbol : WellKnown) (flags : String) (given : Given) : Run Value := do
  let text ← selfText given
  let source ← textOrEmpty given.machine given.first
  let regex ← createRegex source flags Intrinsic.regex.place
  invoke given.machine (.object regex) symbol.key [.text text]

/-- Checks that a regular expression among the arguments is a global one. -/
def checkGlobal (given : Given) : Run Unit := do
  if ← isRegex given.machine given.first then
    match given.first with
    | .object place =>
      let flags ← toText given.machine (← getOf given.machine place "flags")
      if !flags.units.contains 103 then
        typeError "String.prototype function called with a non-global RegExp argument"
    | _ => pure ()

/-- The functions of texts that look for something. -/
def searchingMethods : List (String × Nat × (Given → Run Value)) :=
  [("includes", 1, fun given => do
      let text ← selfText given
      let part ← searchedText given
      let start ← positionWithin given.machine given.second text.size 0
      return .boolean (part.findFrom text start).isSome),
   ("startsWith", 1, fun given => do
      let text ← selfText given
      let part ← searchedText given
      let start ← positionWithin given.machine given.second text.size 0
      return .boolean (part.standsAt text start)),
   ("endsWith", 1, fun given => do
      let text ← selfText given
      let part ← searchedText given
      let stop ← positionWithin given.machine given.second text.size text.size
      return .boolean (part.size ≤ stop && part.standsAt text (stop - part.size))),
   ("indexOf", 1, fun given => do
      let text ← selfText given
      let part ← searched given
      let start ← positionWithin given.machine given.second text.size 0
      match part.findFrom text start with
      | some position => natValue position
      | none => return .number (-1)),
   ("lastIndexOf", 1, fun given => do
      let text ← selfText given
      let part ← searched given
      let number ← toNumber given.machine given.second
      let stop ← if number.isNaN then pure text.size
        else positionWithin given.machine (.number number) text.size text.size
      match part.findBefore text stop with
      | some position => natValue position
      | none => return .number (-1)),
   ("replace", 2, leavingTo .replace fun given => do
      let text ← selfText given
      let part ← searched given
      replaceAtAll given text part (part.findFrom text 0).toList),
   ("replaceAll", 2, fun given => do
      checkGlobal given
      leavingTo .replace (fun given => do
        let text ← selfText given
        let part ← searched given
        replaceAtAll given text part (positionsOf part text (text.size + 1) 0)) given),
   ("split", 2, leavingTo .split split),
   ("match", 1, leavingTo .matching (withRegex .matching "")),
   ("matchAll", 1, fun given => do
      checkGlobal given
      leavingTo .matchAll (withRegex .matchAll "g") given),
   ("search", 1, leavingTo .search (withRegex .search "")),
   ("localeCompare", 1, fun given => do
      let text ← selfText given
      let other ← searched given
      return .number (if text.lt other then -1 else if other.lt text then 1 else 0))]

def partMethods : List (String × Nat × (Given → Run Value)) :=
  [("charAt", 1, fun given => do
      let text ← selfText given
      match ← positionIn? given.machine given.first text.size with
      | some position => return .text (text.slice position (position + 1))
      | none => textValue ""),
   ("charCodeAt", 1, fun given => do
      let text ← selfText given
      match ← positionIn? given.machine given.first text.size with
      | some position => natValue ((text.units[position]?).map UInt16.toNat |>.getD 0)
      | none => return .number Number.nan),
   ("codePointAt", 1, fun given => do
      let text ← selfText given
      match ← positionIn? given.machine given.first text.size with
      | some position =>
        natValue (((text.slice position (position + 2)).codePoints.head?).getD 0)
      | none => nothing),
   ("at", 1, fun given => do
      let text ← selfText given
      let number ← toWholeNumber given.machine given.first
      let number := if number < 0 then Float.ofNat text.size + number else number
      if number < 0 || Float.ofNat text.size ≤ number then nothing
      else
        let position := number.toUInt64.toNat
        return .text (text.slice position (position + 1))),
   ("slice", 2, fun given => do
      let text ← selfText given
      let start ← toPosition given.machine given.first text.size 0
      let stop ← toPosition given.machine given.second text.size text.size
      return .text (text.slice start stop)),
   ("substring", 2, fun given => do
      let text ← selfText given
      let start ← positionWithin given.machine given.first text.size 0
      let stop ← positionWithin given.machine given.second text.size text.size
      return .text (text.slice (min start stop) (max start stop))),
   ("substr", 2, fun given => do
      let text ← selfText given
      let start ← toPosition given.machine given.first text.size 0
      let length ← positionWithin given.machine given.second text.size (text.size - start)
      return .text (text.slice start (min (start + length) text.size))),
   ("trim", 0, fun given => do return .text (← selfText given).trimLeft.trimRight),
   ("trimStart", 0, fun given => do return .text (← selfText given).trimLeft),
   ("trimEnd", 0, fun given => do return .text (← selfText given).trimRight)]

def ofCodePoints (codes : List Nat) : Units := Units.concat (codes.map Units.ofCodePoint)

def makingMethods : List (String × Nat × (Given → Run Value)) :=
  [("concat", 1, fun given => do
      let text ← selfText given
      let others ← given.arguments.mapM (toText given.machine ·)
      return .text (Units.concat (text :: others))),
   ("padStart", 1, pad true),
   ("padEnd", 1, pad false),
   ("repeat", 1, fun given => do
      let text ← selfText given
      let count ← toWholeNumber given.machine given.first
      if count < 0 || count.isInf then
        rangeError "repeat count must be a positive finite number that doesn't overflow the maximum string length (2^32 - 1)"
      return .text (text.repeated count.toUInt64.toNat)),
   ("toLowerCase", 0, fun given => do
      return .text (ofCodePoints (lowerCaseOf [] (← selfText given).codePoints))),
   ("toUpperCase", 0, fun given => do
      return .text (ofCodePoints ((← selfText given).codePoints.flatMap upperCase))),
   ("toLocaleLowerCase", 0, fun given => do
      return .text (ofCodePoints (lowerCaseOf [] (← selfText given).codePoints))),
   ("toLocaleUpperCase", 0, fun given => do
      return .text (ofCodePoints ((← selfText given).codePoints.flatMap upperCase))),
   ("normalize", 0, fun given => do return .text (← selfText given))]

/-- The text that `this` is, which is not converted. -/
def exactText (given : Given) : Run Value := do
  match given.self with
  | .text text => return .text text
  | .object place =>
    match (← objectAt place).kind with
    | .wrapper (.text text) => return .text text
    | _ => typeError "'this' is not a string"
  | _ => typeError "'this' is not a string"

/-- Puts the raw texts of a template together, with values between them. -/
def rawText (given : Given) : Run Value := do
  let cooked ← toObject given.first
  let raw ← toObject (← getOf given.machine cooked "raw")
  let texts ← (← listLike given.machine raw).mapM (toText given.machine ·)
  let values ← (given.arguments.drop 1).mapM (toText given.machine ·)
  let rec weave : List Units → List Units → List Units
    | [], _ => []
    | [last], _ => [last]
    | text :: texts, value :: values => text :: value :: weave texts values
    | texts, [] => texts
  return .text (Units.concat (weave texts values))

def texts : List Entry :=
  let maker := Intrinsic.text.constructor
  let prototype := Intrinsic.text.place
  [.constructor .text "String" 1 fun given => do
    let text ← match given.has 0, given.first with
      | false, _ => pure Units.empty
      | true, .symbol number =>
        if given.creates then toText given.machine given.first
        else do
          let description ← look fun memory => (memory.symbols[number]?).getD none
          pure (Units.concat ["Symbol(", description.getD Units.empty, ")"])
      | true, value => toText given.machine value
    if given.creates then
      let parent ← prototypeFor given.machine given.newTarget .text
      return .object (← addObject (.wrapper (.text text)) (some parent))
    return .text text] ++
  Entry.methods maker
    [("fromCharCode", 1, fun given => do
        let numbers ← given.arguments.mapM (toNumber given.machine ·)
        return .text ⟨(numbers.map fun number => (Number.toWord number).toUInt16).toArray⟩),
     ("fromCodePoint", 1, fun given => do
        let codes ← given.arguments.mapM fun value => do
          let number ← toNumber given.machine value
          if number < 0 || 1114111 < number || Number.truncate number != number then
            rangeError "codePoint is not a valid Unicode code point"
          return number.toUInt64.toNat
        return .text (ofCodePoints codes)),
     ("raw", 1, rawText)] ++
  Entry.methods prototype (searchingMethods ++ partMethods ++ makingMethods) ++
  Entry.methods prototype [("toString", 0, exactText), ("valueOf", 0, exactText)] ++
  [.method prototype WellKnown.iterator.key 0 fun given => do
    let text ← selfText given
    return .object (← addObject (.iterator (.codePoints text.codePoints))
      (some Intrinsic.arrayIterator.place))]

end PageWatch.Script.Library
