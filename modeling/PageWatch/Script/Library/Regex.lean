import PageWatch.Regex.Matching
import PageWatch.Regex.Reader
import PageWatch.Script.Library.Object

/-!
# Regular expressions in the library
-/

namespace PageWatch.Script.Library

open Text Run

/-! ## Replacements -/

/-- What takes the place of a part of a text can name the part and what is around it. -/
structure Replaced where
  whole : Units
  part : Units
  position : Nat
  /-- What the groups have matched, without the whole. -/
  groups : List (Option Units)

def Replaced.group? (replaced : Replaced) (number : Nat) : Option Units :=
  if number = 0 then none else (replaced.groups[number - 1]?).map fun group => group.getD Units.empty

def digitOf? (unit : UInt16) : Option Nat :=
  if 48 ≤ unit && unit ≤ 57 then some (unit.toNat - 48) else none

/-- What a sign for a group stands for, and how many digits it has. A second digit counts
if there are so many groups. -/
def Replaced.numbered? (replaced : Replaced) (units : List UInt16) : Option (Units × Nat) := do
  let first ← digitOf? (← units.head?)
  let two? := do
    let second ← digitOf? (← units[1]?)
    let group ← replaced.group? (first * 10 + second)
    return (group, 2)
  match two? with
  | some found => some found
  | none => (replaced.group? first).map fun group => (group, 1)

/-- The text that a template stands for. Groups with names are given by a function, if
there are some. The number bounds the steps. -/
def expandTemplate (machine : Machine) (replaced : Replaced) (named : Option ObjectId) :
    Nat → List UInt16 → Run (List UInt16)
  | 0, _ => return []
  | _, [] => return []
  | steps + 1, unit :: rest => do
    let plain : Run (List UInt16) := do
      return unit :: (← expandTemplate machine replaced named steps rest)
    if unit != 36 then plain
    else
      match rest with
      | [] => plain
      | sign :: after =>
        let whole := replaced.whole
        let insert (text : Units) (after : List UInt16) : Run (List UInt16) := do
          return text.units.toList ++ (← expandTemplate machine replaced named steps after)
        if sign == 36 then insert "$" after
        else if sign == 38 then insert replaced.part after
        else if sign == 96 then insert (whole.slice 0 replaced.position) after
        else if sign == 39 then
          insert (whole.slice (replaced.position + replaced.part.size) whole.size) after
        else
          match replaced.numbered? rest with
          | some (text, digits) => insert text (rest.drop digits)
          | none =>
            match named with
            | none => plain
            | some groups =>
              if sign != 60 then plain
              else
                let name := after.takeWhile (· != 62)
                if name.length == after.length then plain
                else
                  match ← getOf machine groups (.ofText ⟨name.toArray⟩) with
                  | .undefined => insert Units.empty (after.drop (name.length + 1))
                  | value => insert (← toText machine value) (after.drop (name.length + 1))

/-- What takes the place of a part of a text: what a function answers, or what a template
stands for. -/
def replacementFor (machine : Machine) (replaced : Replaced) (named : Option ObjectId)
    (new : Value) : Run Units := do
  if ← isCallable new then
    let groups := replaced.groups.map fun group =>
      match group with
      | some text => Value.text text
      | none => .undefined
    let arguments := Value.text replaced.part :: (groups ++
      [countValue replaced.position, .text replaced.whole] ++
      (named.map Value.object).toList)
    toText machine (← machine.call new .undefined arguments)
  else
    let template := (← toText machine new).units.toList
    return ⟨(← expandTemplate machine replaced named (template.length + 1) template).toArray⟩

/-! ## Making regular expressions -/

def flagText (flags : Regex.Flags) : String :=
  let letters := [(flags.indices, 'd'), (flags.global, 'g'), (flags.ignoreCase, 'i'),
    (flags.multiline, 'm'), (flags.dotAll, 's'), (flags.unicode, 'u'), (flags.sticky, 'y')]
  String.ofList ((letters.filter (·.1)).map (·.2))

/-- The regular expression that a value is. -/
def regexOf? (value : Value) : Run (Option (ObjectId × Units × Regex.Rule)) := do
  match value with
  | .object place =>
    match (← objectAt place).kind with
    | .regex source rule => return some (place, source, rule)
    | _ => return none
  | _ => return none

/-- The regular expression that `this` is. -/
def selfRegex (given : Given) : Run (ObjectId × Units × Regex.Rule) := do
  match ← regexOf? given.self with
  | some found => return found
  | none => typeError "`this` is not a RegExp object"

/-- Whether a value is to be taken for a regular expression. -/
def isRegex (machine : Machine) (value : Value) : Run Bool := do
  match value with
  | .object place =>
    match ← getOf machine place WellKnown.matching.key with
    | .undefined => return (← regexOf? value).isSome
    | mark => return isTrue mark
  | _ => return false

/-- Makes a regular expression of texts. -/
def createRegex (source flags : Units) (parent : ObjectId) : Run ObjectId := do
  match Regex.Flags.read? flags.write.toList with
  | none => raise .syntaxError "Invalid regular expression flags"
  | some flags =>
    match Regex.Rule.read? source flags with
    | none => raise .syntaxError "Invalid regular expression pattern"
    | some rule => newRegex source rule parent

/-- The text of a value, the empty one if there is no value. -/
def textOrEmpty (machine : Machine) (value : Value) : Run Units := do
  match value with
  | .undefined => return Units.empty
  | _ => toText machine value

/-- Makes a regular expression of an argument, which can be one. -/
def makeRegex (given : Given) : Run Value := do
  let known ← regexOf? given.first
  let like ← isRegex given.machine given.first
  let same ← match given.first, given.second with
    | .object place, .undefined =>
      if like && !given.creates then
        pure (strictlyEqual (← getOf given.machine place "constructor")
          (.object Intrinsic.regex.constructor))
      else pure false
    | _, _ => pure false
  if same then return given.first
  let parent ← prototypeFor given.machine given.newTarget .regex
  let part (name : String) : Run Value := do
    match given.first with
    | .object place => if like then getOf given.machine place (.ofString name) else return .undefined
    | _ => return .undefined
  let source ← match known with
    | some (_, source, _) => pure source
    | none =>
      if like then textOrEmpty given.machine (← part "source")
      else textOrEmpty given.machine given.first
  let flags ← match given.second with
    | .undefined =>
      match known with
      | some (_, _, rule) => pure (Units.ofString (flagText rule.flags))
      | none => if like then textOrEmpty given.machine (← part "flags") else pure Units.empty
    | value => toText given.machine value
  return .object (← createRegex source flags parent)

/-- What is written of a regular expression between slashes. -/
def escapeSource (inSet : Bool) : List UInt16 → List UInt16
  | [] => []
  | 92 :: unit :: rest => 92 :: unit :: escapeSource inSet rest
  | unit :: rest =>
    if unit == 47 && !inSet then 92 :: 47 :: escapeSource inSet rest
    else if unit == 10 then 92 :: 110 :: escapeSource inSet rest
    else if unit == 13 then 92 :: 114 :: escapeSource inSet rest
    else
      let inSet := if unit == 91 then true else if unit == 93 then false else inSet
      unit :: escapeSource inSet rest

/-- The source of a regular expression, as it can be written between slashes. -/
def sourceText (source : Units) : Units :=
  if source.size == 0 then "(?:)" else ⟨(escapeSource false source.units.toList).toArray⟩

/-! ## Searching -/

/-- What the groups of a match are, the whole first. -/
abbrev Groups := Array (Option (Nat × Nat))

/-- Where a match begins and ends. -/
def wholeSpan (groups : Groups) : Nat × Nat := ((groups[0]?).getD none).getD (0, 0)

def groupText? (text : Units) (span : Option (Nat × Nat)) : Option Units :=
  span.map fun (start, stop) => text.slice start stop

def groupValue (text : Units) (span : Option (Nat × Nat)) : Value :=
  match groupText? text span with
  | some part => .text part
  | none => .undefined

/-- Where a search begins next. -/
def lastIndex (machine : Machine) (place : ObjectId) : Run Nat := do
  toLength machine (← getOf machine place "lastIndex")

/-- Sets where a search begins next. -/
def setLastIndex (machine : Machine) (place : ObjectId) (position : Nat) : Run Unit :=
  set machine (.object place) "lastIndex" (countValue position) true

/-- Searches a text, from where the last search ended if the flags say so. -/
def searchRegex (machine : Machine) (place : ObjectId) (rule : Regex.Rule) (text : Units) :
    Run (Option Groups) := do
  let last ← lastIndex machine place
  let moves := rule.flags.global || rule.flags.sticky
  let start := if moves then last else 0
  if text.size < start then
    if moves then setLastIndex machine place 0
    return none
  let found := if rule.flags.sticky then rule.matchAt? text.units start
    else rule.search? text.units start
  match found with
  | none =>
    if moves then setLastIndex machine place 0
    return none
  | some groups =>
    if moves then setLastIndex machine place (wholeSpan groups).2
    return some groups

/-- The position after another one, or after the pair of surrogates there. -/
def advance (rule : Regex.Rule) (text : Units) (position : Nat) : Nat :=
  if rule.flags.unicode && (text.units[position]?).any Units.isHigh &&
      (text.units[position + 1]?).any Units.isLow then position + 2
  else position + 1

/-- The groups of a match that have names, as an object. -/
def namedGroups (rule : Regex.Rule) (value : Option (Nat × Nat) → Run Value) (groups : Groups) :
    Run (Option ObjectId) := do
  if rule.names.isEmpty then return none
  let place ← addObject .plain none
  for (name, number) in rule.names do
    putProperty place (.ofString name) (.ofValue (← value ((groups[number]?).getD none)))
  return some place

def spanValue (span : Option (Nat × Nat)) : Run Value := do
  match span with
  | some (start, stop) => return .object (← newArray [countValue start, countValue stop])
  | none => return .undefined

def optionalObject : Option ObjectId → Value
  | some place => .object place
  | none => .undefined

def matchObject (rule : Regex.Rule) (text : Units) (groups : Groups) : Run Value := do
  let place ← newArray (groups.toList.map (groupValue text))
  putProperty place "index" (.ofValue (countValue (wholeSpan groups).1))
  putProperty place "input" (.ofValue (.text text))
  let named ← namedGroups rule (fun span => return groupValue text span) groups
  putProperty place "groups" (.ofValue (optionalObject named))
  if rule.flags.indices then
    let spans ← newArray (← groups.toList.mapM spanValue)
    putProperty spans "groups" (.ofValue (optionalObject (← namedGroups rule spanValue groups)))
    putProperty place "indices" (.ofValue (.object spans))
  return .object place

/-- All matches of a global regular expression, in order, or the first of any other. -/
def allMatches (machine : Machine) (place : ObjectId) (rule : Regex.Rule) (text : Units) :
    Run (List Groups) := do
  if !rule.flags.global then return (← searchRegex machine place rule text).toList
  setLastIndex machine place 0
  repeated (fun found => do
    match ← searchRegex machine place rule text with
    | none => return .inr found.reverse
    | some groups =>
      let (start, stop) := wholeSpan groups
      if start == stop then setLastIndex machine place (advance rule text stop)
      return .inl (groups :: found)) []

/-! ## Operations with texts -/

/-- What a regular expression finds in a text: a match, or the texts of all matches. -/
def matchWith (given : Given) : Run Value := do
  let (place, _, rule) ← selfRegex given
  let text ← toText given.machine given.first
  let found ← allMatches given.machine place rule text
  if rule.flags.global then
    if found.isEmpty then return .null
    return .object (← newArray (found.map fun groups => groupValue text ((groups[0]?).getD none)))
  else
    match found with
    | groups :: _ => matchObject rule text groups
    | [] => return .null

def matchAllWith (given : Given) : Run Value := do
  let (place, source, rule) ← selfRegex given
  let text ← toText given.machine given.first
  let start ← lastIndex given.machine place
  let copy ← newRegex source rule Intrinsic.regex.place
  let found ← if start == 0 || !rule.flags.global then allMatches given.machine copy rule text
    else do
      setLastIndex given.machine copy start
      repeated (fun found => do
        match ← searchRegex given.machine copy rule text with
        | none => return .inr found.reverse
        | some groups =>
          let (start, stop) := wholeSpan groups
          if start == stop then setLastIndex given.machine copy (advance rule text stop)
          return .inl (groups :: found)) []
  let objects ← found.mapM (matchObject rule text)
  return .object (← addObject (.iterator (.positions (← newArray objects) 0 (false, true)))
    (some Intrinsic.matchIterator.place))

def replaceWith (given : Given) : Run Value := do
  let (place, _, rule) ← selfRegex given
  let text ← toText given.machine given.first
  let new ← if ← isCallable given.second then pure given.second
    else do pure (Value.text (← toText given.machine given.second))
  let found ← allMatches given.machine place rule text
  let (pieces, last) ← found.foldlM (fun (pieces, last) groups => do
    let (start, stop) := wholeSpan groups
    let replaced : Replaced :=
      ⟨text, text.slice start stop, start, (groups.toList.drop 1).map (groupText? text)⟩
    let named ← namedGroups rule (fun span => return groupValue text span) groups
    let piece ← replacementFor given.machine replaced named new
    return (piece :: text.slice last start :: pieces, stop)) (([], 0) : List Units × Nat)
  return .text (Units.concat ((text.slice last text.size :: pieces).reverse))

/-- Where a regular expression is first found in a text. -/
def searchWith (given : Given) : Run Value := do
  let (_, _, rule) ← selfRegex given
  let text ← toText given.machine given.first
  let found := if rule.flags.sticky then rule.matchAt? text.units 0 else rule.search? text.units 0
  match found with
  | some groups => return countValue (wholeSpan groups).1
  | none => return .number (-1)

/-- The pieces of a text between matches, from a position on; `last` is where the piece
begins. What groups have matched stands between the pieces. The number bounds the
steps. -/
def splitFrom (rule : Regex.Rule) (text : Units) : Nat → Nat → Nat → List Value
  | 0, last, _ => [.text (text.slice last text.size)]
  | steps + 1, last, position =>
    if text.size ≤ position then [.text (text.slice last text.size)]
    else
      match rule.matchAt? text.units position with
      | none => splitFrom rule text steps last (advance rule text position)
      | some groups =>
        let stop := min (wholeSpan groups).2 text.size
        if stop == last then splitFrom rule text steps last (advance rule text position)
        else
          .text (text.slice last position) :: ((groups.toList.drop 1).map (groupValue text) ++
            splitFrom rule text steps stop stop)

def splitWith (given : Given) : Run Value := do
  let (_, _, rule) ← selfRegex given
  let text ← toText given.machine given.first
  let limit ← match given.second with
    | .undefined => pure 4294967295
    | value => do pure (Number.toWord (← toNumber given.machine value)).toNat
  let pieces :=
    if text.size == 0 then
      if (rule.matchAt? text.units 0).isSome then [] else [Value.text text]
    else splitFrom rule text (2 * text.size + 2) 0 0
  return .object (← newArray (pieces.take limit))

/-- Whether a switch of a regular expression is on. -/
def flagOf (read : Regex.Flags → Bool) (given : Given) : Run Value := do
  match ← regexOf? given.self with
  | some (_, _, rule) => return .boolean (read rule.flags)
  | none =>
    match given.self with
    | .object place =>
      if place == Intrinsic.regex.place then return .undefined
      else typeError "`this` is not a RegExp object"
    | _ => typeError "`this` is not a RegExp object"

/-- The switches of regular expressions by name. -/
def flagNames : List (String × (Regex.Flags → Bool)) :=
  [("hasIndices", (·.indices)), ("global", (·.global)), ("ignoreCase", (·.ignoreCase)),
   ("multiline", (·.multiline)), ("dotAll", (·.dotAll)), ("unicode", (·.unicode)),
   ("sticky", (·.sticky))]

/-- What the library says about regular expressions. -/
def regexes : List Entry :=
  let maker := Intrinsic.regex.constructor
  let prototype := Intrinsic.regex.place
  [.constructor .regex "RegExp" 2 makeRegex,
   .accessor maker WellKnown.species.key (fun given => return given.self) none] ++
  Entry.methods prototype
    [("exec", 1, fun given => do
        let (place, _, rule) ← selfRegex given
        let text ← toText given.machine given.first
        match ← searchRegex given.machine place rule text with
        | some groups => matchObject rule text groups
        | none => return .null),
     ("test", 1, fun given => do
        let (place, _, rule) ← selfRegex given
        let text ← toText given.machine given.first
        return .boolean (← searchRegex given.machine place rule text).isSome),
     ("toString", 0, fun given => do
        let place ← objectOf given.self "`this` is not a RegExp object"
        let source ← toText given.machine (← getOf given.machine place "source")
        let flags ← toText given.machine (← getOf given.machine place "flags")
        return .text (Units.concat ["/", source, "/", flags]))] ++
  [.method prototype WellKnown.matching.key 1 matchWith,
   .method prototype WellKnown.matchAll.key 1 matchAllWith,
   .method prototype WellKnown.replace.key 2 replaceWith,
   .method prototype WellKnown.search.key 1 searchWith,
   .method prototype WellKnown.split.key 2 splitWith,
   .accessor prototype "source" (fun given => do
     match ← regexOf? given.self with
     | some (_, source, _) => return .text (sourceText source)
     | none => return .text "(?:)") none,
   .accessor prototype "flags" (fun given => do
     match ← regexOf? given.self with
     | some (_, _, rule) => return .text (flagText rule.flags)
     | none => return .text "") none] ++
  (flagNames.map fun (name, read) => .accessor prototype (.ofString name) (flagOf read) none)

end PageWatch.Script.Library
