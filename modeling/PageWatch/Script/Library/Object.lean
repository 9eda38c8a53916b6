import PageWatch.Script.Library.Basic

/-!
# Objects in the library
-/

namespace PageWatch.Script.Library

open Text Run

/-! ## Going through properties -/

/-- The names of the properties that an object shows, texts only. -/
def shownKeys (machine : Machine) (place : ObjectId) : Run (List Key) := do
  (← ownKeys machine place).filterM fun key => do
    if key.text?.isNone then return false
    match ← ownProperty? machine place key with
    | some property => return property.enumerable
    | none => return false

/-- The properties that a value shows, with their names. -/
def shownEntries (machine : Machine) (value : Value) : Run (List (Value × Value)) := do
  let place ← toObject value
  (← shownKeys machine place).mapM fun key => do return (keyValue key, ← getOf machine place key)

/-- An array of a name and a value. -/
def pair (first second : Value) : Run Value := do return .object (← newArray [first, second])

/-- Makes an object's properties fixed, and unchangeable if they are to be frozen. -/
def fix (machine : Machine) (frozen : Bool) (place : ObjectId) : Run Unit := do
  if !(← preventExtensions machine place) then typeError "cannot prevent extensions of object"
  for key in ← ownKeys machine place do
    match ← ownProperty? machine place key with
    | some property =>
      let keeps := match property.slot with
        | .data _ _ => if frozen then some false else none
        | .accessor _ _ => none
      if !(← defineDescribed machine place key ⟨none, keeps, none, none, none, some false⟩) then
        typeError "cannot fix properties of object"
    | none => pure ()

/-- Whether an object's properties are fixed, and unchangeable if they are to be frozen. -/
def isFixed (machine : Machine) (frozen : Bool) (place : ObjectId) : Run Bool := do
  if ← Run.isExtensible machine place then return false
  (← ownKeys machine place).allM fun key => do
    match ← ownProperty? machine place key with
    | some ⟨.data _ writable, _, configurable⟩ => return !configurable && !(frozen && writable)
    | some ⟨_, _, configurable⟩ => return !configurable
    | none => return true

def parentValue (given : Given) (place : ObjectId) : Run Value := do
  return parentValueOf (← parentOf given.machine place)

/-- Gives an object another parent, which it must allow. -/
def changeParent (given : Given) (place : ObjectId) (parent : Option ObjectId) : Run Unit := do
  if !(← setParent given.machine place parent) then typeError "cannot set prototype of object"

def defineAll (machine : Machine) (place : ObjectId) (descriptions : Value) : Run Unit := do
  let source ← toObject descriptions
  for key in ← ownKeys machine source do
    match ← ownProperty? machine source key with
    | some property =>
      if property.enumerable then
        let description ← readDescription machine (← getOf machine source key)
        if !(← defineDescribed machine place key description) then
          typeError "cannot redefine property"
    | none => pure ()

/-- Adds the values of a source to groups, each under what a function says of it. -/
def groupsOf (machine : Machine) (source callback : Value) :
    Run (List (Value × List Value)) := do
  let callback ← callbackOf callback
  let values ← listOf machine source
  let (groups, _) ← values.foldlM (fun (groups, position) value => do
    let key ← machine.call callback .undefined [value, countValue position]
    let known := groups.any fun (other, _) => sameValueZero other key
    let groups := if known then
        groups.map fun (other, members) =>
          if sameValueZero other key then (other, members ++ [value]) else (other, members)
      else groups ++ [(key, [value])]
    return (groups, position + 1)) (([], 0) : List (Value × List Value) × Nat)
  return groups

/-! ## Functions -/

def objectFunctions : List (String × Nat × (Given → Run Value)) :=
  [("keys", 1, fun given => do
      let place ← toObject given.first
      return .object (← newArray ((← shownKeys given.machine place).map keyValue))),
   ("values", 1, fun given => do
      return .object (← newArray ((← shownEntries given.machine given.first).map (·.2)))),
   ("entries", 1, fun given => do
      let pairs ← (← shownEntries given.machine given.first).mapM fun (key, value) => pair key value
      return .object (← newArray pairs)),
   ("assign", 2, fun given => do
      let target ← toObject given.first
      for source in given.arguments.drop 1 do
        match source with
        | .undefined | .null => pure ()
        | _ =>
          let place ← toObject source
          for key in ← ownKeys given.machine place do
            match ← ownProperty? given.machine place key with
            | some property =>
              if property.enumerable then
                let value ← getOf given.machine place key
                set given.machine (.object target) key value true
            | none => pure ()
      return .object target),
   ("freeze", 1, fun given => do
      match given.first with
      | .object place => fix given.machine true place
      | _ => pure ()
      return given.first),
   ("isFrozen", 1, fun given => do
      match given.first with
      | .object place => return .boolean (← isFixed given.machine true place)
      | _ => return .boolean true),
   ("seal", 1, fun given => do
      match given.first with
      | .object place => fix given.machine false place
      | _ => pure ()
      return given.first),
   ("isSealed", 1, fun given => do
      match given.first with
      | .object place => return .boolean (← isFixed given.machine false place)
      | _ => return .boolean true),
   ("preventExtensions", 1, fun given => do
      match given.first with
      | .object place =>
        if !(← Run.preventExtensions given.machine place) then
          typeError "cannot prevent extensions of object"
      | _ => pure ()
      return given.first),
   ("isExtensible", 1, fun given => do
      match given.first with
      | .object place => return .boolean (← Run.isExtensible given.machine place)
      | _ => return .boolean false),
   ("create", 2, fun given => do
      let place ← addObject .plain (← parentArgument given.first)
      match given.second with
      | .undefined => pure ()
      | descriptions => defineAll given.machine place descriptions
      return .object place),
   ("getPrototypeOf", 1, fun given => do parentValue given (← toObject given.first)),
   ("setPrototypeOf", 2, fun given => do
      let parent ← parentArgument given.second
      match given.first with
      | .object place => changeParent given place parent
      | _ => pure ()
      return given.first),
   ("defineProperty", 3, fun given => do
      let place ← objectOf given.first "Object.defineProperty called on non-object"
      let key ← toKey given.machine given.second
      let description ← readDescription given.machine (given.argument 2)
      if !(← defineDescribed given.machine place key description) then
        typeError s!"Cannot redefine property: {keyText key}"
      return given.first),
   ("defineProperties", 2, fun given => do
      let place ← objectOf given.first "Expected an object"
      defineAll given.machine place given.second
      return given.first),
   ("getOwnPropertyNames", 1, fun given => do
      let keys ← ownKeys given.machine (← toObject given.first)
      return .object (← newArray ((keys.filter (·.text?.isSome)).map keyValue))),
   ("getOwnPropertySymbols", 1, fun given => do
      let keys ← ownKeys given.machine (← toObject given.first)
      return .object (← newArray ((keys.filter (·.text?.isNone)).map keyValue))),
   ("getOwnPropertyDescriptor", 2, fun given => do
      let place ← toObject given.first
      let key ← toKey given.machine given.second
      match ← ownProperty? given.machine place key with
      | some property => describingObject (.ofProperty property)
      | none => nothing),
   ("getOwnPropertyDescriptors", 1, fun given => do
      let place ← toObject given.first
      let result ← newObject
      for key in ← ownKeys given.machine place do
        match ← ownProperty? given.machine place key with
        | some property => put given.machine result key (← describingObject (.ofProperty property))
        | none => pure ()
      return .object result),
   ("fromEntries", 1, fun given => do
      let result ← newObject
      for entry in ← listOf given.machine given.first do
        match entry with
        | .object place =>
          let key ← getOf given.machine place (.index 0)
          let value ← getOf given.machine place (.index 1)
          put given.machine result (← toKey given.machine key) value
        | _ => typeError "cannot get key and value from primitive item of `iterable`"
      return .object result),
   ("is", 2, fun given => return .boolean (sameValue given.first given.second)),
   ("hasOwn", 2, fun given => do
      let place ← toObject given.first
      return .boolean (← ownProperty? given.machine place (← toKey given.machine given.second)).isSome),
   ("groupBy", 2, fun given => do
      let result ← addObject .plain none
      for (key, values) in ← groupsOf given.machine given.first given.second do
        put given.machine result (← toKey given.machine key) (.object (← newArray values))
      return .object result)]

def kindWord : Kind → String
  | .array => "Array"
  | .function _ => "Function"
  | .error => "Error"
  | .regex _ _ => "RegExp"
  | .date _ => "Date"
  | .arguments => "Arguments"
  | .wrapper (.text _) => "String"
  | .wrapper (.number _) => "Number"
  | .wrapper (.boolean _) => "Boolean"
  | .proxy _ _ true _ => "Function"
  | _ => "Object"

/-- The text that says what kind of object a value is. -/
def kindText (machine : Machine) (value : Value) : Run Value := do
  match value with
  | .undefined => return .text "[object Undefined]"
  | .null => return .text "[object Null]"
  | _ =>
    let place ← toObject value
    let word := Units.ofString (kindWord (← objectAt place).kind)
    let tag ← match ← getOf machine place WellKnown.toStringTag.key with
      | .text tag => pure tag
      | _ => pure word
    return .text (Units.concat ["[object ", tag, "]"])

def objectMethods : List (String × Nat × (Given → Run Value)) :=
  [("hasOwnProperty", 1, fun given => do
      let key ← toKey given.machine given.first
      return .boolean (← ownProperty? given.machine (← toObject given.self) key).isSome),
   ("isPrototypeOf", 1, fun given => do
      match given.first with
      | .object place =>
        return .boolean (← inherits given.machine (← toObject given.self) manyParents place)
      | _ => return .boolean false),
   ("propertyIsEnumerable", 1, fun given => do
      let key ← toKey given.machine given.first
      match ← ownProperty? given.machine (← toObject given.self) key with
      | some property => return .boolean property.enumerable
      | none => return .boolean false),
   ("toString", 0, fun given => kindText given.machine given.self),
   ("toLocaleString", 0, fun given => invoke given.machine given.self "toString" []),
   ("valueOf", 0, fun given => do return .object (← toObject given.self))]

def objects : List Entry :=
  let prototype := Intrinsic.object.place
  [.constructor .object "Object" 1 fun given => do
      let asked := match given.newTarget with
        | .undefined => false
        | .object place => place != Intrinsic.object.constructor
        | _ => false
      if asked then
        return .object (← addObject .plain
          (some (← prototypeFor given.machine given.newTarget .object)))
      match given.first with
      | .undefined | .null => return .object (← newObject)
      | value => return .object (← toObject value)] ++
  Entry.methods Intrinsic.object.constructor objectFunctions ++
  Entry.methods prototype objectMethods ++
  [.accessor prototype "__proto__" (fun given => do parentValue given (← toObject given.self))
    (some fun given => do
      match given.self, given.first with
      | .object place, .object parent => changeParent given place (some parent)
      | .object place, .null => changeParent given place none
      | _, _ => pure ()
      nothing)]

end PageWatch.Script.Library
