import PageWatch.Script.Property.Description

/-!
# Properties

How the properties of an object's own are listed, defined, written and removed. The
length of an array follows its positions, and a proxy leaves the answer to its handler,
or, if that has none, to the object that it stands before.
-/

namespace PageWatch.Script

open Text

namespace Run

variable (machine : Machine)

/-! ## Properties of an object's own -/

/-- Asks the handler of a proxy, if it has a method for an operation. -/
def askHandler (handler : ObjectId) (name : String) (arguments : List Value) :
    Run (Option Value) := do
  match ← trap? (getOf machine) handler name with
  | some method => return some (← machine.call method (.object handler) arguments)
  | none => return none

/-- The property of an object's own. The number bounds how many proxies stand before it. -/
def ownPropertyFrom : Nat → ObjectId → Key → Run (Option Property)
  | 0, _, _ => stop .exhausted
  | steps + 1, place, key => do
    let object ← objectAt place
    match object.kind with
    | .proxy target handler _ _ =>
      match ← askHandler machine handler "getOwnPropertyDescriptor"
          [.object target, keyValue key] with
      | some .undefined => return none
      | some description =>
        return some ((← readDescription machine description).property none)
      | none => ownPropertyFrom steps target key
    | _ => return plainProperty? object key

def ownProperty? (place : ObjectId) (key : Key) : Run (Option Property) :=
  ownPropertyFrom machine manyParents place key

def listedKeys (list : Value) : Run (List Key) := do
  match list with
  | .object place =>
    let length ← match ← getOf machine place "length" with
      | .number length => pure length.toUInt64.toNat
      | _ => pure 0
    (List.range length).mapM fun position => do
      match ← getOf machine place (.index position) with
      | .text text => return .ofText text
      | .symbol number => return .symbol number
      | _ => typeError "elements of the list of keys must be strings or symbols"
  | _ => typeError "cannot create list from non-object"

/-- The names of an object's own properties. The number bounds how many proxies stand
before it. -/
def ownKeysFrom : Nat → ObjectId → Run (List Key)
  | 0, _ => stop .exhausted
  | steps + 1, place => do
    let object ← objectAt place
    match object.kind with
    | .proxy target handler _ _ =>
      match ← askHandler machine handler "ownKeys" [.object target] with
      | some list => listedKeys machine list
      | none => ownKeysFrom steps target
    | _ => return plainKeys object

/-- The names of an object's own properties. -/
def ownKeys (place : ObjectId) : Run (List Key) := ownKeysFrom machine manyParents place

/-! ## Parents -/

def parentArgument (value : Value) : Run (Option ObjectId) := do
  match value with
  | .object parent => return some parent
  | .null => return none
  | _ => typeError "expected an object or null"

def parentValueOf (parent : Option ObjectId) : Value := (parent.map Value.object).getD .null

/-- The parent of an object. The number bounds how many proxies stand before it. -/
def parentFrom : Nat → ObjectId → Run (Option ObjectId)
  | 0, _ => stop .exhausted
  | steps + 1, place => do
    let object ← objectAt place
    match object.kind with
    | .proxy target handler _ _ =>
      match ← askHandler machine handler "getPrototypeOf" [.object target] with
      | some parent => parentArgument parent
      | none => parentFrom steps target
    | _ => return object.parent

def parentOf (place : ObjectId) : Run (Option ObjectId) := parentFrom machine manyParents place

/-- Whether an object is another one or inherits from it, as far as no proxy is met. -/
def leadsTo (wanted : ObjectId) : Nat → Option ObjectId → Run Bool
  | 0, _ | _, none => return false
  | steps + 1, some place => do
    if place == wanted then return true
    let object ← objectAt place
    match object.kind with
    | .proxy _ _ _ _ => return false
    | _ => leadsTo wanted steps object.parent

/-- Gives an object another parent, where no object may inherit from itself. Answers
whether the object allows it. -/
def setParentFrom : Nat → ObjectId → Option ObjectId → Run Bool
  | 0, _, _ => stop .exhausted
  | steps + 1, place, parent => do
    let object ← objectAt place
    match object.kind with
    | .proxy target handler _ _ =>
      match ← askHandler machine handler "setPrototypeOf"
          [.object target, parentValueOf parent] with
      | some answer => return isTrue answer
      | none => setParentFrom steps target parent
    | _ =>
      if object.parent == parent then return true
      if !object.extensible || (← leadsTo place manyParents parent) then return false
      modifyObject place fun object => { object with parent }
      return true

/-- Gives an object another parent. Answers whether the object allows it. -/
def setParent (place : ObjectId) (parent : Option ObjectId) : Run Bool :=
  setParentFrom machine manyParents place parent

/-! ## New properties at all -/

/-- Whether an object can get new properties. The number bounds how many proxies stand
before it. -/
def extensibleFrom : Nat → ObjectId → Run Bool
  | 0, _ => stop .exhausted
  | steps + 1, place => do
    let object ← objectAt place
    match object.kind with
    | .proxy target handler _ _ =>
      match ← askHandler machine handler "isExtensible" [.object target] with
      | some answer => return isTrue answer
      | none => extensibleFrom steps target
    | _ => return object.extensible

def isExtensible (place : ObjectId) : Run Bool := extensibleFrom machine manyParents place

/-- Keeps an object from getting new properties. Answers whether it allows that. -/
def preventFrom : Nat → ObjectId → Run Bool
  | 0, _ => stop .exhausted
  | steps + 1, place => do
    match ← lookAt place (·.kind) with
    | .proxy target handler _ _ =>
      match ← askHandler machine handler "preventExtensions" [.object target] with
      | some answer => return isTrue answer
      | none => preventFrom steps target
    | _ =>
      modifyObject place fun object => { object with extensible := false }
      return true

/-- Keeps an object from getting new properties. Answers whether it allows that. -/
def preventExtensions (place : ObjectId) : Run Bool := preventFrom machine manyParents place

/-! ## Defining and removing -/

/-- The length of an array with these properties. -/
def lengthIn (table : Table) : Nat :=
  match table.get? "length" with
  | some ⟨.data (.number length) _, _, _⟩ => length.toUInt64.toNat
  | _ => 0

/-- Whether the length of an array with these properties can no longer change. -/
def hasFixedLength (table : Table) : Bool :=
  match table.get? "length" with
  | some ⟨.data _ writable, _, _⟩ => !writable
  | _ => false

/-- The properties that are left of an array's when what lies beyond a length is
removed. -/
def shortened (length : Nat) (table : Table) : Table :=
  let old := lengthIn table
  if old ≤ length then table
  else if old - length ≤ table.entries.size then
    (List.range' length (old - length)).foldl (fun table position =>
      table.erase (.index position)) table
  else
    let isBeyond (key : Key) : Bool :=
      match key with
      | .index position => length ≤ position
      | _ => false
    (table.keys.filter isBeyond).foldl (fun table key => table.erase key) table

/-- Changes the length of an array, where what lies beyond is removed. -/
def setLength (place : ObjectId) (length : Nat) : Run Unit :=
  modifyObject place fun object =>
    { object with
      table := (shortened length object.table).put "length"
        ⟨.data (countValue length) (!hasFixedLength object.table), false, false⟩ }

def canBecome (old new : Property) : Bool :=
  old.configurable ||
    (!new.configurable && old.enumerable == new.enumerable &&
      match old.slot, new.slot with
      | .data _ writable, .data _ writable' => writable || !writable'
      | .accessor getter setter, .accessor getter' setter' =>
        getter == getter' && setter == setter'
      | _, _ => false)

/-- Whether a change of a property keeps what may not change. -/
def keepsFixed (old : Option Property) (new : Property) : Bool :=
  match old with
  | some ⟨.data value false, _, false⟩ =>
    match new.slot with
    | .data value' false => sameValue value value'
    | _ => false
  | _ => true

/-- What defining a property comes to. -/
inductive Definition where
  | refused
  /-- The length of an array would be no length. -/
  | invalid
  /-- The property is added or replaced. -/
  | plain
  /-- The property is added, and an array becomes so long. -/
  | grown (length : Nat)
  /-- An array becomes so long, and its length can still change or not. -/
  | sized (length : Nat) (writable : Bool)
  deriving DecidableEq, Repr

/-- What defining a property of an object comes to. -/
def definition (key : Key) (property : Property) (object : Object) : Definition :=
  let allowed := match plainProperty? object key with
    | some old => canBecome old property
    | none => object.extensible
  if !allowed then .refused
  else match object.kind, key, property.slot with
    | .array, .index position, _ =>
      if position < lengthIn object.table then .plain
      else if hasFixedLength object.table then .refused
      else .grown (position + 1)
    | .array, .name name, .data (.number length) writable =>
      if name != "length" then .plain
      else if length < 0 || Number.truncate length != length || 4294967295 < length then .invalid
      else .sized length.toUInt64.toNat writable
    | _, _, _ => .plain

/-- Defines a property of the own of an object that is no proxy. Answers whether the
object allows it. -/
def definePlain (place : ObjectId) (key : Key) (property : Property) : Run Bool := do
  match ← lookAt place (definition key property) with
  | .refused => return false
  | .invalid => rangeError "invalid array length"
  | .plain => putProperty place key property
  | .grown length =>
    setLength place length
    putProperty place key property
  | .sized length writable =>
    setLength place length
    unless writable do putProperty place key ⟨.data (countValue length) false, false, false⟩
  return true

/-- Defines a property as it is described. Answers whether the object allows it. The
number bounds how many proxies stand before it. -/
def defineFrom : Nat → ObjectId → Key → Description → Run Bool
  | 0, _, _, _ => stop .exhausted
  | steps + 1, place, key, description => do
    match ← lookAt place (·.kind) with
    | .proxy target handler _ _ =>
      match ← trap? (getOf machine) handler "defineProperty" with
      | some method =>
        return isTrue (← machine.call method (.object handler)
          [.object target, keyValue key, ← describingObject description])
      | none => defineFrom steps target key description
    | _ =>
      let old ← lookAt place (plainProperty? · key)
      let new := description.property old
      if keepsFixed old new then
        match old with
        | some ⟨.data _ false, _, false⟩ => return canBecome (old.getD new) new
        | _ => definePlain place key new
      else return false

/-- Defines a property as it is described. Answers whether the object allows it. -/
def defineDescribed (place : ObjectId) (key : Key) (description : Description) : Run Bool :=
  defineFrom machine manyParents place key description

/-- Defines a property of an object's own. Answers whether the object allows it. -/
def define (place : ObjectId) (key : Key) (property : Property) : Run Bool := do
  match ← lookAt place (·.kind) with
  | .proxy _ _ _ _ => defineDescribed machine place key (.ofProperty property)
  | _ => definePlain place key property

/-- Gives an object a property that everything can be done with. -/
def put (place : ObjectId) (key : Key) (value : Value) : Run Unit := do
  unless ← define machine place key (.ofValue value) do
    typeError "cannot redefine property"

/-- Removes a property of an object's own. Answers whether the object allows it. The
number bounds how many proxies stand before it. -/
def removeFrom : Nat → ObjectId → Key → Run Bool
  | 0, _, _ => stop .exhausted
  | steps + 1, place, key => do
    match ← lookAt place (·.kind) with
    | .proxy target handler _ _ =>
      match ← askHandler machine handler "deleteProperty" [.object target, keyValue key] with
      | some answer => return isTrue answer
      | none => removeFrom steps target key
    | _ =>
      match ← lookAt place (plainProperty? · key) with
      | none => return true
      | some property =>
        if property.configurable then
          modifyObject place fun object => { object with table := object.table.erase key }
          return true
        else return false

/-- Removes a property of an object's own. Answers whether the object allows it. -/
def remove (place : ObjectId) (key : Key) : Run Bool := removeFrom machine manyParents place key

/-! ## Writing -/

/-- Writes a property of an object's own, for a writer that found it nowhere or found it
to hold a plain value. -/
def writeOwn (receiver : Value) (key : Key) (value : Value) : Run Bool := do
  match receiver with
  | .object place =>
    match ← ownProperty? machine place key with
    | some ⟨.data _ writable, enumerable, configurable⟩ =>
      if !writable then return false
      match ← lookAt place (·.kind) with
      | .proxy _ _ _ _ => defineDescribed machine place key (.ofValue value)
      | _ => definePlain place key ⟨.data value true, enumerable, configurable⟩
    | some ⟨.accessor _ _, _, _⟩ => return false
    | none => define machine place key (.ofValue value)
  | _ => return false

/-- Where writing a property of an object leads. -/
inductive Way where
  | proxy (target handler : ObjectId)
  /-- The object has the property, and its value can change or not. -/
  | own (writable : Bool)
  | setter (function : ObjectId)
  /-- The property can only be read. -/
  | refused
  | parent (place : ObjectId)
  /-- No object has the property. -/
  | nowhere
  deriving Repr

/-- Where writing a property of an object leads. -/
def way (key : Key) (object : Object) : Way :=
  match object.kind with
  | .proxy target handler _ _ => .proxy target handler
  | _ =>
    match plainProperty? object key with
    | some ⟨.data _ writable, _, _⟩ => .own writable
    | some ⟨.accessor _ (some setter), _, _⟩ => .setter setter
    | some ⟨.accessor _ none, _, _⟩ => .refused
    | none => (object.parent.map Way.parent).getD .nowhere

/-- Writes a property of a value, where the places that it inherits from are looked
through. Answers whether that is allowed. -/
def setFrom : Nat → ObjectId → Key → Value → Value → Run Bool
  | 0, _, _, _, _ => stop .exhausted
  | steps + 1, place, key, value, receiver => do
    match ← lookAt place (way key) with
    | .proxy target handler =>
      match ← trap? (getOf machine) handler "set" with
      | some method =>
        return isTrue (← machine.call method (.object handler)
          [.object target, keyValue key, value, receiver])
      | none => setFrom steps target key value receiver
    | .own writable => if writable then writeOwn machine receiver key value else return false
    | .setter function =>
      discard <| machine.call (.object function) receiver [value]
      return true
    | .refused => return false
    | .parent parent => setFrom steps parent key value receiver
    | .nowhere => writeOwn machine receiver key value

def keyText : Key → String
  | .index position => toString position
  | .name text => text.write
  | .symbol _ => "symbol"
  | .hidden _ => "private"

/-- Writes a property of a value. Where that is not allowed, a strict script fails. -/
def set (value : Value) (key : Key) (new : Value) (strict : Bool) : Run Unit := do
  let done ← setFrom machine manyParents (← homeOf value) key new value
  if !done && strict then
    typeError s!"cannot set non-writable property: {keyText key}"

end Run

end PageWatch.Script
