import PageWatch.Script.Function

/-!
# Places for values

What can be read and assigned to: names, properties, and properties that are looked for
above the object that a method belongs to. Hidden members are kept beside the properties
of an object, under names that differ for every class.
-/

namespace PageWatch.Script

open Text

/-- A place that a value can be in. -/
inductive Reference where
  | name (name : String)
  | property (base : Value) (key : Key)
  /-- A property of what an object inherits from, for another value. -/
  | inherited (parent : Option ObjectId) (key : Key) (self : Value)
  deriving Inhabited, Repr

namespace Run

variable (machine : Machine)

/-! ## Hidden members -/

/-- The name under which a scope knows a hidden member. -/
def hiddenName (name : String) : String := "#" ++ name

def hiddenKey (here : Here) (name : String) : Run Key := do
  match ← binding? here (hiddenName name) with
  | some (_, ⟨some (.whole number), _, _⟩) => return .hidden number.toNat
  | _ => notDefined (hiddenName name)

def hiddenProperty? (value : Value) (key : Key) : Run (Option Property) := do
  match value with
  | .object place => return (← objectAt place).table.get? key
  | _ => return none

def getHidden (value : Value) (key : Key) : Run Value := do
  match ← hiddenProperty? value key with
  | some ⟨.data value _, _, _⟩ => return value
  | some ⟨.accessor (some getter) _, _, _⟩ => machine.call (.object getter) value []
  | some ⟨.accessor none _, _, _⟩ => typeError "private property was defined without a getter"
  | none => typeError "object does not have the private member"

/-- Writes a hidden member. -/
def setHidden (value : Value) (key : Key) (new : Value) : Run Unit := do
  match value, ← hiddenProperty? value key with
  | .object place, some ⟨.data _ true, enumerable, configurable⟩ =>
    putProperty place key ⟨.data new true, enumerable, configurable⟩
  | _, some ⟨.data _ _, _, _⟩ => typeError "private method is not writable"
  | _, some ⟨.accessor _ (some setter), _, _⟩ =>
    discard <| machine.call (.object setter) value [new]
  | _, some ⟨.accessor _ none, _, _⟩ =>
    typeError "private property was defined without a setter"
  | _, none => typeError "object does not have the private member"

/-! ## Reading and writing -/

/-- Reads a property, hidden or not. -/
def getMember (base : Value) (key : Key) : Run Value :=
  match key with
  | .hidden _ => getHidden machine base key
  | _ => get machine base key

/-- Writes a property, hidden or not. -/
def setMember (base : Value) (key : Key) (value : Value) (strict : Bool) : Run Unit :=
  match key with
  | .hidden _ => setHidden machine base key value
  | _ => set machine base key value strict

def readReference (here : Here) : Reference → Run Value
  | .name name => readName machine here name
  | .property base key => getMember machine base key
  | .inherited (some parent) key self => getFrom machine manyParents parent key self
  | .inherited none _ _ => typeError "cannot convert 'null' or 'undefined' to object"

def writeReference (here : Here) (reference : Reference) (value : Value) : Run Unit := do
  match reference with
  | .name name => writeName machine here name value
  | .property base key => setMember machine base key value here.strict
  | .inherited (some parent) key self =>
    let done ← setFrom machine manyParents parent key value self
    if !done && here.strict then
      typeError s!"cannot set non-writable property: {keyText key}"
  | .inherited none _ _ => typeError "cannot convert 'null' or 'undefined' to object"

def evaluateKey (here : Here) (key : Expr) : Run Key := do
  match key with
  | .hidden name => hiddenKey here name
  | .text text => return .ofText text
  | _ => toKey machine (← machine.evaluate here key)

/-- The key that an expression names, as a member of a value, which has members only if
there is a value. -/
def evaluateMemberKey (here : Here) (base : Value) (key : Expr) : Run Key := do
  let checkBase : Run Unit := do
    match base with
    | .undefined | .null => typeError "cannot convert 'null' or 'undefined' to object"
    | _ => pure ()
  match key with
  | .hidden name =>
    checkBase
    hiddenKey here name
  | .text text =>
    checkBase
    return .ofText text
  | _ =>
    let value ← machine.evaluate here key
    checkBase
    toKey machine value

/-- What the members after `super` are members of. -/
def superBase (here : Here) : Run (Option ObjectId × Value) := do
  let self ← self here
  match ← frame? here with
  | some (_, ⟨_, _, some home, _⟩) => return (← parentOf machine home, self)
  | _ => return (none, self)

/-- The place that an expression stands for. -/
def reference (here : Here) : Expr → Run Reference
  | .name name => return .name name
  | .member object key _ => do
    let base ← machine.evaluate here object
    return .property base (← evaluateMemberKey machine here base key)
  | .superMember key => do
    let (parent, self) ← superBase machine here
    return .inherited parent (← evaluateKey machine here key) self
  | _ => raise .referenceError "invalid assignment target"

end Run

end PageWatch.Script
