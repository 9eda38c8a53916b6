import PageWatch.Script.Call
import PageWatch.Script.Pattern

/-!
# Expressions

What expressions evaluate to. A chain of members and calls also keeps the object that
its last member belongs to, which is `this` in a call of it, and ends early where an
optional link leads nowhere.
-/

namespace PageWatch.Script

open Text

namespace Run

variable (machine : Machine)

/-- Evaluates arguments, or the items of an array. -/
def evaluateList (here : Here) : List Expr → Run (List Value)
  | [] => return []
  | .spread values :: rest => do
    let values ← listOf machine (← machine.evaluate here values)
    return values ++ (← evaluateList here rest)
  | value :: rest => do
    let value ← machine.evaluate here value
    return value :: (← evaluateList here rest)

/-- Fills an array with items. An item can be missing. -/
def fillArray (here : Here) (array : ObjectId) : List Expr → Nat → Run Unit
  | [], length => setLength array length
  | .hole :: rest, position => fillArray here array rest (position + 1)
  | .spread values :: rest, position => do
    let values ← listOf machine (← machine.evaluate here values)
    for (value, offset) in values.zipIdx do put machine array (.index (position + offset)) value
    fillArray here array rest (position + values.length)
  | value :: rest, position => do
    put machine array (.index position) (← machine.evaluate here value)
    fillArray here array rest (position + 1)

def isNothing : Value → Bool
  | .undefined | .null => true
  | _ => false

/-! ## Chains -/

/-- The value of a chain with the object that its last member belongs to, unless it ends
early. -/
def evaluateLink (here : Here) : Expr → Run (Option (Value × Value))
  | .member object key optional => do
    let some (base, _) ← machine.link here object | return none
    if optional && isNothing base then return none
    let key ← evaluateMemberKey machine here base key
    return some (← getMember machine base key, base)
  | .superMember key => do
    let (parent, self) ← superBase machine here
    let key ← evaluateKey machine here key
    return some (← readReference machine here (.inherited parent key self), self)
  | .call callee arguments optional => do
    let some (function, self) ← machine.link here callee | return none
    if optional && isNothing function then return none
    let arguments ← evaluateList machine here arguments
    return some (← machine.call function self arguments, .undefined)
  | .chain inner => do
    match ← machine.link here inner with
    | some found => return some found
    | none => return some (.undefined, .undefined)
  | value => do return some (← machine.evaluate here value, .undefined)

def evaluateChain (here : Here) (chain : Expr) : Run Value := do
  match ← evaluateLink machine here chain with
  | some (value, _) => return value
  | none => return .undefined

/-! ## Operators -/

/-- Removes what an expression stands for. Answers whether that is allowed. -/
def evaluateDelete (here : Here) : Expr → Run Value
  | .member object key optional => do
    match ← machine.link here object with
    | none => return .boolean true
    | some (base, _) =>
      if optional && isNothing base then return .boolean true
      let key ← evaluateMemberKey machine here base key
      let removed ← remove machine (← toObject base) key
      if !removed && here.strict then typeError "cannot delete property"
      return .boolean removed
  | .chain (.member object key optional) => do
    match ← machine.link here object with
    | none => return .boolean true
    | some (base, _) =>
      if optional && isNothing base then return .boolean true
      let key ← evaluateMemberKey machine here base key
      return .boolean (← remove machine (← toObject base) key)
  | .name name => do
    match ← binding? here name with
    | some _ => return .boolean false
    | none => return .boolean (← remove machine Intrinsic.global.place (.ofString name))
  | value => do
    discard <| machine.evaluate here value
    return .boolean true

def evaluateUnary (here : Here) (op : UnaryOp) (operand : Expr) : Run Value := do
  match op with
  | .delete => evaluateDelete machine here operand
  | .typeOf =>
    let value ← match operand with
      | .name name => do pure ((← readName? machine here name).getD .undefined)
      | _ => machine.evaluate here operand
    return .text (← typeName value)
  | .void =>
    discard <| machine.evaluate here operand
    return .undefined
  | .not => return .boolean (!isTrue (← machine.evaluate here operand))
  | .plus => return .number (← toNumber machine (← machine.evaluate here operand))
  | .minus =>
    match ← toNumeric machine (← machine.evaluate here operand) with
    | .number value => return .number (-value)
    | .whole value => return .whole (-value)
    | value => return value
  | .complement =>
    match ← toNumeric machine (← machine.evaluate here operand) with
    | .number value => return .number (Number.ofSignedWord (~~~(Number.toWord value)))
    | .whole value => return .whole (-value - 1)
    | value => return value

def evaluateUpdate (here : Here) (increment early : Bool) (target : Expr) : Run Value := do
  let reference ← reference machine here target
  let old ← toNumeric machine (← readReference machine here reference)
  let new := match old with
    | .number value => Value.number (if increment then value + 1 else value - 1)
    | .whole value => .whole (if increment then value + 1 else value - 1)
    | value => value
  writeReference machine here reference new
  return if early then new else old

/-- Whether an operator leaves out its second operand after a first one. -/
def staysWith (op : LogicalOp) (first : Value) : Bool :=
  match op with
  | .and => !isTrue first
  | .or => isTrue first
  | .coalesce => !isNothing first

/-- The name that an expression has, if it is a name. -/
def Expr.name? : Expr → Option String
  | .name name => some name
  | _ => none

def evaluateFor (here : Here) (target value : Expr) : Run Value :=
  match Expr.name? target with
  | some name => machine.evaluateNamed here name value
  | none => machine.evaluate here value

def evaluateAssign (here : Here) (target : Pattern) (value : Expr) : Run Value := do
  match target with
  | .target place =>
    let reference ← reference machine here place
    let value ← evaluateFor machine here place value
    writeReference machine here reference value
    return value
  | pattern =>
    let value ← machine.evaluate here value
    machine.place here .assign pattern value
    return value

/-! ## Templates -/

/-- Puts texts together, with values between them. -/
def evaluateTemplate (here : Here) : List Units → List Expr → Run (List Units)
  | text :: texts, value :: values => do
    let inner ← toText machine (← machine.evaluate here value)
    return text :: inner :: (← evaluateTemplate here texts values)
  | texts, _ => return texts

/-- Makes the properties of an array unchangeable. -/
def freezeArray (place : ObjectId) : Run Unit :=
  modifyObject place fun object =>
    let freeze (table : Table) (key : Key) : Table :=
      match table.get? key with
      | some ⟨.data value _, enumerable, _⟩ =>
        table.put key ⟨.data value false, enumerable, false⟩
      | _ => table
    { object with table := object.table.keys.foldl freeze object.table, extensible := false }

/-- The array of texts that a template's function gets. -/
def templateTexts (cooked : List (Option Units)) (raw : List Units) : Run Value := do
  let array ← newArray (cooked.map fun text? =>
    match text? with
    | some text => Value.text text
    | none => .undefined)
  let rawArray ← newArray (raw.map Value.text)
  freezeArray rawArray
  putProperty array "raw" ⟨.data (.object rawArray) false, false, false⟩
  freezeArray array
  return .object array

/-! ## Functions that pause -/

/-- Whether the function around waits instead of pausing. -/
def isAsync (here : Here) : Run Bool := do
  match ← frame? here with
  | some (_, ⟨_, some function, _, _⟩) =>
    match ← functionAt? function with
    | some ⟨.closure number _ _, _, _, _⟩ => return (← codeAt number).async
    | _ => return false
  | _ => return false

def evaluateYield (here : Here) (value : Value) : Run Value := do
  if ← isAsync here then stop .waiting
  match ← pause value with
  | .next value => return value
  | .throw value => throwValue value
  | .return value => stop (.returning value)

/-- Pauses with each value of an iterator, and hands it what comes back. -/
def evaluateYieldAll (here : Here) (source : Value) : Run Value := do
  if ← isAsync here then stop .waiting
  let iterator ← iterator machine source
  let result (answer : Value) : Run (ObjectId × Bool) := do
    match answer with
    | .object place => return (place, isTrue (← getOf machine place "done"))
    | _ => typeError "iterator result is not an object"
  repeated (fun (message : Resumption) => do
    match message with
    | .next value =>
      let (answer, done) ← result (← machine.call iterator.next iterator.place [value])
      let value ← getOf machine answer "value"
      if done then return .inr value else return .inl (← pause value)
    | .throw value =>
      match ← method? machine iterator.place "throw" with
      | some method =>
        let (answer, done) ← result (← machine.call method iterator.place [value])
        let value ← getOf machine answer "value"
        if done then return .inr value else return .inl (← pause value)
      | none =>
        closeIterator machine iterator
        typeError "iterator does not have a throw method"
    | .return value =>
      match ← method? machine iterator.place "return" with
      | some method =>
        let (answer, done) ← result (← machine.call method iterator.place [value])
        let value ← getOf machine answer "value"
        if done then stop (.returning value) else return .inl (← pause value)
      | none => stop (.returning value)) (Resumption.next .undefined)

/-- Waits for a value that never comes. An object is first asked whether it stands for
one. -/
def evaluateAwait (value : Value) : Run Value := do
  match value with
  | .object place =>
    match (← objectAt place).kind with
    | .promise => stop .waiting
    | _ =>
      discard <| (getOf machine place "then").attempt
      stop .waiting
  | _ => stop .waiting

/-! ## Above the object of a method -/

/-- Creates the object with the constructor above, in a constructor that extends it. -/
def evaluateSuperCall (here : Here) (arguments : List Expr) : Run Value := do
  match ← frame? here with
  | some (place, frame) =>
    let function := frame.function.getD 0
    let parent ← parentOf machine function
    let arguments ← evaluateList machine here arguments
    let parent ← match parent with
      | some parent => pure (Value.object parent)
      | none => pure .undefined
    if !(← isConstructor parent) then typeError "super constructor is not a constructor"
    let created ← machine.create parent arguments frame.newTarget
    let current ← look fun memory =>
      ((memory.scopes[place]?).bind (·.frame)).bind (·.self)
    if current.isSome then
      raise .referenceError "super constructor may only be called once"
    modify <| Memory.modifyScope place fun scope =>
      { scope with frame := scope.frame.map fun frame => { frame with self := some created } }
    match created with
    | .object created => initializeFields machine function created
    | _ => pure ()
    return created
  | none => raise .referenceError "no constructor to extend"

/-! ## All expressions -/

def evaluate (here : Here) (expr : Expr) : Run Value := do
  match expr with
  | .undefined | .hole => return .undefined
  | .null => return .null
  | .boolean value => return .boolean value
  | .number value => return .number value
  | .whole value => return .whole value
  | .text value => return .text value
  | .regular source rule => return .object (← newRegex source rule Intrinsic.regex.place)
  | .template texts values =>
    return .text (Units.concat (← evaluateTemplate machine here texts values))
  | .tagged tag cooked raw values =>
    match ← evaluateLink machine here tag with
    | some (function, self) =>
      let texts ← templateTexts cooked raw
      let values ← evaluateList machine here values
      machine.call function self (texts :: values)
    | none => return .undefined
  | .name name => readName machine here name
  | .this => self here
  | .newTarget =>
    match ← frame? here with
    | some (_, frame) => return frame.newTarget
    | none => return .undefined
  | .array items =>
    let array ← newArray []
    fillArray machine here array items 0
    return .object array
  | .object members => evaluateObject machine here members
  | .function code => return .object (← newFunction here code Units.empty none)
  | .classOf name base construct members =>
    evaluateClass machine here Units.empty name base construct members
  | .unary op operand => evaluateUnary machine here op operand
  | .update increment early target => evaluateUpdate machine here increment early target
  | .binary op left right =>
    let left ← machine.evaluate here left
    binary machine op left (← machine.evaluate here right)
  | .logical op left right =>
    let first ← machine.evaluate here left
    if staysWith op first then return first else machine.evaluate here right
  | .conditional condition yes no =>
    if isTrue (← machine.evaluate here condition) then machine.evaluate here yes
    else machine.evaluate here no
  | .sequence first second =>
    discard <| machine.evaluate here first
    machine.evaluate here second
  | .assign target value => evaluateAssign machine here target value
  | .assignWith op target value =>
    let reference ← reference machine here target
    let old ← readReference machine here reference
    let new ← binary machine op old (← machine.evaluate here value)
    writeReference machine here reference new
    return new
  | .assignUnless op target value =>
    let reference ← reference machine here target
    let old ← readReference machine here reference
    if staysWith op old then return old
    let new ← evaluateFor machine here target value
    writeReference machine here reference new
    return new
  | .member _ _ _ | .superMember _ | .call _ _ _ | .chain _ => evaluateChain machine here expr
  | .superCall arguments => evaluateSuperCall machine here arguments
  | .create callee arguments =>
    let callee ← machine.evaluate here callee
    let arguments ← evaluateList machine here arguments
    if !(← isConstructor callee) then typeError "not a constructor"
    machine.create callee arguments callee
  | .yield value => evaluateYield here (← machine.evaluate here value)
  | .yieldAll value => evaluateYieldAll machine here (← machine.evaluate here value)
  | .await value => evaluateAwait machine (← machine.evaluate here value)
  | .hasHidden name object =>
    let value ← machine.evaluate here object
    match value with
    | .object _ => return .boolean (← hiddenProperty? value (← hiddenKey here name)).isSome
    | _ => typeError "right-hand side of 'in' should be an object"
  | .hidden _ | .spread _ => return .undefined

/-- Evaluates an expression whose value is kept under a name. -/
def evaluateUnder (here : Here) (name : Units) (expr : Expr) : Run Value := do
  match expr with
  | .function code => return .object (← newFunction here code name none)
  | .classOf none base construct members =>
    evaluateClass machine here name none base construct members
  | _ => machine.evaluate here expr

end Run

end PageWatch.Script
