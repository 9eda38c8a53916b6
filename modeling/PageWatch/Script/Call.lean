import PageWatch.Script.Class

/-!
# Calls

What happens when an object is called, or asked to create another object: a function of
the script gets its arguments and runs in a scope of its own; a function of the library
runs; and a function that can pause answers an object that runs it step by step.
-/

namespace PageWatch.Script

open Text

/-- A function of the library. It is told the value of `this`, the arguments, and the
constructor that was asked for if it is to create an object. -/
structure Native where
  name : Units
  /-- How many arguments are expected. -/
  length : Nat
  creates : Bool
  run : Machine → Value → List Value → Value → Run Value

namespace Run

/-! ## Statements in a row -/

/-- Executes statements up to the first that does not end normally. -/
def executeAll (machine : Machine) (here : Here) : List Statement → Run Completion
  | [] => return .normal
  | statement :: statements => do
    match ← machine.execute here statement with
    | .normal => executeAll machine here statements
    | completion => return completion

/-- Makes the functions of a block, which have their values from the start. -/
def declareFunctions (here : Here) (declarations : Declarations)
    (write : String → Value → Run Unit) : Run Unit := do
  for (name, code) in declarations.functions do
    write name (.object (← newFunction here code Units.empty none))

/-! ## Arguments -/

/-- The object that holds the arguments of a call. -/
def newArguments (arguments : List Value) : Run ObjectId := do
  let place ← addObject .arguments (some Intrinsic.object.place)
  for (value, position) in arguments.zipIdx do
    putProperty place (.index position) (.ofValue value)
  putProperty place "length" (.quiet (countValue arguments.length))
  match (← objectAt Intrinsic.array.place).table.get? "values" with
  | some property => putProperty place WellKnown.iterator.key property
  | none => pure ()
  return place

def placeParameters (machine : Machine) (here : Here) : List Pattern → List Value → Run Unit
  | [], _ => return
  | .rest pattern :: _, arguments => do
    machine.place here .introduce pattern (.object (← newArray arguments))
  | pattern :: patterns, arguments => do
    machine.place here .introduce pattern (arguments.headD .undefined)
    placeParameters machine here patterns arguments.tail

/-- The bindings of parameters that are names. Of two with one name the last counts. -/
def parameterBindings : List String → List Value → List (String × Binding)
  | [], _ => []
  | name :: names, arguments =>
    let later := parameterBindings names arguments.tail
    if names.contains name then later
    else variableBinding name (arguments.headD .undefined) :: later

/-- Adds the scope of a call: the parameters with their values, and the names that the
function declares. -/
def enter (machine : Machine) (code : Code) (outer : ScopeId) (frame : Option Frame)
    (arguments : List Value) : Run Here := do
  let declared (name : String) : Bool :=
    code.parameterNames.contains name ||
      (code.plain && (code.declarations.names.any (·.name == name) ||
        code.declarations.functions.any (·.1 == name)))
  let ownArguments ←
    if frame.isNone || declared "arguments" then pure []
    else pure [variableBinding "arguments" (.object (← newArguments arguments))]
  let lexical := code.declarations.names.map BlockName.binding
  let here ← if code.plain then
      let parameters := parameterBindings code.parameterNames arguments
      let known := parameters ++ ownArguments
      let own := (code.varNames.filter fun name => (known.lookup name).isNone).map
        (variableBinding · .undefined)
      let place ← update (Memory.addScope ⟨known ++ own ++ lexical, some outer, frame, true⟩)
      pure (⟨place, code.strict⟩ : Here)
    else do
      let parameters := code.parameterNames.map fun name =>
        (name, ({ value := none, constant := false } : Binding))
      let place ← update (Memory.addScope ⟨parameters ++ ownArguments, some outer, frame, true⟩)
      let here : Here := ⟨place, code.strict⟩
      placeParameters machine here code.parameters arguments
      let bindings ← look fun memory => ((memory.scopes[place]?).getD default).bindings
      let own := code.varNames.map fun name =>
        variableBinding name (((bindings.lookup name).bind (·.value)).getD .undefined)
      let inner ← update (Memory.addScope ⟨own ++ lexical, some place, none, true⟩)
      pure ⟨inner, code.strict⟩
  declareFunctions here code.declarations fun name value => putBinding here.scope name
    { value := some value, constant := false }
  return here

/-! ## Functions of the script -/

/-- Executes the body of a function, up to the value that it returns. -/
def executeBody (machine : Machine) (here : Here) (body : List Statement) : Run Value := do
  match ← executeAll machine here body with
  | .returned value => return value
  | _ => return .undefined

/-- An object that stands for a value to come. Nothing ever tells it the value. -/
def newPromise : Run Value := do
  return .object (← addObject .promise (some Intrinsic.promise.place))

/-- Runs what may wait, and answers an object that stands for the value to come. -/
def asPromise (computation : Run Value) : Run Value := do
  match ← computation.attempt with
  | .error .exhausted => stop .exhausted
  | _ => newPromise

/-- The value of `this` in a function, which is an object unless the function is
strict. -/
def selfOf (strict : Bool) (self : Value) : Run Value := do
  if strict then return self
  match self with
  | .undefined | .null => return .object Intrinsic.global.place
  | _ => return .object (← toObject self)

def callClosure (machine : Machine) (place : ObjectId) (number : CodeNumber) (outer : ScopeId)
    (home : Option ObjectId) (self : Option Value) (arguments : List Value) (newTarget : Value) :
    Run (ScopeId × Value) := do
  let code ← codeAt number
  let frame := if code.kind == .arrow then none
    else some (⟨self, some place, home, newTarget⟩ : Frame)
  if code.generator then
    let here ← enter machine code outer frame arguments
    let parent ← match ← getOf machine place "prototype" with
      | .object prototype => pure prototype
      | _ => pure Intrinsic.generator.place
    let generator ← addObject (.generator number here.scope .fresh) (some parent)
    return (here.scope, .object generator)
  else if code.async then
    let value ← asPromise (do
      let here ← enter machine code outer frame arguments
      executeBody machine here code.body)
    return (outer, value)
  else
    let here ← enter machine code outer frame arguments
    let value ← executeBody machine here code.body
    return (here.scope, value)

/-! ## Calling -/

/-- Calls an object of the script or the library. Functions of the script run one level
deeper than what calls them. -/
def callValue (natives : Array Native) (deeper machine : Machine) (callee self : Value)
    (arguments : List Value) : Run Value := do
  match callee with
  | .object place =>
    match (← objectAt place).kind with
    | .function function =>
      if function.ofClass.isSome then
        typeError "class constructor cannot be invoked without 'new'"
      match function.callable with
      | .closure number scope home =>
        let strict := (← codeAt number).strict
        return (← callClosure deeper place number scope home
          (some (← selfOf strict self)) arguments .undefined).2
      | .creator _ => typeError "class constructor cannot be invoked without 'new'"
      | .native number =>
        match natives[number]? with
        | some native => native.run machine self arguments .undefined
        | none => return .undefined
      | .bound target self before => machine.call (.object target) self (before ++ arguments)
    | .proxy target handler true _ =>
      match ← trap? (getOf machine) handler "apply" with
      | some method =>
        machine.call method (.object handler)
          [.object target, self, .object (← newArray arguments)]
      | none => machine.call (.object target) self arguments
    | _ => typeError "not a callable function"
  | _ => typeError "not a callable function"

/-! ## Creating objects -/

/-- The object that what a constructor creates inherits from. -/
def prototypeFor (machine : Machine) (newTarget : Value) (usual : Intrinsic) : Run ObjectId := do
  match newTarget with
  | .object place =>
    match ← getOf machine place "prototype" with
    | .object prototype => return prototype
    | _ => return usual.place
  | _ => return usual.place

/-- A new object for a constructor that extends no other. -/
def newInstance (machine : Machine) (constructor : ObjectId) (newTarget : Value) :
    Run ObjectId := do
  let place ← addObject .plain (some (← prototypeFor machine newTarget .object))
  initializeFields machine constructor place
  return place

/-- Creates an object with the constructor that another one extends, and gives it the
fields of the extending one. -/
def createAbove (machine : Machine) (constructor : ObjectId) (arguments : List Value)
    (newTarget : Value) : Run Value := do
  match ← parentOf machine constructor with
  | some parent =>
    if !(← isConstructor (.object parent)) then typeError "super constructor is not a constructor"
    machine.create (.object parent) arguments newTarget
  | none => typeError "super constructor is not a constructor"

/-- Creates an object with a constructor of the script that extends another. -/
def createDerived (deeper : Machine) (place : ObjectId) (number : CodeNumber) (outer : ScopeId)
    (home : Option ObjectId) (arguments : List Value) (newTarget : Value) : Run Value := do
  let (scope, value) ← callClosure deeper place number outer home none arguments newTarget
  match value with
  | .object _ => return value
  | .undefined => self ⟨scope, true⟩
  | _ => typeError "derived constructor can only return an Object or undefined"

/-- Creates an object with a constructor. -/
def createValue (natives : Array Native) (deeper machine : Machine) (callee : Value)
    (arguments : List Value) (newTarget : Value) : Run Value := do
  if !(← isConstructor callee) then typeError "not a constructor"
  match callee with
  | .object place =>
    match (← objectAt place).kind with
    | .function function =>
      match function.callable with
      | .closure number scope home =>
        if function.ofClass == some true then
          createDerived deeper place number scope home arguments newTarget
        else
          let created ← newInstance machine place newTarget
          let (_, value) ← callClosure deeper place number scope home (some (.object created))
            arguments newTarget
          match value with
          | .object _ => return value
          | _ => return .object created
      | .creator derived =>
        if derived then
          let created ← createAbove machine place arguments newTarget
          match created with
          | .object created => initializeFields machine place created
          | _ => pure ()
          return created
        else return .object (← newInstance machine place newTarget)
      | .native number =>
        match natives[number]? with
        | some native => native.run machine .undefined arguments newTarget
        | none => return .undefined
      | .bound target _ before =>
        let newTarget := if strictlyEqual newTarget callee then Value.object target else newTarget
        machine.create (.object target) (before ++ arguments) newTarget
    | .proxy target handler _ true =>
      match ← trap? (getOf machine) handler "construct" with
      | some method =>
        match ← machine.call method (.object handler)
          [.object target, .object (← newArray arguments), newTarget] with
        | .object created => return .object created
        | _ => typeError "proxy constructor did not answer an object"
      | none =>
        let newTarget := if strictlyEqual newTarget callee then Value.object target else newTarget
        machine.create (.object target) arguments newTarget
    | _ => typeError "not a constructor"
  | _ => typeError "not a constructor"

end Run

end PageWatch.Script
