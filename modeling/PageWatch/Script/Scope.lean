import PageWatch.Script.Operator

/-!
# Names

What names stand for. A name is looked for in the scope where it is used, then in those
around it, and at last among the properties of the global object. A name that is
declared further on in its block is known before, but it has no value yet.
-/

namespace PageWatch.Script

open Text

namespace Run

variable (machine : Machine)

/-! ## Finding names -/

/-- The scope that a name is declared in, with what it stands for, starting from a
scope. Scopes come after those around them, so the place bounds the number of steps. -/
def bindingFrom? (memory : Memory) (name : String) : Nat → ScopeId → Option (ScopeId × Binding)
  | 0, _ => none
  | steps + 1, place => do
    let scope ← memory.scopes[place]?
    match scope.bindings.lookup name with
    | some binding => some (place, binding)
    | none => bindingFrom? memory name steps (← scope.parent)

/-- The scope that a name is declared in, with what it stands for. -/
def binding? (here : Here) (name : String) : Run (Option (ScopeId × Binding)) :=
  look fun memory => bindingFrom? memory name (here.scope + 1) here.scope

/-- The call that a scope belongs to, with the outermost scope of that call. -/
def frameFrom? (memory : Memory) : Nat → ScopeId → Option (ScopeId × Frame)
  | 0, _ => none
  | steps + 1, place => do
    let scope ← memory.scopes[place]?
    match scope.frame with
    | some frame => some (place, frame)
    | none => frameFrom? memory steps (← scope.parent)

/-- The call that something is evaluated in, with the outermost scope of that call. -/
def frame? (here : Here) : Run (Option (ScopeId × Frame)) :=
  look fun memory => frameFrom? memory (here.scope + 1) here.scope

/-- The scope for the names that are declared for a whole function. -/
def variablesFrom (memory : Memory) : Nat → ScopeId → ScopeId
  | 0, place => place
  | steps + 1, place =>
    match memory.scopes[place]? with
    | some scope =>
      if scope.holdsVariables then place
      else
        match scope.parent with
        | some parent => variablesFrom memory steps parent
        | none => place
    | none => place

/-! ## Reading and writing names -/

/-- Throws the error about a name that stands for nothing. -/
def notDefined {α : Type} (name : String) : Run α :=
  raise .referenceError (name ++ " is not defined")

def readName? (here : Here) (name : String) : Run (Option Value) := do
  match ← binding? here name with
  | some (_, binding) =>
    match binding.value with
    | some value => return some value
    | none => notDefined name
  | none =>
    let global := Intrinsic.global.place
    if ← has machine global (.ofString name) then
      return some (← getOf machine global (.ofString name))
    else return none

def readName (here : Here) (name : String) : Run Value := do
  match ← readName? machine here name with
  | some value => return value
  | none => notDefined name

/-- Sets what a name of a scope stands for. -/
def putBinding (place : ScopeId) (name : String) (binding : Binding) : Run Unit :=
  modify <| Memory.modifyScope place fun scope =>
    { scope with
      bindings := scope.bindings.map fun entry =>
        if entry.1 == name then (name, binding) else entry }

/-- Gives a name another value. Outside of strict scripts a name that is not known
becomes a property of the global object. -/
def writeName (here : Here) (name : String) (value : Value) : Run Unit := do
  match ← binding? here name with
  | some (place, binding) =>
    if binding.value.isNone then notDefined name
    if binding.constant then
      if !binding.ignored || here.strict then
        typeError s!"cannot mutate an immutable binding '{name}'"
    else putBinding place name { binding with value := some value }
  | none =>
    let global := Intrinsic.global.place
    if here.strict && !(← has machine global (.ofString name)) then
      raise .referenceError s!"cannot assign to uninitialized global property `{name}`"
    set machine (.object global) (.ofString name) value here.strict

def initializeName (here : Here) (name : String) (value : Value) : Run Unit := do
  match ← binding? here name with
  | some (place, binding) => putBinding place name { binding with value := some value }
  | none => writeName machine here name value

/-- Gives a name that is declared for the whole function its value, from a block inside
it. -/
def writeVariable (here : Here) (name : String) (value : Value) : Run Unit := do
  let place ← look fun memory => variablesFrom memory (here.scope + 1) here.scope
  writeName machine ⟨place, false⟩ name value

/-! ## New scopes -/

def addScope (bindings : List (String × Binding)) (parent : ScopeId) : Run ScopeId :=
  update (Memory.addScope ⟨bindings, some parent, none, false⟩)

/-- A name of a block before it has a value. -/
def BlockName.binding (name : BlockName) : String × Binding :=
  (name.name, { value := none, constant := name.constant })

def variableBinding (name : String) (value : Value) : String × Binding :=
  (name, { value := some value, constant := false })

/-- Goes on in a scope with names that have no values yet. -/
def inside (here : Here) (names : List BlockName) : Run Here := do
  if names.isEmpty then return here
  return { here with scope := ← addScope (names.map BlockName.binding) here.scope }

/-- Goes on in a scope that has its own copies of some names of a scope. -/
def withCopies (here : Here) (names : List String) : Run Here := do
  if names.isEmpty then return here
  let scope ← look fun memory => (memory.scopes[here.scope]?).getD default
  let place ← update (Memory.addScope { scope with frame := none, holdsVariables := false })
  return { here with scope := place }

/-! ## The call around -/

/-- The value of `this`. -/
def self (here : Here) : Run Value := do
  match ← frame? here with
  | some (_, frame) =>
    match frame.self with
    | some value => return value
    | none => raise .referenceError "must call super constructor before accessing 'this'"
  | none => return .undefined

end Run

end PageWatch.Script
