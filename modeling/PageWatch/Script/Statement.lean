import PageWatch.Script.Expression

/-!
# Statements

What statements do. A statement that jumps ends with the jump, and the statements
around it end the same way up to the one that it leads to.
-/

namespace PageWatch.Script

open Text

namespace Run

variable (machine : Machine)

/-! ## Declarations and blocks -/

/-- Gives names that are declared their values. -/
def declare (here : Here) (kind : DeclarationKind) :
    List (Pattern × Option Expr) → Run Unit
  | [] => return
  | (pattern, value?) :: rest => do
    let purpose := if kind == .function then Purpose.assign else .introduce
    match value? with
    | some value =>
      let value ← match pattern with
        | .target target => evaluateFor machine here target value
        | _ => machine.evaluate here value
      machine.place here purpose pattern value
    | none => unless kind == .function do machine.place here .introduce pattern .undefined
    declare here kind rest

/-- Executes the statements of a block in a scope of its own. -/
def executeBlock (here : Here) (declarations : Declarations) (body : List Statement) :
    Run Completion := do
  let here ← inside here declarations.names
  declareFunctions here declarations fun name value => putBinding here.scope name
    { value := some value, constant := false }
  executeAll machine here body

/-! ## Loops -/

/-- Whether a loop goes on after its body, or how it ends. -/
def afterBody (labels : List String) : Completion → Option Completion
  | .normal | .continued none => none
  | .broken none => some .normal
  | .continued (some label) =>
    if labels.contains label then none else some (.continued (some label))
  | completion => some completion

def executeLoop (here : Here) (labels : List String) (names : List BlockName)
    (setup : Statement) (perRound : List String) (condition update : Option Expr)
    (body : Statement) : Run Completion := do
  let here ← inside here names
  discard <| machine.execute here setup
  let first ← withCopies here perRound
  repeated (fun (here : Here) => do
    let goesOn ← match condition with
      | some condition => do pure (isTrue (← machine.evaluate here condition))
      | none => pure true
    if !goesOn then return .inr .normal
    match afterBody labels (← machine.execute here body) with
    | some completion => return .inr completion
    | none =>
      let next ← withCopies here perRound
      match update with
      | some update => discard <| machine.evaluate next update
      | none => pure ()
      return .inl next) first

/-- Executes a loop that tests its condition before its body. -/
def executeWhile (here : Here) (labels : List String) (condition : Expr) (body : Statement) :
    Run Completion :=
  repeated (fun () => do
    if !isTrue (← machine.evaluate here condition) then return .inr .normal
    match afterBody labels (← machine.execute here body) with
    | some completion => return .inr completion
    | none => return .inl ()) ()

/-- Executes a loop that tests its condition after its body. -/
def executeUntil (here : Here) (labels : List String) (body : Statement) (condition : Expr) :
    Run Completion :=
  repeated (fun () => do
    match afterBody labels (← machine.execute here body) with
    | some completion => return .inr completion
    | none =>
      if isTrue (← machine.evaluate here condition) then return .inl ()
      else return .inr .normal) ()

def executeRound (here : Here) (declares : Option DeclarationKind) (names : List BlockName)
    (target : Pattern) (body : Statement) (value : Value) : Run Completion := do
  let here ← inside here names
  let purpose := match declares with
    | some .block | some .constant => Purpose.introduce
    | _ => .assign
  machine.place here purpose target value
  machine.execute here body

/-- The keys that a loop over an object goes through: those of texts that the object
shows, then those of the objects that it inherits from, each once. -/
def enumerableKeys : Nat → List Key → ObjectId → Run (List Key)
  | 0, _, _ => return []
  | steps + 1, seen, place => do
    let own := (← ownKeys machine place).filter fun key => key.text?.isSome
    let shown ← own.filterM fun key => do
      if seen.contains key then return false
      match ← ownProperty? machine place key with
      | some property => return property.enumerable
      | none => return false
    match ← parentOf machine place with
    | some parent => return shown ++ (← enumerableKeys steps (seen ++ own) parent)
    | none => return shown

def executeOverKeys (here : Here) (labels : List String) (declares : Option DeclarationKind)
    (names : List BlockName) (target : Pattern) (source : Value) (body : Statement) :
    Run Completion := do
  if isNothing source then return .normal
  let place ← toObject source
  let keys ← enumerableKeys machine manyParents [] place
  repeated (fun keys => do
    match keys with
    | [] => return .inr .normal
    | key :: rest =>
      if !(← has machine place key) then return .inl rest
      match afterBody labels
          (← executeRound machine here declares names target body (keyValue key)) with
      | some completion => return .inr completion
      | none => return .inl rest) keys

/-- Executes a loop over the values of something that can be iterated. -/
def executeOverValues (here : Here) (labels : List String) (declares : Option DeclarationKind)
    (names : List BlockName) (target : Pattern) (source : Value) (body : Statement) :
    Run Completion := do
  let iterator ← iterator machine source
  repeated (fun () => do
    match ← step machine iterator with
    | none => return .inr .normal
    | some value =>
      let completion ← closingOnFailure machine iterator
        (executeRound machine here declares names target body value)
      match afterBody labels completion with
      | some completion =>
        closeIterator machine iterator
        return .inr completion
      | none => return .inl ()) ()

/-! ## Choices and failures -/

/-- The statements from the first case on that equals a value, or from the default. -/
def chosenBody (here : Here) (value : Value) (body : List Statement)
    (cases : List (Option Expr × Nat)) : List (Option Expr × Nat) → Run (List Statement)
  | [] =>
    match cases.find? (·.1.isNone) with
    | some (_, start) => return body.drop start
    | none => return []
  | (none, _) :: rest => chosenBody here value body cases rest
  | (some expr, start) :: rest => do
    if strictlyEqual value (← machine.evaluate here expr) then return body.drop start
    else chosenBody here value body cases rest

def executeSwitch (here : Here) (subject : Expr) (declarations : Declarations)
    (cases : List (Option Expr × Nat)) (body : List Statement) : Run Completion := do
  let value ← machine.evaluate here subject
  let here ← inside here declarations.names
  declareFunctions here declarations fun name value => putBinding here.scope name
    { value := some value, constant := false }
  let chosen ← chosenBody machine here value body cases cases
  match ← executeAll machine here chosen with
  | .broken none => return .normal
  | completion => return completion

def executeHandler (here : Here) (handler : List String × Option Pattern × Statement)
    (value : Value) : Run Completion := do
  let (names, parameter, body) := handler
  let here ← inside here (names.map fun name => ⟨name, false⟩)
  match parameter with
  | some pattern => machine.place here .introduce pattern value
  | none => pure ()
  machine.execute here body

/-- Executes a statement with a handler for its failures and a finalizer. What the
finalizer does counts only if it does not end normally. A computation that never goes on
does not reach it. -/
def executeAttempt (here : Here) (body : Statement)
    (handler : Option (List String × Option Pattern × Statement))
    (finalizer : Option Statement) : Run Completion := do
  let handled : Run Completion := do
    match handler with
    | none => machine.execute here body
    | some handler =>
      match ← (machine.execute here body).attempt with
      | .error (.thrown value) => executeHandler machine here handler value
      | result => resumeWith result
  match finalizer with
  | none => handled
  | some finalizer =>
    let result ← handled.attempt
    match result with
    | .error .waiting | .error .exhausted => resumeWith result
    | _ =>
      match ← machine.execute here finalizer with
      | .normal => resumeWith result
      | completion => return completion

/-! ## All statements -/

/-- Executes a statement with labels, the innermost of them first. -/
def executeLabeled (here : Here) (labels : List String) : Statement → Run Completion
  | .labeled label body => do
    match ← executeLabeled here (label :: labels) body with
    | .broken (some broken) =>
      if broken == label then return .normal else return .broken (some broken)
    | completion => return completion
  | .loop names setup perRound condition update body =>
    executeLoop machine here labels names setup perRound condition update body
  | .loopWhile condition body => executeWhile machine here labels condition body
  | .loopUntil body condition => executeUntil machine here labels body condition
  | .loopOver overValues declares names target source body => do
    let outer ← inside here names
    let source ← machine.evaluate outer source
    if overValues then executeOverValues machine here labels declares names target source body
    else executeOverKeys machine here labels declares names target source body
  | statement => machine.execute here statement

def execute (here : Here) (statement : Statement) : Run Completion := do
  match statement with
  | .empty => return .normal
  | .expression value =>
    discard <| machine.evaluate here value
    return .normal
  | .declare kind declarators =>
    declare machine here kind declarators
    return .normal
  | .function name =>
    if !here.strict then
      match ← binding? here name with
      | some (_, ⟨some value, _, _⟩) => writeVariable machine here name value
      | _ => pure ()
    return .normal
  | .classOf name value =>
    initializeName machine here name (← machine.evaluate here value)
    return .normal
  | .block declarations body => executeBlock machine here declarations body
  | .branch condition yes no =>
    if isTrue (← machine.evaluate here condition) then machine.execute here yes
    else machine.execute here no
  | .loop _ _ _ _ _ _ | .loopWhile _ _ | .loopUntil _ _ | .loopOver _ _ _ _ _ _
  | .labeled _ _ => executeLabeled machine here [] statement
  | .return value => return .returned (← machine.evaluate here value)
  | .throw value => throwValue (← machine.evaluate here value)
  | .break label => return .broken label
  | .continue label => return .continued label
  | .attempt body handler finalizer => executeAttempt machine here body handler finalizer
  | .switch subject declarations cases body =>
    executeSwitch machine here subject declarations cases body

end Run

end PageWatch.Script
