import PageWatch.Script.Reference

/-!
# Objects with methods, and classes

The members of objects and classes. A class is a constructor together with the object
that what it creates inherits from; the fields of its objects, hidden methods among
them, are set up for each object when it is created.
-/

namespace PageWatch.Script

open Text

namespace Run

variable (machine : Machine)

/-! ## Members -/

/-- An accessor with one more function, beside those that a property has already. -/
def accessorWith (old : Option Property) (kind : MemberKind) (function : ObjectId) : Slot :=
  let (getter, setter) := match old with
    | some ⟨.accessor getter setter, _, _⟩ => (getter, setter)
    | _ => (none, none)
  match kind with
  | .setter => .accessor getter (some function)
  | _ => .accessor (some function) setter

/-- The word before the name of a function that reads or writes a property. -/
def accessorWord : MemberKind → Units
  | .value => Units.empty
  | .getter => "get "
  | .setter => "set "

def methodName (key : Expr) (kind : MemberKind) (value : Key) : Run Units := do
  let name ← match key with
    | .hidden name => pure (Units.ofString (hiddenName name))
    | _ => nameOfKey value
  return accessorWord kind ++ name

def defineMethod (here : Here) (target : ObjectId) (enumerable : Bool) (keyExpr : Expr)
    (key : Key) (kind : MemberKind) (code : CodeNumber) : Run Unit := do
  let function ← newFunction here code (← methodName keyExpr kind key) (some target)
  let slot ← match kind with
    | .value => pure (.data (.object function) true)
    | _ => pure (accessorWith (← ownProperty? machine target key) kind function)
  putProperty target key ⟨slot, enumerable, true⟩

/-- Copies the properties that a value shows. -/
def copyProperties (target : ObjectId) (source : Value) : Run Unit := do
  match source with
  | .undefined | .null => return
  | _ =>
    let place ← toObject source
    for key in ← ownKeys machine place do
      match ← ownProperty? machine place key with
      | some property => if property.enumerable then put machine target key (← getOf machine place key)
      | none => pure ()

def defineMember (here : Here) (target : ObjectId) : Member → Run Unit
  | .field _ keyExpr value => do
    let key ← evaluateKey machine here keyExpr
    put machine target key (← machine.evaluateNamed here (← nameOfKey key) value)
  | .method _ keyExpr kind code => do
    let key ← evaluateKey machine here keyExpr
    defineMethod machine here target true keyExpr key kind code
  | .spread source => do copyProperties machine target (← machine.evaluate here source)
  | .base value => do
    match ← machine.evaluate here value with
    | .object parent => modifyObject target fun object => { object with parent := some parent }
    | .null => modifyObject target fun object => { object with parent := none }
    | _ => return
  | .setup _ _ _ => return

def evaluateObject (here : Here) (members : List Member) : Run Value := do
  let target ← newObject
  for member in members do defineMember machine here target member
  return .object target

/-! ## Fields -/

/-- Gives an object a member that each object of its class has for itself. -/
def initializeField (place : ObjectId) (field : Field) : Run Unit := do
  match field.kind with
  | .computed =>
    let value ← machine.call (.object field.function) (.object place) []
    match field.key with
    | .hidden _ => putProperty place field.key ⟨.data value true, false, false⟩
    | key => put machine place key value
  | .method => putProperty place field.key ⟨.data (.object field.function) false, false, false⟩
  | .getter | .setter =>
    let kind := if field.kind == .setter then MemberKind.setter else .getter
    let old := (← objectAt place).table.get? field.key
    putProperty place field.key ⟨accessorWith old kind field.function, false, false⟩

/-- Gives a new object the fields that its constructor knows, hidden methods before all
others. -/
def initializeFields (constructor : ObjectId) (place : ObjectId) : Run Unit := do
  let fields := ((← functionAt? constructor).map (·.fields)).getD []
  let (computed, methods) := fields.partition fun field => field.kind == .computed
  for field in methods ++ computed do initializeField machine place field

/-! ## Classes -/

def hiddenNames (members : List Member) : List String :=
  (members.filterMap fun
    | .method _ (.hidden name) _ _ | .setup _ (.hidden name) _ => some name
    | _ => none).eraseDups

/-- Bindings that give hidden members their keys. -/
def hiddenBindings (names : List String) : Run (List (String × Binding)) :=
  update fun memory =>
    (names.mapIdx fun position name =>
      (hiddenName name,
        { value := some (.whole (Int.ofNat (memory.hidden + position))), constant := true }),
      { memory with hidden := memory.hidden + names.length })

/-- What the objects of a class inherit from, and what the class itself inherits from. -/
def classParents (here : Here) (base : List Expr) : Run (Option ObjectId × Option ObjectId) := do
  let whole := some Intrinsic.function.place
  match base with
  | [] => return (some Intrinsic.object.place, whole)
  | base :: _ =>
    match ← machine.evaluate here base with
    | .null => return (none, whole)
    | .object parent =>
      if !(← isConstructor (.object parent)) then
        typeError "superclass must be a constructor"
      match ← getOf machine parent "prototype" with
      | .object prototype => return (some prototype, some parent)
      | .null => return (none, some parent)
      | _ => typeError "superclass prototype must be an object or null"
    | _ => typeError "superclass must be a constructor"

/-- What is left to do with a member of a class once all have been defined. -/
structure LateMembers where
  fields : List Field := []
  /-- The fields of the class itself and what it does when it is defined. -/
  ofClass : List (Option Field × ObjectId) := []

/-- The kind of field that a hidden method is. -/
def fieldKindOf : MemberKind → FieldKind
  | .value => .method
  | .getter => .getter
  | .setter => .setter

def defineClassMember (here : Here) (constructor prototype : ObjectId) (late : LateMembers) :
    Member → Run LateMembers
  | .method static keyExpr kind code => do
    let target := if static then constructor else prototype
    let key ← evaluateKey machine here keyExpr
    match key with
    | .hidden _ =>
      let function ← newFunction here code (← methodName keyExpr kind key) (some target)
      let field : Field := ⟨key, fieldKindOf kind, function⟩
      if static then
        initializeField machine constructor field
        return late
      else return { late with fields := late.fields ++ [field] }
    | _ =>
      defineMethod machine here target false keyExpr key kind code
      return late
  | .setup true .hole code => do
    let function ← newFunction here code Units.empty (some constructor)
    return { late with ofClass := late.ofClass ++ [(none, function)] }
  | .setup static keyExpr code => do
    let target := if static then constructor else prototype
    let key ← evaluateKey machine here keyExpr
    let function ← newFunction here code Units.empty (some target)
    let field : Field := ⟨key, .computed, function⟩
    if static then return { late with ofClass := late.ofClass ++ [(some field, function)] }
    else return { late with fields := late.fields ++ [field] }
  | _ => return late

def newConstructor (here : Here) (construct : Option CodeNumber) (derived : Bool) (name : Units)
    (prototype : ObjectId) (parent : Option ObjectId) : Run ObjectId := do
  let callable := match construct with
    | some code => Callable.closure code here.scope (some prototype)
    | none => .creator derived
  let length ← match construct with
    | some code => pure (← codeAt code).length
    | none => pure 0
  let place ← addObject (.function ⟨callable, true, some derived, []⟩) parent
  describe place length name
  givePrototype place prototype false
  putProperty prototype "constructor" (.quiet (.object place))
  return place

/-- Defines a class, under a name unless it has its own. -/
def evaluateClass (here : Here) (name : Units) (own : Option String) (base : List Expr)
    (construct : Option CodeNumber) (members : List Member) : Run Value := do
  let ownBinding := (own.map fun name =>
    (name, ({ value := none, constant := true } : Binding))).toList
  let hidden ← hiddenBindings (hiddenNames members)
  let here : Here := ⟨← addScope (ownBinding ++ hidden) here.scope, true⟩
  let (above, parent) ← classParents machine here base
  let prototype ← addObject .plain above
  let name := (own.map Units.ofString).getD name
  let constructor ← newConstructor here construct (!base.isEmpty) name prototype parent
  let late ← members.foldlM (defineClassMember machine here constructor prototype) {}
  match own with
  | some own => initializeName machine here own (.object constructor)
  | none => pure ()
  modifyObject constructor fun object =>
    match object.kind with
    | .function function =>
      { object with kind := .function { function with fields := late.fields } }
    | _ => object
  for (field?, function) in late.ofClass do
    match field? with
    | some field => initializeField machine constructor field
    | none => discard <| machine.call (.object function) (.object constructor) []
  return .object constructor

end Run

end PageWatch.Script
