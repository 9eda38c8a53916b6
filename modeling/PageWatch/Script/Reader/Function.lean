import PageWatch.Script.Reader.Basic

/-!
# Reading functions, classes and patterns
-/

namespace PageWatch.Script

open Text Reader

namespace Grammar

variable (grammar : Grammar)

/-! ## Names of members -/

def propertyKey (around : Surroundings) : Reader Expr := do
  match ← take with
  | .name text _ => return .text text
  | .text value => return .text value
  | .number value => return .text (Number.text value)
  | .whole value => return .text (toString value)
  | .hiddenName text => return .hidden text
  | .sign "[" =>
    let key ← grammar.assignment { around with allowIn := true }
    sign "]"
    return key
  | _ => fail

/-! ## Patterns -/

/-- Whether an expression is a place that a value can be put in. -/
def isPlace (around : Surroundings) : Expr → Bool
  | .name name => !(around.strict && (name == "eval" || name == "arguments"))
  | .member _ _ optional => !optional
  | .superMember _ => true
  | _ => false

/-- Reads the place of a pattern: a name that is declared, or any place that a value can
be put in. -/
def patternPlace (binding : Bool) (around : Surroundings) : Reader Pattern := do
  if (← atSign "[") || (← atSign "\x7b") then
    if binding then grammar.pattern binding around
    else
      match (← wordAfterBrackets).word with
      | .sign text =>
        if [",", "=", "]", "\x7d", ")"].contains text then grammar.pattern binding around
        else
          let place ← grammar.unary around
          if isPlace around place then return .target place else fail
      | _ => grammar.pattern binding around
  else if binding then return .target (.name (← declaredName around))
  else
    let place ← grammar.unary around
    if isPlace around place then return .target place else fail

/-- Reads a pattern with the value that it takes if there is no other. -/
def patternOrElse (binding : Bool) (around : Surroundings) : Reader Pattern := do
  let pattern ← grammar.patternPlace binding around
  if ← trySign "=" then
    return .orElse pattern (← grammar.assignment { around with allowIn := true })
  else return pattern

def arrayPattern (binding : Bool) (around : Surroundings) : Reader Pattern := do
  sign "["
  let items ← repeated (fun items => do
    if ← trySign "]" then return .inr items.reverse
    else if ← trySign "," then return .inl (.skip :: items)
    else if ← trySign "..." then
      let pattern ← grammar.patternPlace binding around
      sign "]"
      return .inr (.rest pattern :: items).reverse
    else
      let pattern ← grammar.patternOrElse binding around
      unless ← trySign "," do
        sign "]"
        return .inr (pattern :: items).reverse
      return .inl (pattern :: items)) []
  return .array items

def memberPattern (binding : Bool) (around : Surroundings) : Reader Pattern := do
  if ← trySign "..." then return .rest (← grammar.patternPlace binding around)
  else
    let short? ← match ← peek with
      | .name text _ =>
        match (← peekSecond).word with
        | .sign after => pure (if after == ":" then none else some text)
        | _ => pure none
      | _ => pure none
    match short? with
    | some text =>
      let text' ← declaredName around
      if text' != text then fail
      let pattern : Pattern := .target (.name text)
      if ← trySign "=" then
        let other ← grammar.assignment { around with allowIn := true }
        return .member (.text text) (.orElse pattern other)
      else return .member (.text text) pattern
    | none =>
      let key ← grammar.propertyKey around
      sign ":"
      return .member key (← grammar.patternOrElse binding around)

def bracketPattern (binding : Bool) (around : Surroundings) : Reader Pattern := do
  if ← atSign "[" then grammar.arrayPattern binding around
  else
    sign "\x7b"
    return .object (← listUntil "\x7d" (grammar.memberPattern binding around))

/-! ## Functions -/

def isPlainName : Pattern → Bool
  | .target (.name _) => true
  | _ => false

/-- How many arguments are expected before the first that may be left out. -/
def expectedArguments : List Pattern → Nat
  | [] => 0
  | .orElse _ _ :: _ | .rest _ :: _ => 0
  | _ :: patterns => expectedArguments patterns + 1

def parameters (around : Surroundings) : Reader (List Pattern) := do
  sign "("
  repeated (fun items => do
    if ← trySign ")" then return .inr items.reverse
    else if ← trySign "..." then
      let pattern ← grammar.patternPlace true around
      sign ")"
      return .inr (.rest pattern :: items).reverse
    else
      let pattern ← grammar.patternOrElse true around
      unless ← trySign "," do
        sign ")"
        return .inr (pattern :: items).reverse
      return .inl (pattern :: items)) []

/-- Whether a body begins with the words that make it strict, which stand alone among
the texts that it begins with. -/
def startsStrict : List Lexeme → Bool
  | ⟨.text value, _, _⟩ :: ⟨.sign ";", _, _⟩ :: rest => value == "use strict" || startsStrict rest
  | ⟨.text value, _, _⟩ :: next :: rest =>
    (value == "use strict" &&
      (next.afterLine || next.word == .sign "\x7d" || next.word == .finish)) ||
      (next.afterLine && startsStrict (next :: rest))
  | _ => false

def statementsToBrace (around : Surroundings) : Reader (List Statement) :=
  repeated (fun statements => do
    if ← trySign "\x7d" then return .inr statements.reverse
    return .inl ((← grammar.statement around) :: statements)) []

/-- How a function is introduced. -/
structure Heading where
  name : Option Units := none
  ownName : Option String := none
  kind : FunctionKind := .normal
  async : Bool := false
  generator : Bool := false
  /-- The text from its beginning on, if what is written is kept. -/
  start : Option (List Char) := none

def inside (heading : Heading) (strict : Bool) (around : Surroundings) : Surroundings :=
  let arrow := heading.kind == .arrow
  { inFunction := true
    generator := heading.generator
    async := heading.async
    strict := around.strict || strict
    superCall := if arrow then around.superCall else heading.kind == .derivedConstructor
    superMember := if arrow then around.superMember else heading.kind != .normal
    outermost := true }

/-- Reads the body of a function whose parameters have been read, and adds the function
to the script. -/
def functionBody (heading : Heading) (around : Surroundings) (patterns : List Pattern)
    (short : Bool) : Reader CodeNumber := do
  let strict := !short && startsStrict (← words)
  let around := inside heading strict around
  let parameterNames := Pattern.namesOfAll patterns
  let plain := patterns.all isPlainName
  if (strict && !plain) ||
      ((around.strict || !plain || heading.kind == .arrow || heading.kind == .method) &&
        !allDifferent parameterNames) then fail
  let (varNames, declarations, body) ← withVariables parameterNames (do
    if short then return [Statement.return (← grammar.assignment around)]
    else grammar.statementsToBrace around)
  let source ← heading.start.mapM textSince
  addCode
    { name := heading.name
      source
      ownName := heading.ownName
      kind := heading.kind
      async := heading.async
      generator := heading.generator
      strict := around.strict
      parameters := patterns
      parameterNames
      plain
      length := expectedArguments patterns
      varNames
      declarations
      body }

/-- Reads the parameters and the body of a function. -/
def functionRest (heading : Heading) (around : Surroundings) : Reader CodeNumber := do
  let patterns ← grammar.parameters { inside heading false around with outermost := false }
  sign "\x7b"
  grammar.functionBody heading around patterns false

/-- Reads a function in an expression, after its first keyword. -/
def functionExpression (start : List Char) (async : Bool) (around : Surroundings) :
    Reader Expr := do
  let generator ← trySign "*"
  let inner : Surroundings := { around with generator, async }
  let own? ← if ← atSign "(" then pure none else pure (some (← declaredName inner))
  let code ← grammar.functionRest
    { name := own?.map Units.ofString, ownName := own?, async, generator, start } around
  return .function code

/-- Reads the rest of an arrow function, from its arrow on. -/
def arrowRest (start : List Char) (async : Bool) (around : Surroundings)
    (patterns : List Pattern) : Reader Expr := do
  if ← atNewLine then fail
  sign "=>"
  let heading : Heading := { kind := .arrow, async, start }
  if ← trySign "\x7b" then
    return .function (← grammar.functionBody heading around patterns false)
  else return .function (← grammar.functionBody heading around patterns true)

def arrowFunction? (around : Surroundings) : Reader (Option Expr) := do
  let start ← textHere
  let async ← do
    if (← atKeyword "async") && !(← peekSecond).afterLine then
      match (← peekSecond).word with
      | .name text _ => pure (isName { around with async := true } text)
      | .sign "(" =>
        let after := afterBrackets 0 ((← words).drop 1)
        pure (match after with
          | ⟨.sign "=>", false, _⟩ :: _ => true
          | _ => false)
      | _ => pure false
    else pure false
  if async then
    match (← peekSecond).word with
    | .name _ _ =>
      match (← words).drop 2 with
      | ⟨.sign "=>", false, _⟩ :: _ =>
        skip
        let parameter ← declaredName { around with async := true }
        return some (← grammar.arrowRest start true around [.target (.name parameter)])
      | _ => return none
    | _ =>
      skip
      let patterns ← grammar.parameters { around with async := true }
      return some (← grammar.arrowRest start true around patterns)
  else if ← atSign "(" then
    match ← wordAfterBrackets with
    | ⟨.sign "=>", false, _⟩ =>
      let patterns ← grammar.parameters around
      return some (← grammar.arrowRest start false around patterns)
    | _ => return none
  else
    match (← peekSecond) with
    | ⟨.sign "=>", false, _⟩ =>
      let parameter ← declaredName around
      return some (← grammar.arrowRest start false around [.target (.name parameter)])
    | _ => return none

/-! ## Members -/

/-- What the words before the name of a member say about it. -/
structure Modifiers where
  kind : MemberKind := .value
  async : Bool := false
  generator : Bool := false

/-- Reads the words before the name of a member. -/
def modifiers : Reader Modifiers := do
  if ← trySign "*" then return { generator := true }
  let qualifies ← do
    match ← peek with
    | .name text false =>
      if ["get", "set", "async"].contains text then
        match (← peekSecond) with
        | ⟨.sign after, line, _⟩ =>
          pure (after == "[" || (after == "*" && text == "async" && !line))
        | ⟨.finish, _, _⟩ => pure false
        | ⟨_, line, _⟩ => pure (!(line && text == "async"))
      else pure false
    | _ => pure false
  if qualifies then
    match ← take with
    | .name "get" _ => return { kind := .getter }
    | .name "set" _ => return { kind := .setter }
    | _ => return { async := true, generator := ← trySign "*" }
  else return {}

def method (start : List Char) (static : Bool) (key : Expr) (given : Modifiers)
    (around : Surroundings) : Reader Member := do
  let code ← grammar.functionRest
    { kind := .method, async := given.async, generator := given.generator, start } around
  return .method static key given.kind code

def objectMember (around : Surroundings) : Reader Member := do
  if ← trySign "..." then return .spread (← grammar.assignment around)
  let start ← textHere
  let given ← modifiers
  let first ← peek
  let second := (← peekSecond).word
  let key ← grammar.propertyKey around
  if (match key with
      | .hidden _ => true
      | _ => false) then fail
  if given.kind != .value || given.async || given.generator || (← atSign "(") then
    grammar.method start false key given around
  else if ← trySign ":" then
    let value ← grammar.assignment around
    match first with
    | .name "__proto__" _ => return .base value
    | .text text => return if text == "__proto__" then .base value else .field false key value
    | _ => return .field false key value
  else
    match first, second with
    | .name text _, _ =>
      if isName around text then return .field false key (.name text) else fail
    | _, _ => fail

def objectExpression (around : Surroundings) : Reader Expr := do
  sign "\x7b"
  return .object (← listUntil "\x7d" (grammar.objectMember { around with allowIn := true }))

/-! ## Classes -/

/-- Reads the value of a field, as a function that gives it. -/
def fieldCode (around : Surroundings) : Reader CodeNumber := do
  let heading : Heading := { kind := .method }
  if ← trySign "=" then
    let code ← grammar.functionBody heading around [] true
    endOfStatement
    return code
  else
    endOfStatement
    addCode { (default : Code) with kind := .method, strict := true, plain := true }

def isKey (key : Expr) (name : Units) : Bool :=
  match key with
  | .text text => text == name
  | _ => false

/-- Reads a member of a class. The functions that create its objects are the left
alternative. -/
def classMember (derived : Bool) (around : Surroundings) :
    Reader (CodeNumber ⊕ Member) := do
  let static ← do
    if ← atKeyword "static" then
      match (← peekSecond).word with
      | .sign text => pure (["[", "*", "\x7b"].contains text)
      | .finish => pure false
      | _ => pure true
    else pure false
  if static then skip
  if static && (← atSign "\x7b") then
    skip
    let code ← grammar.functionBody { kind := .method } around [] false
    return .inr (.setup true .hole code)
  let start ← textHere
  let given ← modifiers
  let quoted := match ← peek with
    | .sign _ => true
    | _ => false
  let key ← grammar.propertyKey around
  if given.kind != .value || given.async || given.generator || (← atSign "(") then
    if !static && !quoted && isKey key "constructor" then
      if given.kind != .value || given.async || given.generator then fail
      let kind : FunctionKind := if derived then .derivedConstructor else .constructor
      return .inl (← grammar.functionRest { kind } around)
    else return .inr (← grammar.method start static key given around)
  else
    if isKey key "constructor" then fail
    return .inr (.setup static key (← grammar.fieldCode around))

/-- Reads a class, after its first keyword and its name. -/
def classRest (name : Option String) (around : Surroundings) : Reader Expr := do
  let around := { around with strict := true, allowIn := true }
  let base ← if ← tryKeyword "extends" then pure [← grammar.unary around] else pure []
  sign "\x7b"
  let (construct, members) ← repeated (fun (construct, members) => do
    if ← trySign "\x7d" then return .inr (construct, members.reverse)
    else if ← trySign ";" then return .inl (construct, members)
    else
      match ← grammar.classMember (!base.isEmpty) around with
      | .inl code =>
        if (construct : Option CodeNumber).isSome then fail
        return .inl (some code, members)
      | .inr member => return .inl (construct, member :: members)) (none, [])
  return .classOf name base construct members

/-- Reads a class in an expression, after its first keyword. -/
def classExpression (around : Surroundings) : Reader Expr := do
  let around := { around with strict := true }
  let name? ← if (← atSign "\x7b") || (← atKeyword "extends") then pure none
    else pure (some (← declaredName around))
  grammar.classRest name? around

end Grammar

end PageWatch.Script
