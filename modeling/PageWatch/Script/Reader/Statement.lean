import PageWatch.Script.Reader.Expression

/-!
# Reading statements and whole scripts
-/

namespace PageWatch.Script

open Text Reader

namespace Grammar

variable (grammar : Grammar)

/-- Reads a block, after its brace, as a statement with the names that it declares. -/
def blockRest (around : Surroundings) : Reader Statement := do
  let around := { around with outermost := false }
  let (declarations, body) ← withDeclarations around (grammar.statementsToBrace around)
  return .block declarations body

def block (around : Surroundings) : Reader Statement := do
  sign "\x7b"
  grammar.blockRest around

/-- Reads a statement inside another one, which is no declaration. -/
def inner (around : Surroundings) : Reader Statement := do
  match ← peek with
  | .name "const" false | .name "class" false => fail
  | .name "function" false =>
    if around.strict then fail
    let (declarations, body) ← withDeclarations around
      (grammar.statement { around with outermost := false })
    return .block declarations [body]
  | .name "let" false =>
    let second ← peekSecond
    match second.word with
    | .sign text => if text == "[" || (text == "\x7b" && !second.afterLine) then fail
    | .name text _ => if isName around text && !second.afterLine then fail
    | _ => pure ()
    grammar.statement { around with outermost := false }
  | _ => grammar.statement { around with outermost := false }

def declarePattern (kind : DeclarationKind) (pattern : Pattern) : Reader Unit := do
  for name in pattern.names do
    match kind with
    | .function => declareVariable name
    | .block => declareName name false
    | .constant => declareName name true

def blockNames (kind : DeclarationKind) (pattern : Pattern) : List BlockName :=
  match kind with
  | .function => []
  | .block => pattern.names.map fun name => ⟨name, false⟩
  | .constant => pattern.names.map fun name => ⟨name, true⟩

def declaredPattern (kind : DeclarationKind) (around : Surroundings) : Reader Pattern := do
  let pattern ← grammar.patternPlace true around
  if kind != .function && pattern.names.contains "let" then fail
  return pattern

/-- Reads declarators, the pattern of the first of which has been read. -/
def declarators (kind : DeclarationKind) (around : Surroundings) (first : Pattern) :
    Reader (List (Pattern × Option Expr)) := do
  let finishOne (pattern : Pattern) : Reader (Pattern × Option Expr) := do
    declarePattern kind pattern
    if ← trySign "=" then return (pattern, some (← grammar.assignment around))
    else if kind == .constant || !isPlainName pattern then fail
    else return (pattern, none)
  let start ← finishOne first
  repeated (fun declarators => do
    if ← trySign "," then
      let next ← finishOne (← grammar.declaredPattern kind around)
      return .inl (next :: declarators)
    else return .inr declarators.reverse) [start]

/-- The kind of declaration that comes next, if one does. -/
def declarationKind? (around : Surroundings) : Reader (Option DeclarationKind) := do
  match ← peek with
  | .name "var" false => return some .function
  | .name "const" false => return some .constant
  | .name "let" false =>
    match (← peekSecond).word with
    | .sign text => return if text == "[" || text == "\x7b" then some .block else none
    | .name text _ =>
      return if isName around text || text == "yield" || text == "await" then some .block
        else none
    | _ => return none
  | _ => return none

/-- Reads a loop over the keys of an object or over its values, from its source on. -/
def loopOverRest (declares : Option DeclarationKind) (target : Pattern)
    (around : Surroundings) : Reader Statement := do
  let overValues ← tryKeyword "of"
  unless overValues do keyword "in"
  let source ← if overValues then grammar.assignment { around with allowIn := true }
    else grammar.expression { around with allowIn := true }
  sign ")"
  let names := match declares with
    | some kind => blockNames kind target
    | none => []
  if !allDifferent (names.map (·.name)) then fail
  let before := (← get).varNames.length
  let body ← grammar.inner { around with inLoop := true }
  let varNames := (← get).varNames
  let inside := varNames.take (varNames.length - before)
  if names.any fun name => inside.contains name.name then fail
  return .loopOver overValues declares names target source body

/-- Reads a loop with a condition, from its condition on. -/
def loopRest (names : List BlockName) (perRound : List String) (setup : Statement)
    (around : Surroundings) : Reader Statement := do
  let around := { around with allowIn := true }
  sign ";"
  let condition ← if ← atSign ";" then pure none
    else pure (some (← grammar.expression around))
  sign ";"
  let update ← if ← atSign ")" then pure none
    else pure (some (← grammar.expression around))
  sign ")"
  let before := (← get).varNames.length
  let body ← grammar.inner { around with inLoop := true }
  let varNames := (← get).varNames
  let inside := varNames.take (varNames.length - before)
  if names.any fun name => inside.contains name.name then fail
  return .loop names setup perRound condition update body

/-- Whether a loop's heading goes over keys or values from here on. -/
def atLoopSource : Reader Bool := do
  return (← atKeyword "of") || (← atKeyword "in")

def forLoop (around : Surroundings) : Reader Statement := do
  let awaits ← if around.async then tryKeyword "await" else pure false
  sign "("
  let head := { around with allowIn := false }
  let loop ← match ← declarationKind? head with
    | some kind =>
      skip
      let pattern ← grammar.declaredPattern kind head
      if ← atLoopSource then
        if kind == .function then declarePattern kind pattern
        grammar.loopOverRest (some kind) pattern around
      else
        let outer ← get
        let declarators ← grammar.declarators kind head pattern
        let inner ← get
        let setup : Statement := .declare kind declarators
        if kind == .function then grammar.loopRest [] [] setup around
        else
          let names := (inner.names.take (inner.names.length - outer.names.length)).reverse
          if !allDifferent (names.map (·.name)) then fail
          modify fun reading => { reading with names := outer.names }
          let perRound := if kind == .constant then [] else names.map (·.name)
          grammar.loopRest names perRound setup around
    | none =>
      if ← atSign ";" then grammar.loopRest [] [] .empty around
      else
        let taken ← do
          if (← atSign "[") || (← atSign "\x7b") then
            match (← wordAfterBrackets).word with
            | .name text false => pure (text == "of" || text == "in")
            | _ => pure false
          else pure false
        if taken then
          grammar.loopOverRest none (← grammar.pattern false head) around
        else
          let value ← grammar.expression head
          if ← atLoopSource then
            if !isPlace around value then fail
            grammar.loopOverRest none (.target value) around
          else grammar.loopRest [] [] (.expression value) around
  if awaits then return .block default [.expression (.await .undefined), loop]
  else return loop

/-- Reads a statement that tries another, after its keyword. -/
def attempt (around : Surroundings) : Reader Statement := do
  let body ← grammar.block around
  let handler ← if ← tryKeyword "catch" then
      let parameter ← if ← trySign "(" then
          let pattern ← grammar.patternPlace true around
          sign ")"
          pure (some pattern)
        else pure none
      let names := (parameter.map Pattern.names).getD []
      if !allDifferent names then fail
      let block ← grammar.block around
      match block with
      | .block declarations _ =>
        if declarations.names.any fun name => names.contains name.name then fail
      | _ => pure ()
      pure (some (names, parameter, block))
    else pure none
  let finalizer ← if ← tryKeyword "finally" then pure (some (← grammar.block around))
    else pure none
  if handler.isNone && finalizer.isNone then fail
  return .attempt body handler finalizer

/-- The cases and the statements of a choice. -/
structure CaseList where
  cases : List (Option Expr × Nat) := []
  body : List Statement := []

def caseList (around : Surroundings) : Reader CaseList :=
  repeated (fun (found : CaseList) => do
    if ← trySign "\x7d" then
      return .inr ({ cases := found.cases.reverse, body := found.body.reverse } : CaseList)
    else if ← tryKeyword "case" then
      let value ← grammar.expression around
      sign ":"
      return .inl { found with cases := (some value, found.body.length) :: found.cases }
    else if ← tryKeyword "default" then
      sign ":"
      if found.cases.any (·.1.isNone) then fail
      return .inl { found with cases := (none, found.body.length) :: found.cases }
    else
      if found.cases.isEmpty then fail
      return .inl { found with body := (← grammar.statement around) :: found.body }) {}

/-- Reads a choice between cases, after its keyword. -/
def switchRest (around : Surroundings) : Reader Statement := do
  sign "("
  let subject ← grammar.expression { around with allowIn := true }
  sign ")"
  sign "\x7b"
  let inside := { around with inSwitch := true, outermost := false, allowIn := true }
  let (declarations, found) ← withDeclarations around (grammar.caseList inside)
  return .switch subject declarations found.cases found.body

/-- Reads a function that is declared, after its first keyword. -/
def functionDeclaration (start : List Char) (async : Bool) (around : Surroundings) :
    Reader Statement := do
  let generator ← trySign "*"
  let own ← declaredName around
  let code ← grammar.functionRest { name := some own, async, generator, start } around
  declareFunction own code
  return if around.outermost then .empty else .function own

/-- Reads where a jump leads, and whether there is such a place. -/
def jump (places : List String) (inside : Bool) (around : Surroundings) :
    Reader (Option String) := do
  let label? ← if !(← atNewLine) && (← atName around) then pure (some (← name around))
    else pure none
  endOfStatement
  match label? with
  | some label => if places.contains label then return label else fail
  | none => if inside then return none else fail

/-- Reads a statement with a label, after its colon. -/
def labeledRest (label : String) (around : Surroundings) : Reader Statement := do
  if around.labels.contains label then fail
  let beforeLoop ← do
    match ← peek with
    | .name text false => pure (["for", "while", "do"].contains text)
    | .name _ true => pure false
    | _ => pure false
  let around := { around with
    labels := label :: around.labels
    loopLabels := if beforeLoop then label :: around.loopLabels else around.loopLabels }
  return .labeled label (← grammar.inner around)

/-- Reads a statement that begins with a keyword, which has been taken. -/
def keywordStatement (start : List Char) (word : String) (around : Surroundings) :
    Reader Statement := do
  let whole : Reader Expr := grammar.expression { around with allowIn := true }
  match word with
  | "if" =>
    sign "("
    let condition ← whole
    sign ")"
    let yes ← grammar.inner around
    let no ← if ← tryKeyword "else" then grammar.inner around else pure .empty
    return .branch condition yes no
  | "for" => grammar.forLoop around
  | "while" =>
    sign "("
    let condition ← whole
    sign ")"
    return .loopWhile condition (← grammar.inner { around with inLoop := true })
  | "do" =>
    let body ← grammar.inner { around with inLoop := true }
    keyword "while"
    sign "("
    let condition ← whole
    sign ")"
    discard <| trySign ";"
    return .loopUntil body condition
  | "return" =>
    if !around.inFunction then fail
    if (← atSign ";") || (← atSign "\x7d") || (← atNewLine) || (← peek) == .finish then
      endOfStatement
      return .return .undefined
    else
      let value ← whole
      endOfStatement
      return .return value
  | "throw" =>
    if ← atNewLine then fail
    let value ← whole
    endOfStatement
    return .throw value
  | "break" =>
    return .break (← jump around.labels (around.inLoop || around.inSwitch) around)
  | "continue" => return .continue (← jump around.loopLabels around.inLoop around)
  | "try" => grammar.attempt around
  | "switch" => grammar.switchRest around
  | "function" => grammar.functionDeclaration start false around
  | "class" =>
    let name ← declaredName { around with strict := true }
    declareName name false
    return .classOf name (← grammar.classRest (some name) around)
  | "debugger" =>
    endOfStatement
    return .empty
  | _ => fail

def statementKeywords : List String :=
  ["if", "for", "while", "do", "return", "throw", "break", "continue", "try", "switch",
   "function", "class", "debugger"]

def anyStatement (around : Surroundings) : Reader Statement := do
  match ← declarationKind? around with
  | some kind =>
    skip
    let around := { around with allowIn := true }
    let first ← grammar.declaredPattern kind around
    let declarators ← grammar.declarators kind around first
    endOfStatement
    return .declare kind declarators
  | none =>
    let word ← peek
    let second ← peekSecond
    let start ← textHere
    match word with
    | .sign "\x7b" => grammar.block around
    | .sign ";" =>
      skip
      return .empty
    | .name text escaped =>
      if !escaped && statementKeywords.contains text then
        skip
        grammar.keywordStatement start text around
      else if !escaped && text == "async" && second.word == .name "function" false &&
          !second.afterLine then
        skip
        skip
        grammar.functionDeclaration start true around
      else if second.word == .sign ":" && isName around text then
        skip
        skip
        grammar.labeledRest text around
      else
        let value ← grammar.expression { around with allowIn := true }
        endOfStatement
        return .expression value
    | _ =>
      let value ← grammar.expression { around with allowIn := true }
      endOfStatement
      return .expression value

end Grammar

/-- The readers for text nested at most so deeply. -/
def grammar : Nat → Grammar
  | 0 =>
    { assignment := fun _ => fail
      binary := fun _ _ => fail
      unary := fun _ => fail
      statement := fun _ => fail
      pattern := fun _ _ => fail }
  | depth + 1 =>
    { assignment := fun around => (grammar depth).assignmentExpression around
      binary := fun least around => (grammar depth).binaryExpression least around
      unary := fun around => (grammar depth).unaryExpression around
      statement := fun around => (grammar depth).anyStatement around
      pattern := fun binding around => (grammar depth).bracketPattern binding around }

def readScript (depth : Nat) : Reader Program := do
  let strict := Grammar.startsStrict (← words)
  let around : Surroundings := { strict, outermost := true }
  let (varNames, declarations, body) ← withVariables [] (repeated (fun statements => do
    if (← peek) == .finish then return .inr statements.reverse
    return .inl ((← (grammar depth).statement around) :: statements)) [])
  return { strict, codes := (← get).codes, varNames, declarations, body }

/-- The script that a text is, whose functions come after others, or nothing if it is
none. -/
def Program.after? (codes : Array Code) (text : String) : Option Program := do
  let words ← Lexeme.ofText text
  let start : Reading := ⟨words, [], codes, [], [], [], []⟩
  let (program, _) ← (readScript (8 * words.length + 8)).run start
  return program

/-- The script that a text is, or nothing if it is none. -/
def Program.ofText? (text : String) : Option Program := Program.after? #[] text

end PageWatch.Script
