import PageWatch.Script.Lexeme
import PageWatch.Script.Syntax

/-!
# Reading scripts: words and names

A reader takes words from the front of a script and answers what they mean, or says that
they mean nothing. While it reads, it collects the functions of the script and the names
that the function and the block around declare.
-/

namespace PageWatch.Script

open Text

/-- What has been read of a script, and what is left of it. -/
structure Reading where
  words : List Lexeme
  /-- The text after the last word that was taken. -/
  after : List Char
  codes : Array Code
  /-- The names declared for the function around, latest first. -/
  varNames : List String
  /-- The names declared for the block around, latest first. -/
  names : List BlockName
  /-- The functions declared in the block around, latest first. -/
  functions : List (String × CodeNumber)
  /-- The names of functions in inner blocks, which the function around knows as well
  unless it declares them otherwise. -/
  leaking : List String
  deriving Inhabited

/-- A reader of words. There is only one way for it to fail. -/
abbrev Reader := StateT Reading Option

/-- What surrounds the words being read. -/
structure Surroundings where
  inFunction : Bool := false
  generator : Bool := false
  async : Bool := false
  strict : Bool := false
  /-- Whether `in` is an operator here. -/
  allowIn : Bool := true
  superCall : Bool := false
  superMember : Bool := false
  /-- Whether this is the content of a function or a script, in no block. -/
  outermost : Bool := false
  inLoop : Bool := false
  inSwitch : Bool := false
  labels : List String := []
  loopLabels : List String := []
  deriving Inhabited

/-- The readers that refer to each other. Each level of them reads less deeply nested
text than the one above. -/
structure Grammar where
  assignment : Surroundings → Reader Expr
  /-- An expression of operators that bind at least as tightly as a number says. -/
  binary : Nat → Surroundings → Reader Expr
  unary : Surroundings → Reader Expr
  statement : Surroundings → Reader Statement
  /-- A pattern, in a declaration or in an assignment. -/
  pattern : Bool → Surroundings → Reader Pattern

namespace Reader

/-- Words that mean nothing. -/
def fail {α : Type} : Reader α := fun _ => none

def words : Reader (List Lexeme) := do return (← get).words

/-- The next word, which is not taken. -/
def peek : Reader Word := do
  match ← words with
  | [] => return .finish
  | first :: _ => return first.word

/-- The word after the next. -/
def peekSecond : Reader Lexeme := do
  match ← words with
  | _ :: second :: _ => return second
  | _ => return ⟨.finish, true, default⟩

/-- Whether a line ends before the next word. -/
def atNewLine : Reader Bool := do
  match ← words with
  | [] => return true
  | first :: _ => return first.afterLine

def take : Reader Word := do
  match ← words with
  | [] => fail
  | first :: rest =>
    modify fun reading => { reading with words := rest, after := first.spot.rest }
    return first.word

/-- The text from the next word on. -/
def textHere : Reader (List Char) := do
  match ← words with
  | [] => return []
  | first :: _ => return first.spot.text

/-- What was read of a text since it began so. -/
def textSince (start : List Char) : Reader Units := do
  return Units.ofList (start.take (start.length - (← get).after.length))

/-- Leaves out the next word. -/
def skip : Reader Unit := discard take

def atSign (sign : String) : Reader Bool := do
  return (← peek) == .sign sign

def atKeyword (keyword : String) : Reader Bool := do
  return (← peek) == .name keyword false

def trySign (sign : String) : Reader Bool := do
  if ← atSign sign then
    skip
    return true
  else return false

def tryKeyword (keyword : String) : Reader Bool := do
  if ← atKeyword keyword then
    skip
    return true
  else return false

def sign (text : String) : Reader Unit := do
  unless ← trySign text do fail

def keyword (text : String) : Reader Unit := do
  unless ← tryKeyword text do fail

/-- Takes the end of a statement, which a line's end or a brace can stand for. -/
def endOfStatement : Reader Unit := do
  if ← trySign ";" then return
  else if (← atNewLine) || (← atSign "\x7d") || (← peek) == .finish then return
  else fail

/-- Repeats a step until it has a result. The number bounds the repetitions. -/
def repeatUntil {α β : Type} (step : α → Reader (α ⊕ β)) : Nat → α → Reader β
  | 0, _ => fail
  | count + 1, state => do
    match ← step state with
    | .inl state => repeatUntil step count state
    | .inr result => return result

/-- Repeats a step until it has a result. Every repetition takes a word. -/
def repeated {α β : Type} (step : α → Reader (α ⊕ β)) (state : α) : Reader β := do
  repeatUntil step ((← words).length + 1) state

/-- Reads items up to a closing sign, with commas between them. -/
def listUntil {α : Type} (closer : String) (item : Reader α) : Reader (List α) :=
  repeated (fun items => do
    if ← trySign closer then return .inr items.reverse
    let next ← item
    unless ← trySign "," do
      sign closer
      return .inr (next :: items).reverse
    return .inl (next :: items)) []

/-- The words after the bracket that matches the one they begin with. -/
def afterBrackets : Nat → List Lexeme → List Lexeme
  | _, [] => []
  | depth, ⟨word, _, _⟩ :: rest =>
    let opens := match word with
      | .sign text => text == "(" || text == "[" || text == "\x7b"
      | .template _ _ first last => first && !last
      | _ => false
    let closes := match word with
      | .sign text => text == ")" || text == "]" || text == "\x7d"
      | .template _ _ first last => !first && last
      | _ => false
    if opens then afterBrackets (depth + 1) rest
    else if closes then (if depth ≤ 1 then rest else afterBrackets (depth - 1) rest)
    else afterBrackets depth rest

/-- The word after the brackets that come next. -/
def wordAfterBrackets : Reader Lexeme := do
  return ((afterBrackets 0 (← words)).head?).getD ⟨.finish, true, default⟩

/-! ## Names -/

/-- Words that are never names. -/
def keywords : List String :=
  ["break", "case", "catch", "class", "const", "continue", "debugger", "default", "delete",
   "do", "else", "enum", "export", "extends", "false", "finally", "for", "function", "if",
   "import", "in", "instanceof", "new", "null", "return", "super", "switch", "this", "throw",
   "true", "try", "typeof", "var", "void", "while", "with"]

/-- Words that are not names in strict scripts. -/
def strictKeywords : List String :=
  ["implements", "interface", "let", "package", "private", "protected", "public", "static",
   "yield"]

def isName (around : Surroundings) (word : String) : Bool :=
  !keywords.contains word && !(around.strict && strictKeywords.contains word) &&
    !(around.generator && word == "yield") && !(around.async && word == "await")

def name (around : Surroundings) : Reader String := do
  match ← take with
  | .name text _ => if isName around text then return text else fail
  | _ => fail

/-- Reads a name that is declared, which in strict scripts is not one with a meaning. -/
def declaredName (around : Surroundings) : Reader String := do
  let text ← name around
  if around.strict && (text == "eval" || text == "arguments") then fail
  return text

def atName (around : Surroundings) : Reader Bool := do
  match ← peek with
  | .name text _ => return isName around text
  | _ => return false

/-! ## Functions and declarations -/

def addCode (code : Code) : Reader CodeNumber :=
  modifyGet fun reading =>
    (reading.codes.size, { reading with codes := reading.codes.push code })

/-- Declares a name for the function around. -/
def declareVariable (name : String) : Reader Unit :=
  modify fun reading => { reading with varNames := name :: reading.varNames }

/-- Declares a name for the block around. -/
def declareName (name : String) (constant : Bool) : Reader Unit :=
  modify fun reading => { reading with names := ⟨name, constant⟩ :: reading.names }

/-- Declares a function for the block around. -/
def declareFunction (name : String) (code : CodeNumber) : Reader Unit :=
  modify fun reading => { reading with functions := (name, code) :: reading.functions }

def allDifferent : List String → Bool
  | [] => true
  | name :: names => !names.contains name && allDifferent names

/-- Reads a block's content with its own declarations. They are different from each other
and from the names that the content declares for the function around. -/
def withDeclarations {α : Type} (around : Surroundings) (reader : Reader α) :
    Reader (Declarations × α) := do
  let outer ← get
  set { outer with names := [], functions := [], varNames := [] }
  let result ← reader
  let inner ← get
  let names := inner.names.reverse
  let functions := inner.functions.reverse
  let declared := names.map (·.name)
  if !allDifferent declared || declared.any inner.varNames.contains ||
      functions.any (fun (name, _) => declared.contains name) ||
      functions.any (fun (name, _) => inner.varNames.contains name) then fail
  let known := functions.map (·.1)
  set { inner with
    names := outer.names
    functions := outer.functions
    varNames := inner.varNames ++ outer.varNames
    leaking := if around.strict then inner.leaking else known ++ inner.leaking }
  return (⟨names ++ (known.eraseDups.map fun name => ⟨name, false⟩), functions⟩, result)

/-- Reads the content of a function or a script, with the names declared for it. -/
def withVariables {α : Type} (reserved : List String) (reader : Reader α) :
    Reader (List String × Declarations × α) := do
  let outer ← get
  set { outer with names := [], functions := [], varNames := [], leaking := [] }
  let result ← reader
  let inner ← get
  let names := inner.names.reverse
  let functions := inner.functions.reverse
  let declared := names.map (·.name)
  if !allDifferent declared || declared.any inner.varNames.contains ||
      declared.any reserved.contains ||
      functions.any (fun (name, _) => declared.contains name) then fail
  set { inner with
    names := outer.names
    functions := outer.functions
    varNames := outer.varNames
    leaking := outer.leaking }
  let leaking := inner.leaking.filter fun name => !declared.contains name
  let varNames := (functions.map (·.1) ++ inner.varNames.reverse ++ leaking).eraseDups
  return (varNames, ⟨names, functions⟩, result)

end Reader

mutual

/-- The names that a pattern gives values to. -/
def Pattern.names : Pattern → List String
  | .target (.name name) => [name]
  | .target _ | .skip => []
  | .array items => Pattern.namesOfAll items
  | .object members => Pattern.namesOfAll members
  | .orElse pattern _ => pattern.names
  | .rest pattern => pattern.names
  | .member _ pattern => pattern.names

/-- The names that several patterns give values to. -/
def Pattern.namesOfAll : List Pattern → List String
  | [] => []
  | pattern :: patterns => pattern.names ++ Pattern.namesOfAll patterns

end

end PageWatch.Script
