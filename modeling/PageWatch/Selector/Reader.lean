import PageWatch.Selector.Counting

/-!
# Reading selectors

A text is a list of selectors between commas, each of them conditions on elements
joined by combinators. Where alternatives are listed, one that cannot be understood
matches nothing and leaves the others alone; everywhere else it spoils the whole.
-/

namespace PageWatch.Selector

/-- What may stand in a selector, which depends on what encloses it. -/
structure Scope where
  /-- Whether a `:has` encloses it, which another one cannot stand in. -/
  insideHas : Bool := false
  /-- Whether it is about one element only. -/
  single : Bool := false
  deriving Repr, Inhabited

/-- What a list of selectors is for. -/
inductive Purpose where
  | plain
  /-- Each stands for itself, and those that are no selectors are left out. -/
  | alternatives
  /-- Each starts out from an element. -/
  | relative
  deriving DecidableEq, Repr, Inhabited

/-- A reader of tokens. What is left of them is known after a fault as well. -/
abbrev Reader := ExceptT Fault (StateM (List Token))

namespace Reader

def skipBlanks : Reader Unit := modify Counting.skipBlanks

def next : Reader Token := do
  match ← get with
  | [] => throw .ended
  | token :: rest =>
    set rest
    return token

def nextSolid : Reader Token := do
  skipBlanks
  next

/-- Fails if tokens that are not blank are left. -/
def finish : Reader Unit := do
  skipBlanks
  match ← get with
  | [] => return
  | token :: rest =>
    set rest
    throw (.unexpected token)

/-- Reads what stands between brackets. -/
def within {α : Type} (body : List Token) (reader : Reader α) : Reader α := do
  match ((do let result ← reader; finish; return result : Reader α).run body).1 with
  | .ok result => return result
  | .error fault => throw fault

end Reader

open Reader

def readCombinator : Reader (Option Combinator) := do
  let tokens ← get
  match Counting.skipBlanks tokens with
  | [] => return none
  | .sign ">" :: rest =>
    set rest
    return some .child
  | .sign "+" :: rest =>
    set rest
    return some .next
  | .sign "~" :: rest =>
    set rest
    return some .later
  | _ =>
    match tokens with
    | .blank :: _ =>
      skipBlanks
      return some .descendant
    | _ => return none

/-- The name of an element as a selector gives it. -/
structure Named where
  /-- The name, unless every element is meant. -/
  tag : Option String
  noSpace : Bool

def readAfterBar (noSpace : Bool) : Reader (Option Named) := do
  match ← get with
  | [] => return none
  | .word name :: rest =>
    set rest
    return some ⟨some name, noSpace⟩
  | .sign "*" :: rest =>
    set rest
    return some ⟨none, noSpace⟩
  | _ => throw .other

/-- Reads the name of an element, if one follows. Vocabularies have no names here. -/
def readNamed : Reader (Option Named) := do
  match ← get with
  | .word _ :: .sign "|" :: _ => throw .other
  | .word name :: rest =>
    set rest
    return some ⟨some name, false⟩
  | .sign "*" :: .sign "|" :: rest =>
    set rest
    readAfterBar false
  | .sign "*" :: rest =>
    set rest
    return some ⟨none, false⟩
  | .sign "|" :: rest =>
    set rest
    readAfterBar true
  | _ => return none

/-- Reads the name of an attribute, and whether it may be in a name space. -/
def readAttributeName : Reader (String × Bool) := do
  let inBar (anySpace : Bool) : Reader (String × Bool) := do
    match ← next with
    | .word name => return (name, anySpace)
    | _ => throw .other
  match ← next with
  | .word name =>
    match ← get with
    | .sign "|" :: _ => throw .other
    | _ => return (name, false)
  | .sign "*" =>
    match ← next with
    | .sign "|" => inBar true
    | _ => throw .other
  | .sign "|" => inBar false
  | _ => throw .other

/-- The comparison that a sign asks for. -/
def comparison? : Token → Option Comparison
  | .sign "=" => some .equal
  | .sign "~=" => some .includes
  | .sign "|=" => some .dashed
  | .sign "^=" => some .beginsWith
  | .sign "$=" => some .endsWith
  | .sign "*=" => some .contains
  | _ => none

def readLetterCase : Reader LetterCase := do
  skipBlanks
  if (← get).isEmpty then return .byName
  match ← next with
  | .word name =>
    if Counting.lower name == "i" then return .ignored
    else if Counting.lower name == "s" then return .counts
    else throw (.unexpected (.word name))
  | token => throw (.unexpected token)

def readAttribute : Reader Simple := do
  skipBlanks
  let (name, anySpace) ← readAttributeName
  skipBlanks
  if (← get).isEmpty then return .hasAttribute name anySpace none
  match comparison? (← next) with
  | none => throw .other
  | some comparison =>
    let value ← match ← nextSolid with
      | .word value => pure value
      | .string value => pure value
      | _ => throw .other
    let letterCase ← readLetterCase
    return .hasAttribute name anySpace (some ⟨comparison, value, letterCase⟩)

/-- The conditions that a name without arguments stands for. -/
def plainCondition? (name : String) : Option (List Simple) :=
  let first (fromEnd ofType : Bool) : Simple := .counted ⟨0, 1, fromEnd, ofType⟩
  match Counting.lower name with
  | "first-child" => some [first false false]
  | "last-child" => some [first true false]
  | "only-child" => some [first false false, first true false]
  | "first-of-type" => some [first false true]
  | "last-of-type" => some [first true true]
  | "only-of-type" => some [first false true, first true true]
  | "root" | "scope" => some [.root]
  | "empty" => some [.empty]
  | _ => none

/-- How the functions that count siblings do so: from the end or not, and only those of
a type or not. -/
def counting? (name : String) : Option (Bool × Bool) :=
  match Counting.lower name with
  | "nth-child" => some (false, false)
  | "nth-last-child" => some (true, false)
  | "nth-of-type" => some (false, true)
  | "nth-last-of-type" => some (true, true)
  | _ => none

def readCounting (fromEnd ofType : Bool) : Reader Simple := do
  match Counting.read (← get) with
  | .ok ((step, offset), rest) =>
    set rest
    return .counted ⟨step, offset, fromEnd, ofType⟩
  | .error fault => throw fault

/-- The tokens up to the next comma, and those after it. -/
def splitComma : List Token → List Token × Option (List Token)
  | [] => ([], none)
  | .sign "," :: rest => ([], some rest)
  | token :: rest =>
    let (first, others) := splitComma rest
    (token :: first, others)

mutual

/-- Reads selectors between commas. The first argument of this function and of those
below bounds the number of steps; the number of characters read is enough. -/
def readList (purpose : Purpose) (scope : Scope) : Nat → Reader (List Complex)
  | 0 => throw .other
  | steps + 1 => do
    let (first, others?) := splitComma (← get)
    set ([] : List Token)
    let selector ←
      match purpose with
      | .alternatives =>
        let (result, rest) := (do
          let selector ← readComplex false scope steps
          finish
          return selector : Reader Complex).run first
        match result with
        | .ok selector => pure selector
        | .error _ =>
          match Token.faultIn? rest with
          | some token => throw (.unexpected token)
          | none => pure .never
      | _ => within first (readComplex (purpose == .relative) scope steps)
    match others? with
    | none => return [selector]
    | some others =>
      set others
      return selector :: (← readList purpose scope steps)

/-- Reads a selector, which may start out from an element. -/
def readComplex (relative : Bool) (scope : Scope) : Nat → Reader Complex
  | 0 => throw .other
  | steps + 1 => do
    skipBlanks
    if relative then
      let combinator ← readCombinator
      readCombined .anchor (combinator.getD .descendant) scope steps
    else
      let conditions ← readCompound scope steps
      readRest (.compound conditions) scope steps

def readCombined (left : Complex) (combinator : Combinator) (scope : Scope) :
    Nat → Reader Complex
  | 0 => throw .other
  | steps + 1 => do
    let conditions ← readCompound scope steps
    readRest (.combined left combinator conditions) scope steps

/-- Reads a combinator and what follows it, as long as there is one. -/
def readRest (left : Complex) (scope : Scope) : Nat → Reader Complex
  | 0 => throw .other
  | steps + 1 => do
    match ← readCombinator with
    | none => return left
    | some combinator =>
      if scope.single then throw .other
      readCombined left combinator scope steps

/-- Reads the conditions on one element, of which there is at least one. -/
def readCompound (scope : Scope) : Nat → Reader (List Simple)
  | 0 => throw .other
  | steps + 1 => do
    skipBlanks
    let named? ← readNamed
    let conditions ← readConditions scope steps
    match named? with
    | none => if conditions.isEmpty then throw .other else return conditions
    | some ⟨tag, noSpace⟩ =>
      return (tag.map Simple.tag).toList ++ (if noSpace then [.noSpace] else []) ++ conditions

def readConditions (scope : Scope) : Nat → Reader (List Simple)
  | 0 => throw .other
  | steps + 1 => do
    match ← get with
    | .hash name true :: rest =>
      set rest
      return .identity name :: (← readConditions scope steps)
    | .sign "." :: rest =>
      set rest
      match ← next with
      | .word name => return .classed name :: (← readConditions scope steps)
      | _ => throw .other
    | .block .square body :: rest =>
      set rest
      let condition ← within body readAttribute
      return condition :: (← readConditions scope steps)
    | .sign ":" :: rest =>
      set rest
      let conditions ← readPseudo scope steps
      return conditions ++ (← readConditions scope steps)
    | _ => return []

def readPseudo (scope : Scope) : Nat → Reader (List Simple)
  | 0 => throw .other
  | steps + 1 => do
    match ← next with
    | .word name =>
      match plainCondition? name with
      | some conditions => return conditions
      | none => throw .other
    | .function name body => return [← within body (readFunction name scope steps)]
    | .sign ":" =>
      match ← next with
      | .word _ | .function _ _ => throw .other
      | token => throw (.unnamed token)
    | token => throw (.unnamed token)

def readFunction (name : String) (scope : Scope) : Nat → Reader Simple
  | 0 => throw .other
  | steps + 1 => do
    match counting? name with
    | some (fromEnd, ofType) => readCounting fromEnd ofType
    | none =>
      match Counting.lower name with
      | "is" | "where" => return .anyOf (← readList .alternatives scope steps)
      | "not" => return .noneOf (← readList .plain scope steps)
      | "has" =>
        if scope.insideHas then throw .other
        return .has (← readList .relative { scope with insideHas := true } steps)
      | "host" =>
        discard <| readComplex false { scope with single := true } steps
        return .never
      | _ => throw .other

end

def parse (text : String) : Except Fault (List Complex) :=
  ((readList .plain {} (8 * (text.length + 2))).run (Token.ofText text)).1

end PageWatch.Selector
