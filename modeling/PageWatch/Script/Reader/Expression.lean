import PageWatch.Regex.Reader
import PageWatch.Script.Reader.Function

/-!
# Reading expressions
-/

namespace PageWatch.Script

open Text Reader

namespace Grammar

variable (grammar : Grammar)

/-- The operators between two values, with how tightly they bind. -/
def operator? (around : Surroundings) : Word → Option (Nat × (BinaryOp ⊕ LogicalOp))
  | .sign text =>
    match text with
    | "??" => some (1, .inr .coalesce)
    | "||" => some (1, .inr .or)
    | "&&" => some (2, .inr .and)
    | "|" => some (3, .inl .bitOr)
    | "^" => some (4, .inl .bitXor)
    | "&" => some (5, .inl .bitAnd)
    | "==" => some (6, .inl .looseEqual)
    | "!=" => some (6, .inl .looseUnequal)
    | "===" => some (6, .inl .equal)
    | "!==" => some (6, .inl .unequal)
    | "<" => some (7, .inl .less)
    | ">" => some (7, .inl .greater)
    | "<=" => some (7, .inl .lessOrEqual)
    | ">=" => some (7, .inl .greaterOrEqual)
    | "<<" => some (8, .inl .shiftLeft)
    | ">>" => some (8, .inl .shiftRight)
    | ">>>" => some (8, .inl .shiftRightUnsigned)
    | "+" => some (9, .inl .add)
    | "-" => some (9, .inl .subtract)
    | "*" => some (10, .inl .multiply)
    | "/" => some (10, .inl .divide)
    | "%" => some (10, .inl .remainder)
    | "**" => some (11, .inl .power)
    | _ => none
  | .name "instanceof" false => some (7, .inl .instanceOf)
  | .name "in" false => if around.allowIn then some (7, .inl .isIn) else none
  | _ => none

/-- The operation of an assignment sign. -/
def assignment? : Word → Option (BinaryOp ⊕ LogicalOp)
  | .sign text =>
    match text with
    | "+=" => some (.inl .add)
    | "-=" => some (.inl .subtract)
    | "*=" => some (.inl .multiply)
    | "/=" => some (.inl .divide)
    | "%=" => some (.inl .remainder)
    | "**=" => some (.inl .power)
    | "<<=" => some (.inl .shiftLeft)
    | ">>=" => some (.inl .shiftRight)
    | ">>>=" => some (.inl .shiftRightUnsigned)
    | "&=" => some (.inl .bitAnd)
    | "|=" => some (.inl .bitOr)
    | "^=" => some (.inl .bitXor)
    | "&&=" => some (.inr .and)
    | "||=" => some (.inr .or)
    | "??=" => some (.inr .coalesce)
    | _ => none
  | _ => none

def expression (around : Surroundings) : Reader Expr := do
  let first ← grammar.assignment around
  repeated (fun left => do
    if ← trySign "," then return .inl (.sequence left (← grammar.assignment around))
    else return .inr left) first

def items (closer : String) (holes : Bool) (around : Surroundings) : Reader (List Expr) :=
  repeated (fun items => do
    if ← trySign closer then return .inr items.reverse
    else if holes && (← trySign ",") then return .inl (.hole :: items)
    else
      let item ← if ← trySign "..." then pure (.spread (← grammar.assignment around))
        else grammar.assignment around
      unless ← trySign "," do
        sign closer
        return .inr (item :: items).reverse
      return .inl (item :: items)) []

def arguments (around : Surroundings) : Reader (List Expr) :=
  grammar.items ")" false { around with allowIn := true }

/-- The texts and the values of a template. -/
structure TemplateParts where
  cooked : List (Option Units)
  raw : List Units
  values : List Expr

def templateParts (around : Surroundings) : Reader TemplateParts := do
  match ← take with
  | .template cooked raw true last =>
    if last then return ⟨[cooked], [raw], []⟩
    else
      let parts : TemplateParts := ⟨[cooked], [raw], []⟩
      repeated (fun parts => do
        let value ← grammar.expression { around with allowIn := true }
        match ← take with
        | .template cooked raw false last =>
          let parts : TemplateParts :=
            ⟨cooked :: parts.cooked, raw :: parts.raw, value :: parts.values⟩
          if last then
            return .inr ⟨parts.cooked.reverse, parts.raw.reverse, parts.values.reverse⟩
          else return .inl parts
        | _ => fail) parts
  | _ => fail

def primary (around : Surroundings) : Reader Expr := do
  match ← peek with
  | .number value =>
    skip
    return .number value
  | .whole value =>
    skip
    return .whole value
  | .text value =>
    skip
    return .text value
  | .regular body flags =>
    skip
    let source := Units.ofString body
    match (Regex.Flags.read? flags.toList).bind (Regex.Rule.read? source) with
    | some rule => return .regular source rule
    | none => fail
  | .template _ _ _ _ =>
    let parts ← grammar.templateParts around
    match parts.cooked.mapM id with
    | some texts => return .template texts parts.values
    | none => fail
  | .hiddenName text =>
    skip
    if !around.allowIn then fail
    keyword "in"
    return .hasHidden text (← grammar.binary 8 around)
  | .sign "(" =>
    skip
    let inner ← grammar.expression { around with allowIn := true }
    sign ")"
    return inner
  | .sign "[" =>
    skip
    return .array (← grammar.items "]" true { around with allowIn := true })
  | .sign "\x7b" => grammar.objectExpression around
  | .name "function" false =>
    let start ← textHere
    skip
    grammar.functionExpression start false around
  | .name "class" false =>
    skip
    grammar.classExpression around
  | .name "this" false =>
    skip
    return .this
  | .name "null" false =>
    skip
    return .null
  | .name "true" false =>
    skip
    return .boolean true
  | .name "false" false =>
    skip
    return .boolean false
  | .name "async" false =>
    let second ← peekSecond
    if second.word == .name "function" false && !second.afterLine then
      let start ← textHere
      skip
      skip
      grammar.functionExpression start true around
    else return .name (← name around)
  | .name _ _ => return .name (← name around)
  | _ => fail

/-- Reads what follows `super`. -/
def superRest (around : Surroundings) : Reader Expr := do
  if ← trySign "(" then
    if !around.superCall then fail
    return .superCall (← grammar.arguments around)
  else
    if !around.superMember then fail
    if ← trySign "." then
      match ← take with
      | .name text _ => return .superMember (.text text)
      | _ => fail
    else
      sign "["
      let key ← grammar.expression { around with allowIn := true }
      sign "]"
      return .superMember key

/-- Reads the name of a member after a dot. -/
def memberName : Reader Expr := do
  match ← take with
  | .name text _ => return .text text
  | .hiddenName text => return .hidden text
  | _ => fail

/-- An expression with links behind it, and whether one of them is optional. -/
structure Linked where
  value : Expr
  optional : Bool

def Linked.finish (linked : Linked) : Expr :=
  if linked.optional then .chain linked.value else linked.value

/-- Reads the links behind an expression: members, and calls if they are allowed. -/
def links (calls : Bool) (around : Surroundings) (start : Expr) : Reader Expr :=
  repeated (fun (linked : Linked) => do
    match ← peek with
    | .sign "." =>
      skip
      return .inl { linked with value := .member linked.value (← memberName) false }
    | .sign "[" =>
      skip
      let key ← grammar.expression { around with allowIn := true }
      sign "]"
      return .inl { linked with value := .member linked.value key false }
    | .sign "(" =>
      if calls then
        skip
        return .inl { linked with value := .call linked.value (← grammar.arguments around) false }
      else return .inr linked.finish
    | .template _ _ true _ =>
      if linked.optional then fail
      let parts ← grammar.templateParts around
      return .inl
        { linked with value := .tagged linked.value parts.cooked parts.raw parts.values }
    | .sign "?." =>
      if !calls then fail
      skip
      if ← trySign "(" then
        return .inl ⟨.call linked.value (← grammar.arguments around) true, true⟩
      else if ← trySign "[" then
        let key ← grammar.expression { around with allowIn := true }
        sign "]"
        return .inl ⟨.member linked.value key true, true⟩
      else return .inl ⟨.member linked.value (← memberName) true, true⟩
    | _ => return .inr linked.finish) (⟨start, false⟩ : Linked)

/-- Reads what follows `new`, once for each of several in a row. -/
def creation (around : Surroundings) : Reader Expr := do
  if ← trySign "." then
    keyword "target"
    if !around.inFunction then fail
    return .newTarget
  else
    let callee ← if ← atKeyword "new" then grammar.unary around
      else if ← tryKeyword "super" then grammar.superRest around
      else grammar.primary around
    let callee ← grammar.links false around callee
    if ← trySign "(" then return .create callee (← grammar.arguments around)
    else return .create callee []

def linked (around : Surroundings) : Reader Expr := do
  let start ← if ← tryKeyword "new" then grammar.creation around
    else if ← tryKeyword "super" then grammar.superRest around
    else grammar.primary around
  grammar.links true around start

/-- The operators before a value. -/
def unaryOperator? : Word → Option UnaryOp
  | .sign "-" => some .minus
  | .sign "+" => some .plus
  | .sign "!" => some .not
  | .sign "~" => some .complement
  | .name "typeof" false => some .typeOf
  | .name "void" false => some .void
  | .name "delete" false => some .delete
  | _ => none

/-- Reads an expression with the operators before and behind it. -/
def unaryExpression (around : Surroundings) : Reader Expr := do
  let word ← peek
  match unaryOperator? word with
  | some op =>
    skip
    let operand ← grammar.unary around
    if ← atSign "**" then fail
    if around.strict && op == .delete then
      match operand with
      | .name _ => fail
      | _ => pure ()
    return .unary op operand
  | none =>
    if word == .sign "++" || word == .sign "--" then
      skip
      let target ← grammar.unary around
      if !isPlace around target then fail
      return .update (word == .sign "++") true target
    else if around.async && word == .name "await" false then
      skip
      let operand ← grammar.unary around
      if ← atSign "**" then fail
      return .await operand
    else
      let value ← grammar.linked around
      if ← atNewLine then return value
      let after ← peek
      if after == .sign "++" || after == .sign "--" then
        skip
        if !isPlace around value then fail
        return .update (after == .sign "++") false value
      else return value

/-- Reads operators that bind at least as tightly as `least`, and their operands. -/
def binaryExpression (least : Nat) (around : Surroundings) : Reader Expr := do
  let first ← grammar.unary around
  repeated (fun left => do
    match operator? around (← peek) with
    | none => return .inr left
    | some (strength, op) =>
      if strength < least then return .inr left
      skip
      let right ← grammar.binary
        (if op matches .inl .power then strength else strength + 1) around
      return .inl (match op with
        | .inl op => .binary op left right
        | .inr op => .logical op left right)) first

def conditionalExpression (around : Surroundings) : Reader Expr := do
  let condition ← grammar.binary 1 around
  if ← trySign "?" then
    let yes ← grammar.assignment { around with allowIn := true }
    sign ":"
    return .conditional condition yes (← grammar.assignment around)
  else return condition

/-- Reads `yield` and its value. -/
def yieldExpression (around : Surroundings) : Reader Expr := do
  keyword "yield"
  if ← atNewLine then return .yield .undefined
  if ← trySign "*" then return .yieldAll (← grammar.assignment around)
  match ← peek with
  | .finish => return .yield .undefined
  | .name "in" false | .name "of" false => return .yield .undefined
  | .template _ _ false _ => return .yield .undefined
  | .sign text =>
    if [")", "]", "\x7d", ",", ";", ":"].contains text then return .yield .undefined
    else return .yield (← grammar.assignment around)
  | _ => return .yield (← grammar.assignment around)

def assignmentExpression (around : Surroundings) : Reader Expr := do
  if around.generator && (← atKeyword "yield") then grammar.yieldExpression around
  else
    match ← grammar.arrowFunction? around with
    | some function => return function
    | none =>
      let taken ← do
        if (← atSign "[") || (← atSign "\x7b") then
          pure ((← wordAfterBrackets).word == .sign "=")
        else pure false
      if taken then
        let pattern ← grammar.pattern false around
        sign "="
        return .assign pattern (← grammar.assignment around)
      else
        let target ← grammar.conditionalExpression around
        if ← atSign "=" then
          skip
          if !isPlace around target then fail
          return .assign (.target target) (← grammar.assignment around)
        else
          match assignment? (← peek) with
          | none => return target
          | some op =>
            skip
            if !isPlace around target then fail
            let value ← grammar.assignment around
            match op with
            | .inl op => return .assignWith op target value
            | .inr op => return .assignUnless op target value

end Grammar

end PageWatch.Script
