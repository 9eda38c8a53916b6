import PageWatch.Regex.Basic
import PageWatch.Text.Units

/-!
# Scripts

The structure of scripts: expressions, the patterns that values are taken apart by,
statements and functions. What a function or a block declares is kept with it, since its
names are known before any of its statements runs. Functions are known by their numbers
in the script, so that expressions do not contain statements.
-/

namespace PageWatch.Script

open Text

/-- Operators on one value. -/
inductive UnaryOp where
  | minus | plus | not | complement | typeOf | void | delete
  deriving DecidableEq, Repr, Inhabited

/-- Operators on two values. -/
inductive BinaryOp where
  | add | subtract | multiply | divide | remainder | power
  | shiftLeft | shiftRight | shiftRightUnsigned
  | bitAnd | bitOr | bitXor
  | looseEqual | looseUnequal | equal | unequal
  | less | greater | lessOrEqual | greaterOrEqual
  | instanceOf | isIn
  deriving DecidableEq, Repr, Inhabited

/-- Operators that may leave out their second operand. -/
inductive LogicalOp where
  | and | or | coalesce
  deriving DecidableEq, Repr, Inhabited

/-- How a name is declared. -/
inductive DeclarationKind where
  /-- For the whole function. -/
  | function
  /-- For the block. -/
  | block
  /-- For the block, and never assigned to again. -/
  | constant
  deriving DecidableEq, Repr, Inhabited

/-- What a function can be used for. -/
inductive FunctionKind where
  | normal
  /-- It has no `this` of its own. -/
  | arrow
  /-- It belongs to an object or a class and creates no objects. -/
  | method
  /-- It creates the objects of a class. -/
  | constructor
  /-- It creates the objects of a class that extends another. -/
  | derivedConstructor
  deriving DecidableEq, Repr, Inhabited

/-- The number of a function in a script. -/
abbrev CodeNumber := Nat

/-- What a member of an object or a class does. -/
inductive MemberKind where
  | value | getter | setter
  deriving DecidableEq, Repr, Inhabited

mutual

/-- What has a value. The last few stand only where lists of arguments, items of arrays
or names of properties are expected. -/
inductive Expr where
  | undefined
  | null
  | boolean (value : Bool)
  | number (value : Float)
  | whole (value : Int)
  | text (value : Units)
  /-- A regular expression, with what is written of it. -/
  | regular (source : Units) (rule : Regex.Rule)
  /-- Texts with values between them. -/
  | template (texts : List Units) (values : List Expr)
  | tagged (tag : Expr) (cooked : List (Option Units)) (raw : List Units)
      (values : List Expr)
  | name (name : String)
  | this
  | newTarget
  | array (items : List Expr)
  | object (members : List Member)
  | function (code : CodeNumber)
  /-- A class. It extends the only one of its bases, if it has one. -/
  | classOf (name : Option String) (base : List Expr) (construct : Option CodeNumber)
      (members : List Member)
  | unary (op : UnaryOp) (operand : Expr)
  /-- Adds or subtracts one. The value is the new one if this happens `early`. -/
  | update (increment early : Bool) (target : Expr)
  | binary (op : BinaryOp) (left right : Expr)
  | logical (op : LogicalOp) (left right : Expr)
  | conditional (condition yes no : Expr)
  | sequence (first second : Expr)
  | assign (target : Pattern) (value : Expr)
  | assignWith (op : BinaryOp) (target value : Expr)
  | assignUnless (op : LogicalOp) (target value : Expr)
  /-- A property. If it is optional, it is not looked for in nothing. -/
  | member (object key : Expr) (optional : Bool)
  | superMember (key : Expr)
  | superCall (arguments : List Expr)
  | call (callee : Expr) (arguments : List Expr) (optional : Bool)
  | create (callee : Expr) (arguments : List Expr)
  /-- A chain with optional links, which ends at the first of them that leads nowhere. -/
  | chain (inner : Expr)
  | yield (value : Expr)
  | yieldAll (value : Expr)
  | await (value : Expr)
  /-- Whether an object has a hidden member. -/
  | hasHidden (name : String) (object : Expr)
  /-- The name of a hidden member, as a key. -/
  | hidden (name : String)
  /-- No item. -/
  | hole
  /-- All values of something that can be iterated. -/
  | spread (values : Expr)

/-- A member of an object or a class. -/
inductive Member where
  | field (static : Bool) (key value : Expr)
  | method (static : Bool) (key : Expr) (kind : MemberKind) (code : CodeNumber)
  /-- All members of another object. -/
  | spread (source : Expr)
  /-- The object from which members are inherited. -/
  | base (value : Expr)
  /-- What a class does when it is defined, or what sets up a field of its objects. -/
  | setup (static : Bool) (key : Expr) (code : CodeNumber)

/-- Where a value goes, or its parts. -/
inductive Pattern where
  | target (place : Expr)
  | array (items : List Pattern)
  | object (members : List Pattern)
  /-- Takes another value if there is none. -/
  | orElse (pattern : Pattern) (other : Expr)
  /-- In an array, nothing is taken. -/
  | skip
  /-- In an array or an object, all that is left is taken. -/
  | rest (pattern : Pattern)
  /-- In an object, the property of a name is taken. -/
  | member (key : Expr) (pattern : Pattern)

end

instance : Inhabited Expr := ⟨.undefined⟩
instance : Inhabited Member := ⟨.base .undefined⟩
instance : Inhabited Pattern := ⟨.skip⟩

/-- A name of a block. -/
structure BlockName where
  name : String
  constant : Bool
  deriving DecidableEq, Repr, Inhabited

/-- What a block declares for itself: its names, and the functions among them, which
have their values from the start. -/
structure Declarations where
  names : List BlockName
  functions : List (String × CodeNumber)
  deriving Repr, Inhabited

/-- What is done. -/
inductive Statement where
  | empty
  | expression (value : Expr)
  | declare (kind : DeclarationKind) (declarators : List (Pattern × Option Expr))
  /-- A function that the block around it declares. -/
  | function (name : String)
  | classOf (name : String) (value : Expr)
  | block (declarations : Declarations) (body : List Statement)
  | branch (condition : Expr) (yes no : Statement)
  /-- A loop with names of its own, each round of which has its own copies of some. -/
  | loop (names : List BlockName) (setup : Statement) (perRound : List String)
      (condition : Option Expr) (update : Option Expr) (body : Statement)
  | loopWhile (condition : Expr) (body : Statement)
  | loopUntil (body : Statement) (condition : Expr)
  /-- A loop over the keys of an object, or over its values. -/
  | loopOver (overValues : Bool) (declares : Option DeclarationKind) (names : List BlockName)
      (target : Pattern) (source : Expr) (body : Statement)
  | return (value : Expr)
  | throw (value : Expr)
  | break (label : Option String)
  | continue (label : Option String)
  /-- The handler, with its parameter and the names in it, runs if the body fails; the
  finalizer runs in any case. -/
  | attempt (body : Statement) (handler : Option (List String × Option Pattern × Statement))
      (finalizer : Option Statement)
  /-- The body runs from the first case on that equals the subject, or from the default.
  A case is its value and the number of statements before it. -/
  | switch (subject : Expr) (declarations : Declarations) (cases : List (Option Expr × Nat))
      (body : List Statement)
  | labeled (label : String) (body : Statement)

instance : Inhabited Statement := ⟨.empty⟩

/-- A function: what it declares, how it is called and what it does. -/
structure Code where
  name : Option Units
  /-- What is written in the script, if that is kept. -/
  source : Option Units
  /-- The name by which it knows itself. -/
  ownName : Option String
  kind : FunctionKind
  async : Bool
  generator : Bool
  strict : Bool
  parameters : List Pattern
  parameterNames : List String
  /-- Whether every parameter is a name. -/
  plain : Bool
  /-- How many arguments are expected. -/
  length : Nat
  /-- The names declared for the whole function. -/
  varNames : List String
  declarations : Declarations
  body : List Statement
  deriving Inhabited

/-- A whole script. -/
structure Program where
  strict : Bool
  codes : Array Code
  /-- The names declared for all scripts. -/
  varNames : List String
  declarations : Declarations
  body : List Statement
  deriving Inhabited

end PageWatch.Script
