import PageWatch.Selector.Token

/-!
# Selectors

A selector describes elements by conditions on them and on the elements around them.
-/

namespace PageWatch.Selector

/-- How two elements stand to each other, the left one first. -/
inductive Combinator where
  /-- The left one is somewhere above. -/
  | descendant
  /-- The left one is the parent. -/
  | child
  /-- The left one is the sibling right before. -/
  | next
  /-- The left one is a sibling before. -/
  | later
  deriving DecidableEq, Repr, Inhabited

/-- How the value of an attribute compares with another. -/
inductive Comparison where
  | equal
  /-- The other is one of its words. -/
  | includes
  /-- It is the other, or begins with it and a dash. -/
  | dashed
  | beginsWith
  | endsWith
  | contains
  deriving DecidableEq, Repr, Inhabited

/-- Whether letter case counts in an attribute's value. -/
inductive LetterCase where
  | counts
  | ignored
  /-- It is ignored in pages for some attributes. -/
  | byName
  deriving DecidableEq, Repr, Inhabited

/-- What is asked of the value of an attribute. -/
structure ValueTest where
  comparison : Comparison
  value : String
  letterCase : LetterCase
  deriving DecidableEq, Repr, Inhabited

/-- An element's number among its siblings is `step * n + offset` for some natural
`n`. It counts from the end if `fromEnd`, and only those of its type if `ofType`. -/
structure Counting where
  step : Int
  offset : Int
  fromEnd : Bool
  ofType : Bool
  deriving DecidableEq, Repr, Inhabited

mutual

/-- A condition on one element. -/
inductive Simple where
  | tag (name : String)
  /-- The element's name belongs to no vocabulary. -/
  | noSpace
  | identity (name : String)
  | classed (name : String)
  /-- The element has an attribute, in a name space or not if `anySpace`. -/
  | hasAttribute (name : String) (anySpace : Bool) (test : Option ValueTest)
  | root
  | empty
  | counted (counting : Counting)
  /-- One of the selectors matches. -/
  | anyOf (alternatives : List Complex)
  /-- None of the selectors matches. -/
  | noneOf (alternatives : List Complex)
  /-- One of the selectors matches some element, as seen from this one. -/
  | has (relatives : List Complex)
  /-- No element is like this. -/
  | never

/-- A condition on an element and on those around it. -/
inductive Complex where
  /-- The element that the enclosing condition is about. -/
  | anchor
  /-- All conditions hold. -/
  | compound (conditions : List Simple)
  /-- All conditions hold, and an element that stands to the left matches. -/
  | combined (left : Complex) (combinator : Combinator) (conditions : List Simple)
  /-- A selector that cannot be understood, where others beside it can. -/
  | never

end

deriving instance Repr for Simple, Complex

instance : Inhabited Simple := ⟨.never⟩
instance : Inhabited Complex := ⟨.never⟩

/-- Why a text is no selector. -/
inductive Fault where
  /-- The text ends too early. -/
  | ended
  | unexpected (token : Token)
  /-- A name has to follow a colon. -/
  | unnamed (token : Token)
  /-- Any other cause. -/
  | other
  deriving Repr, Inhabited

def Fault.message : Fault → String
  | .ended => "Unexpected EOL"
  | .unexpected token => "Token " ++ Text.inspect token.text ++ " was not expected"
  | .unnamed token =>
    "Expected identity for pseudoelement, got " ++ Text.inspect token.text ++ " instead"
  | .other => "Unexpected error occurred. Please report this to the developer"

end PageWatch.Selector
