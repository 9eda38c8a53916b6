import PageWatch.Markup.Outline
import PageWatch.Selector.Basic

/-!
# Matching

Whether an element of a document is as a selector describes it. The names of a page's
own elements and of their attributes are compared without regard to letter case, and
so are the values of some of their attributes.
-/

namespace PageWatch.Selector

open Markup

def lower (text : String) : String := text.map Char.toLower

/-- The attributes of a page's elements whose values are compared without regard to
letter case. -/
def looseAttributes : List String :=
  ["accept", "accept-charset", "align", "alink", "axis", "bgcolor", "charset", "checked",
   "clear", "codetype", "color", "compact", "declare", "defer", "dir", "direction",
   "disabled", "enctype", "face", "frame", "hreflang", "http-equiv", "lang", "language",
   "link", "media", "method", "multiple", "nohref", "noresize", "noshade", "nowrap",
   "readonly", "rel", "rev", "rules", "scope", "scrolling", "selected", "shape", "target",
   "text", "type", "valign", "valuetype", "vlink"]

def words (text : String) : List (List Char) :=
  (text.toList.splitOnP fun c => Token.isBlank c).filter (!·.isEmpty)

def occursIn (text : List Char) : List Char → Bool
  | [] => text.isEmpty
  | c :: rest => text.isPrefixOf (c :: rest) || occursIn text rest

/-- Whether a value compares with another as asked, where letter case counts. -/
def Comparison.holds (comparison : Comparison) (value other : List Char) : Bool :=
  match comparison with
  | .equal => value == other
  | .includes => !other.isEmpty && (value.splitOnP fun c => Token.isBlank c).contains other
  | .dashed => value == other || (other ++ ['-']).isPrefixOf value
  | .beginsWith => !other.isEmpty && other.isPrefixOf value
  | .endsWith => !other.isEmpty && other.isSuffixOf value
  | .contains => !other.isEmpty && occursIn other value

/-- Whether an attribute's value is as asked. -/
def ValueTest.holds (test : ValueTest) (loose : Bool) (value : String) : Bool :=
  let ignored :=
    match test.letterCase with
    | .counts => false
    | .ignored => true
    | .byName => loose
  if ignored then test.comparison.holds (lower value).toList (lower test.value).toList
  else test.comparison.holds value.toList test.value.toList

def hasAttribute (element : Element) (name : String) (anySpace : Bool)
    (test : Option ValueTest) : Bool :=
  let ofPage := element.name.space == .html
  let loose := ofPage && !anySpace && looseAttributes.contains (lower name)
  let name := if ofPage then lower name else name
  element.attributes.any fun given =>
    given.name == name && (anySpace || !given.spaced) &&
      (match test with
       | none => true
       | some test => test.holds loose given.value)

/-- Whether a number is one of those that a formula counts. The distance from its
offset has 32 bits. -/
def Counting.counts (counting : Counting) (number : Int) : Bool :=
  let distance := number - counting.offset
  if 2147483647 < distance then false
  else if counting.step == 0 then distance == 0
  else distance.tmod counting.step == 0 && 0 ≤ distance.tdiv counting.step

/-- The number of an element among its siblings. -/
def Counting.number (counting : Counting) (outline : Outline) (entry : Placed) : Int :=
  let others := if counting.fromEnd then entry.youngers else entry.elders
  let counted :=
    if counting.ofType then
      others.filter fun position =>
        outline.entries[position]?.any (·.element.name == entry.element.name)
    else others
  counted.length + 1

/-- The positions of the elements that can stand to the left of one. -/
def Combinator.lefts (combinator : Combinator) (entry : Placed) : List Nat :=
  match combinator with
  | .descendant => entry.ancestors
  | .child => entry.ancestors.take 1
  | .next => entry.elders.take 1
  | .later => entry.elders

/-- The positions of the elements that a selector can be about which starts out from an
element. -/
def reachable (outline : Outline) (position : Nat) (entry : Placed) : List Nat :=
  Outline.inside position entry ++ entry.youngers.flatMap fun younger =>
    younger :: (outline.entries[younger]?.map (Outline.inside younger)).getD []

mutual

def Simple.holds (outline : Outline) (anchor : Option Nat) (position : Nat)
    (entry : Placed) : Simple → Bool
  | .tag name =>
    let name := if entry.element.name.space == .html then lower name else name
    entry.element.name.tag == name
  | .noSpace => false
  | .identity name => entry.element.attribute? "id" == some name
  | .classed name =>
    (entry.element.attribute? "class").any fun value => (words value).contains name.toList
  | .hasAttribute name anySpace test => hasAttribute entry.element name anySpace test
  | .root => entry.ancestors.isEmpty
  | .empty => entry.bare
  | .counted counting => counting.counts (counting.number outline entry)
  | .anyOf alternatives => Complex.someHold outline anchor [position] alternatives
  | .noneOf alternatives => !Complex.someHold outline anchor [position] alternatives
  | .has relatives =>
    Complex.someHold outline (some position) (reachable outline position entry) relatives
  | .never => false

def Simple.allHold (outline : Outline) (anchor : Option Nat) (position : Nat)
    (entry : Placed) : List Simple → Bool
  | [] => true
  | condition :: conditions =>
    Simple.holds outline anchor position entry condition &&
      Simple.allHold outline anchor position entry conditions

/-- Whether a selector matches one of the elements at some positions. -/
def Complex.holdsAtSome (outline : Outline) (anchor : Option Nat) (positions : List Nat) :
    Complex → Bool
  | .anchor => positions.any fun position => anchor == some position
  | .compound conditions =>
    positions.any fun position =>
      match outline.entries[position]? with
      | none => false
      | some entry => Simple.allHold outline anchor position entry conditions
  | .combined left combinator conditions =>
    positions.any fun position =>
      match outline.entries[position]? with
      | none => false
      | some entry =>
        Simple.allHold outline anchor position entry conditions &&
          Complex.holdsAtSome outline anchor (combinator.lefts entry) left
  | .never => false

/-- Whether one of several selectors matches one of the elements at some positions. -/
def Complex.someHold (outline : Outline) (anchor : Option Nat) (positions : List Nat) :
    List Complex → Bool
  | [] => false
  | selector :: selectors =>
    Complex.holdsAtSome outline anchor positions selector ||
      Complex.someHold outline anchor positions selectors

end

/-- The positions of the elements that one of the selectors matches, in document
order. -/
def matching (selectors : List Complex) (outline : Outline) : List Nat :=
  (List.range outline.entries.size).filter fun position =>
    Complex.someHold outline none [position] selectors

end PageWatch.Selector
