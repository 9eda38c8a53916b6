import PageWatch.Markup.Builder.Page
import PageWatch.Page.Match
import PageWatch.Selector.Matching
import PageWatch.Selector.Reader
import PageWatch.Text.Blank

/-!
# Snapshots

A snapshot of a document stands in for a live page. Typing into a form control does
not change the document; what is typed lies over it, by the control's position, until
another document is loaded.
-/

namespace PageWatch

/-- A document and what has been typed into its form controls, latest first, each with
the position of its control. -/
structure Snapshot where
  outline : Markup.Outline
  typed : List (Nat × String)
  deriving Repr, Inhabited

namespace Snapshot

open Markup

/-- The document that a source describes, untouched. -/
def parse (source : String) : Snapshot :=
  ⟨Outline.ofNodes (Markup.parse source), []⟩

/-- The document without content. -/
def empty : Snapshot := parse ""

/-- Replaces the document. What was typed into the old one is gone. -/
def load (source : String) (_ : Snapshot) : Snapshot := parse source

/-! ## The values of form controls -/

/-- Whether something can be typed into an element. -/
def isControl (element : Element) : Bool :=
  ["input", "textarea", "select"].contains element.name.tag

def optionValue (entry : Placed) : String :=
  match entry.element.attribute? "value" with
  | some value => value
  | none => String.ofList (Text.trim entry.content.toList)

/-- The option of a list that counts until one is typed: the first that is marked as
selected, or else the first. -/
def chosenOption? (options : List Placed) : Option Placed :=
  match options.find? fun option => (option.element.attribute? "selected").isSome with
  | some option => some option
  | none => options.head?

/-- The value that the document gives an element, if it is a form control. -/
def givenValue? (outline : Outline) (position : Nat) (entry : Placed) : Option String :=
  match entry.element.name.tag with
  | "input" => some ((entry.element.attribute? "value").getD "")
  | "textarea" => some entry.content
  | "select" =>
    let options := (Outline.inside position entry).filterMap fun position =>
      outline.entries[position]?.filter fun inner => inner.element.name.tag == "option"
    (chosenOption? options).map optionValue
  | _ => none

/-- What was typed at a position since the document was loaded. -/
def typedAt? (position : Nat) (snapshot : Snapshot) : Option String :=
  snapshot.typed.lookup position

/-- The value of an element: what was typed, or else what the document says. -/
def value? (position : Nat) (entry : Placed) (snapshot : Snapshot) : Option String :=
  match snapshot.typedAt? position with
  | some text => some text
  | none => givenValue? snapshot.outline position entry

/-! ## Queries -/

/-- The positions of the elements that a selector matches. -/
def positions (selector : String) (snapshot : Snapshot) : Except QueryError (List Nat) :=
  match Selector.parse selector with
  | .ok selectors => .ok (Selector.matching selectors snapshot.outline)
  | .error fault => .error (.invalidSelector selector fault.message)

/-- What a query answers for the element at a position. -/
def match? (position : Nat) (snapshot : Snapshot) : Option Match :=
  snapshot.outline.entries[position]?.map fun entry =>
    ⟨entry.element.name.tag, snapshot.value? position entry⟩

/-- The elements that a selector matches, in document order. -/
def select (selector : String) (snapshot : Snapshot) : Except QueryError (List Match) := do
  let positions ← snapshot.positions selector
  return positions.filterMap snapshot.match?

/-- Whether the element at a position is a form control. -/
def isControlAt (position : Nat) (snapshot : Snapshot) : Bool :=
  snapshot.outline.entries[position]?.any fun entry => isControl entry.element

def type (positions : List Nat) (text : String) (snapshot : Snapshot) : Snapshot :=
  { snapshot with
    typed := positions.foldl (fun typed position => (position, text) :: typed) snapshot.typed }

/-- Types a text into every form control that a selector matches, and tells how many
these are. -/
def setValue (selector text : String) (snapshot : Snapshot) :
    Except QueryError (Nat × Snapshot) := do
  let positions ← snapshot.positions selector
  let controls := positions.filter (snapshot.isControlAt ·)
  return (controls.length, snapshot.type controls text)

end Snapshot

end PageWatch
