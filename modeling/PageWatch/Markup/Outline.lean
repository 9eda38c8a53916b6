import PageWatch.Markup.Node

/-!
# Outlines of documents

The elements of a document in document order. Each is known by its position there and
knows the positions of the elements around it.
-/

namespace PageWatch.Markup

/-- An element and its place in a document. -/
structure Placed where
  element : Element
  /-- The positions of the elements that it is in, innermost first. -/
  ancestors : List Nat
  /-- The positions of the siblings before it, nearest first. -/
  elders : List Nat
  /-- The positions of the siblings after it, nearest first. -/
  youngers : List Nat
  /-- How many elements are in it. They follow it in document order. -/
  size : Nat
  /-- Whether nothing is in it, neither elements nor text. -/
  bare : Bool
  /-- All text in it. -/
  content : String
  deriving Repr, Inhabited

/-- The elements of a document, in document order. -/
structure Outline where
  entries : Array Placed
  deriving Repr, Inhabited

namespace Outline

mutual

/-- How many elements a node consists of. -/
def count : Node → Nat
  | .text _ => 0
  | .element _ children => countAll children + 1

/-- How many elements several nodes consist of. -/
def countAll : List Node → Nat
  | [] => 0
  | node :: nodes => count node + countAll nodes

end

/-- The positions of siblings, the first of which would be at `position`. -/
def positions (position : Nat) : List Node → List Nat
  | [] => []
  | .text _ :: nodes => positions position nodes
  | .element element children :: nodes =>
    position :: positions (position + count (.element element children)) nodes

mutual

/-- The entries of a node at a position among siblings. -/
def entriesOf (ancestors elders youngers : List Nat) (position : Nat) : Node → List Placed
  | .text _ => []
  | .element element children =>
    { element, ancestors, elders, youngers
      size := countAll children
      bare := children.isEmpty
      content := Node.contents children } ::
      entriesOfAll (position :: ancestors) [] (position + 1) children

/-- The entries of sibling nodes, the first of which would be at `position`. -/
def entriesOfAll (ancestors elders : List Nat) (position : Nat) : List Node → List Placed
  | [] => []
  | node :: nodes =>
    let next := position + count node
    let elders' := if next == position then elders else position :: elders
    entriesOf ancestors elders (positions next nodes) position node ++
      entriesOfAll ancestors elders' next nodes

end

/-- The outline of a document that consists of the given nodes. -/
def ofNodes (nodes : List Node) : Outline :=
  ⟨(entriesOfAll [] [] 0 nodes).toArray⟩

/-- The positions of the elements inside the one at a position. -/
def inside (position : Nat) (entry : Placed) : List Nat :=
  List.range' (position + 1) entry.size

mutual

theorem length_entriesOf (ancestors elders youngers : List Nat) (position : Nat)
    (node : Node) :
    (entriesOf ancestors elders youngers position node).length = count node := by
  match node with
  | .text _ => simp [entriesOf, count]
  | .element element children =>
    simp [entriesOf, count, length_entriesOfAll (position :: ancestors) [] (position + 1) children]

theorem length_entriesOfAll (ancestors elders : List Nat) (position : Nat)
    (nodes : List Node) :
    (entriesOfAll ancestors elders position nodes).length = countAll nodes := by
  match nodes with
  | [] => simp [entriesOfAll, countAll]
  | node :: nodes =>
    simp [entriesOfAll, countAll, length_entriesOf, length_entriesOfAll]

end

end Outline

end PageWatch.Markup
