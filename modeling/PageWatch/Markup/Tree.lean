import PageWatch.Markup.Node

/-!
# A tree in the making

While a page is read, elements move: text goes in front of a table, a wrongly nested
tag moves a whole branch. Nodes are therefore kept in an array, each with the places
of its parent and of its children, until the document is complete.
-/

namespace PageWatch.Markup

/-- What a node under construction holds. -/
inductive Content where
  | document
  | element (element : Element)
  | text (content : List Char)
  deriving Repr, Inhabited

/-- A node under construction. -/
structure Branch where
  content : Content
  parent : Option Nat
  children : Array Nat
  deriving Repr, Inhabited

/-- A tree under construction. Its first node is the document. -/
structure Tree where
  nodes : Array Branch
  deriving Repr, Inhabited

namespace Tree

/-- A document without nodes. -/
def empty : Tree := ⟨#[⟨.document, none, #[]⟩]⟩

/-- The place of the document. -/
def root : Nat := 0

/-- Adds a node that is not yet anywhere in the document. -/
def create (content : Content) (tree : Tree) : Nat × Tree :=
  (tree.nodes.size, ⟨tree.nodes.push ⟨content, none, #[]⟩⟩)

def modify (node : Nat) (change : Branch → Branch) (tree : Tree) : Tree :=
  ⟨tree.nodes.modify node change⟩

def parent? (node : Nat) (tree : Tree) : Option Nat :=
  tree.nodes[node]?.bind (·.parent)

def children (node : Nat) (tree : Tree) : Array Nat :=
  (tree.nodes[node]?.map (·.children)).getD #[]

def detach (node : Nat) (tree : Tree) : Tree :=
  match tree.parent? node with
  | none => tree
  | some parent =>
    (tree.modify parent fun branch =>
      { branch with children := branch.children.filter (· != node) }).modify node fun branch =>
        { branch with parent := none }

/-- Puts a node after the last child of another. -/
def append (parent node : Nat) (tree : Tree) : Tree :=
  ((tree.detach node).modify parent fun branch =>
    { branch with children := branch.children.push node }).modify node fun branch =>
      { branch with parent := some parent }

/-- Where a node can be put. -/
inductive Spot where
  | lastIn (parent : Nat)
  | before (sibling : Nat)
  deriving Repr, Inhabited

/-- The parent at a spot and the number of its children that come first. -/
def position (spot : Spot) (tree : Tree) : Option (Nat × Nat) :=
  match spot with
  | .lastIn parent => some (parent, (tree.children parent).size)
  | .before sibling => do
    let parent ← tree.parent? sibling
    let index ← (tree.children parent).findIdx? (· == sibling)
    return (parent, index)

def put (spot : Spot) (node : Nat) (tree : Tree) : Tree :=
  let tree := tree.detach node
  match tree.position spot with
  | none => tree
  | some (parent, index) =>
    (tree.modify parent fun branch =>
      { branch with
        children := branch.children.extract 0 index ++ #[node] ++
          branch.children.extract index branch.children.size }).modify node fun branch =>
            { branch with parent := some parent }

def text? (node : Nat) (tree : Tree) : Option (List Char) :=
  match tree.nodes[node]? with
  | some ⟨.text content, _, _⟩ => some content
  | _ => none

/-- Puts a text at a spot. It joins a text that stands right before that spot. -/
def putText (spot : Spot) (content : List Char) (tree : Tree) : Tree :=
  match tree.position spot with
  | none => tree
  | some (parent, index) =>
    let before? :=
      if index == 0 then none
      else (tree.children parent)[index - 1]?.bind fun node =>
        (tree.text? node).map fun text => (node, text)
    match before? with
    | some (node, text) =>
      tree.modify node fun branch => { branch with content := .text (text ++ content) }
    | none =>
      let (node, tree) := tree.create (.text content)
      tree.put spot node

/-- Moves all children of a node to the end of another. -/
def moveChildren (source target : Nat) (tree : Tree) : Tree :=
  (tree.children source).foldl (fun tree node => tree.append target node) tree

/-- Gives an element those attributes whose names it does not have. -/
def addAttributes (node : Nat) (attributes : List Attribute) (tree : Tree) : Tree :=
  tree.modify node fun branch =>
    match branch.content with
    | .element element =>
      let missing := attributes.filter fun given =>
        !element.attributes.any (·.name == given.name)
      { branch with
        content := .element { element with attributes := element.attributes ++ missing } }
    | _ => branch

/-- The finished node at a place. The first argument bounds the depth; the number of
nodes is enough. -/
def finish (tree : Tree) : Nat → Nat → List Node
  | 0, _ => []
  | depth + 1, node =>
    match tree.nodes[node]? with
    | none => []
    | some branch =>
      let below := branch.children.toList.flatMap (finish tree depth)
      match branch.content with
      | .document => below
      | .element element => [.element element below]
      | .text content => [.text (String.ofList content)]

end Tree

end PageWatch.Markup
