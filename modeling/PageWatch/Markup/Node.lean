import PageWatch.Markup.Token

/-!
# Nodes of a document

A document is a tree of elements and texts. Comments are no part of it. An element's
name tells which vocabulary it is from: that of pages, of drawings or of formulas.
-/

namespace PageWatch.Markup

/-- The vocabulary that an element's name is from. -/
inductive Space where
  /-- Pages. -/
  | html
  /-- Drawings. -/
  | svg
  /-- Formulas. -/
  | mathml
  deriving DecidableEq, Repr, Inhabited

/-- The name of an element. -/
structure ElementName where
  space : Space
  tag : String
  deriving DecidableEq, Repr, Inhabited

/-- Whether this is the name of a page's element with that tag. -/
def ElementName.isHtml (name : ElementName) (tag : String) : Bool :=
  name.space == .html && name.tag == tag

/-- Whether this is the name of a page's element with one of those tags. -/
def ElementName.isHtmlIn (name : ElementName) (tags : List String) : Bool :=
  name.space == .html && tags.contains name.tag

/-- An element without its place in a document. -/
structure Element where
  name : ElementName
  attributes : List Attribute
  deriving DecidableEq, Repr, Inhabited

/-- The value of an attribute without a name space. -/
def Element.attribute? (element : Element) (name : String) : Option String :=
  (element.attributes.find? fun given => !given.spaced && given.name == name).map (·.value)

/-- A text, or an element with its children. -/
inductive Node where
  | text (content : String)
  | element (element : Element) (children : List Node)
  deriving Repr, Inhabited

namespace Node

mutual

/-- The text of a node and of all below it. -/
def content : Node → String
  | .text content => content
  | .element _ children => contents children

/-- The text of several nodes, one after the other. -/
def contents : List Node → String
  | [] => ""
  | node :: nodes => content node ++ contents nodes

end

end Node

end PageWatch.Markup
