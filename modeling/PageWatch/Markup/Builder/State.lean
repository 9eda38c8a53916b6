import PageWatch.Markup.Tree
import PageWatch.Markup.Vocabulary

/-!
# The state of reading a page

What is known while a page is read, token by token: the tree so far, the elements that
are still open, the formatting that new text takes on, and which rules apply.
-/

namespace PageWatch.Markup

/-- Where in a page the reading is, which says what the next token means. -/
inductive Mode where
  | initial
  | beforeHtml
  | beforeHead
  | inHead
  | afterHead
  | inBody
  | text
  | inTable
  | inTableText
  | inCaption
  | inColumnGroup
  | inTableBody
  | inRow
  | inCell
  | inSelect
  | inSelectInTable
  | inTemplate
  | afterBody
  | inFrameset
  | afterFrameset
  | afterAfterBody
  | afterAfterFrameset
  deriving DecidableEq, Repr, Inhabited

/-- An element that is open: its place in the tree and its name. -/
structure Open where
  node : Nat
  name : ElementName
  deriving DecidableEq, Repr, Inhabited

/-- An element whose formatting applies to what follows, or the start of a part of the
page that formatting does not cross. -/
inductive Format where
  | marker
  | element (node : Nat) (tag : Tag)
  deriving Repr, Inhabited

/-- Whether the entry is for the element at a place. -/
def Format.isFor (node : Nat) : Format → Bool
  | .marker => false
  | .element other _ => other == node

/-- The state of reading a page. -/
structure Builder where
  tree : Tree
  mode : Mode
  /-- The mode to go on with after a text. -/
  resume : Mode
  /-- How the source is being read. -/
  reading : Reading
  /-- Whether the page asks for the layout of old pages. -/
  old : Bool
  /-- The open elements, innermost first. -/
  stack : List Open
  /-- The formatting in force, latest first. -/
  formatting : List Format
  /-- The modes of the templates around, innermost first. -/
  templates : List Mode
  /-- Text within a table whose place is not known yet, latest first. -/
  tableText : List (List Char)
  head : Option Nat
  form : Option Nat
  /-- Whether a set of frames can still replace the body. -/
  framesetAllowed : Bool
  /-- Whether what a table cannot hold goes in front of it. -/
  fostering : Bool
  /-- Whether a line feed that comes first is left out. -/
  skipLine : Bool
  deriving Inhabited

/-- What is left to do with a token. -/
inductive Next where
  | done
  /-- Treat the token again, in another mode. -/
  | again (mode : Mode) (token : Token)
  /-- Treat the token by another mode's rules, without leaving this mode. -/
  | asIn (mode : Mode) (token : Token)
  deriving Inhabited

/-- A step of reading a page. -/
abbrev Build := StateM Builder

namespace Builder

/-- The state before the first token. -/
def start : Builder where
  tree := .empty
  mode := .initial
  resume := .initial
  reading := .markup
  old := false
  stack := []
  formatting := []
  templates := []
  tableText := []
  head := none
  form := none
  framesetAllowed := true
  fostering := false
  skipLine := false

end Builder

namespace Build

/-! ## Open elements -/

/-- The innermost open element. -/
def current? : Build (Option Open) := do
  return (← get).stack.head?

/-- Whether the innermost open element is a page's element with that tag. -/
def currentIs (tag : String) : Build Bool := do
  return (← current?).any (·.name.isHtml tag)

/-- Whether the innermost open element is a page's element with one of those tags. -/
def currentIsIn (tags : List String) : Build Bool := do
  return (← current?).any (·.name.isHtmlIn tags)

def modifyStack (change : List Open → List Open) : Build Unit :=
  modify fun state => { state with stack := change state.stack }

/-- Closes the innermost open element. -/
def pop : Build Unit := modifyStack (·.drop 1)

def push (element : Open) : Build Unit := modifyStack (element :: ·)

/-- Closes an element wherever it stands. -/
def removeOpen (node : Nat) : Build Unit := modifyStack (·.filter (·.node != node))

/-- Closes elements up to and including the first with a property. -/
def popThrough (wanted : ElementName → Bool) : Build Unit :=
  modifyStack fun stack => (stack.dropWhile fun element => !wanted element.name).drop 1

/-- Closes elements up to and including the first with a tag. -/
def popThroughTag (tag : String) : Build Unit := popThrough (·.isHtml tag)

/-- Closes elements down to the first with one of those tags, which stays open. -/
def popTo (tags : List String) : Build Unit :=
  modifyStack fun stack => stack.dropWhile fun element => !element.name.isHtmlIn tags

/-- Closes the innermost elements as long as they have one of those tags. -/
def closeImplied (tags : List String) : Build Unit :=
  modifyStack fun stack => stack.dropWhile fun element => element.name.isHtmlIn tags

/-- Closes the innermost elements that end by themselves, except those with a tag. -/
def closeImpliedExcept (tag : String) : Build Unit :=
  closeImplied (Vocabulary.impliedEnds.filter (· != tag))

def isOpen (tag : String) : Build Bool := do
  return (← get).stack.any (·.name.isHtml tag)

/-- Whether a wanted element is open and no bound is inside it. -/
def reaches (bounds : ElementName → Bool) (wanted : Open → Bool) : List Open → Bool
  | [] => false
  | element :: rest =>
    wanted element || (!bounds element.name && reaches bounds wanted rest)

def inScope (bounds : ElementName → Bool) (wanted : Open → Bool) : Build Bool := do
  return reaches bounds wanted (← get).stack

def tagInScope (bounds : ElementName → Bool) (tag : String) : Build Bool :=
  inScope bounds (·.name.isHtml tag)

def closeParagraph : Build Unit := do
  closeImpliedExcept "p"
  popThroughTag "p"

def closeOpenParagraph : Build Unit := do
  if ← tagInScope Vocabulary.boundsParagraphScope "p" then closeParagraph

/-- The page's body, if it is the second open element. -/
def body? : Build (Option Open) := do
  match (← get).stack.reverse with
  | _ :: second :: _ => return if second.name.isHtml "body" then some second else none
  | _ => return none

/-! ## Nodes -/

def modifyTree (change : Tree → Tree) : Build Unit :=
  modify fun state => { state with tree := change state.tree }

/-- Makes a node that is not yet in the tree. -/
def create (content : Content) : Build Nat :=
  modifyGet fun state =>
    let (node, tree) := state.tree.create content
    (node, { state with tree })

/-- Where things go that a table cannot hold: in front of the innermost table, or at
the end of a template that is further in. -/
def fosterSpot (tree : Tree) : List Open → Tree.Spot
  | [] => .lastIn Tree.root
  | element :: rest =>
    if element.name.isHtml "template" then .lastIn element.node
    else if element.name.isHtml "table" then
      if (tree.parent? element.node).isSome then .before element.node
      else .lastIn ((rest.head?.map (·.node)).getD Tree.root)
    else if rest.isEmpty then .lastIn element.node
    else fosterSpot tree rest

/-- Where something goes that belongs in an element. -/
def spotIn (target : Open) : Build Tree.Spot := do
  let state ← get
  if state.fostering && target.name.isHtmlIn Vocabulary.tableFrames then
    return fosterSpot state.tree state.stack
  else return .lastIn target.node

/-- Where the next node goes. -/
def spot : Build Tree.Spot := do
  match ← current? with
  | some target => spotIn target
  | none => return .lastIn Tree.root

def addText (content : List Char) : Build Unit := do
  let spot ← spot
  modifyTree (·.putText spot content)

/-- Adds an element without opening it. -/
def addElement (name : ElementName) (attributes : List Attribute) : Build Open := do
  let spot ← spot
  let node ← create (.element ⟨name, attributes⟩)
  modifyTree (·.put spot node)
  return ⟨node, name⟩

def openElement (name : ElementName) (attributes : List Attribute) : Build Open := do
  let element ← addElement name attributes
  push element
  return element

def openTag (tag : Tag) : Build Unit :=
  discard <| openElement ⟨.html, tag.name⟩ tag.attributes

/-- Adds the element of a tag without opening it. -/
def addTag (tag : Tag) : Build Unit :=
  discard <| addElement ⟨.html, tag.name⟩ tag.attributes

/-- Adds and opens an element that no tag asks for. -/
def openImplied (tag : String) : Build Open :=
  openElement ⟨.html, tag⟩ []

/-! ## Modes -/

def setMode (mode : Mode) : Build Unit :=
  modify fun state => { state with mode }

/-- From here on a set of frames cannot replace the body. -/
def forbidFrameset : Build Unit :=
  modify fun state => { state with framesetAllowed := false }

/-- Reads a text up to its closing tag, then goes on as before. -/
def readText (reading : Reading) : Build Unit :=
  modify fun state => { state with resume := state.mode, mode := .text, reading }

def openText (tag : Tag) (reading : String → Reading) : Build Unit := do
  openTag tag
  readText (reading tag.name)

/-- The mode that the open elements call for. -/
def modeFor (templates : List Mode) (hasHead : Bool) : List Open → Mode
  | [] => .inBody
  | element :: rest =>
    let isLast := rest.isEmpty
    let otherwise := modeFor templates hasHead rest
    if element.name.space != .html then otherwise
    else
      match element.name.tag with
      | "select" =>
        match rest.find? (·.name.isHtmlIn ["template", "table"]) with
        | some outer => if outer.name.isHtml "table" then .inSelectInTable else .inSelect
        | none => .inSelect
      | "td" | "th" => if isLast then otherwise else .inCell
      | "tr" => .inRow
      | "tbody" | "thead" | "tfoot" => .inTableBody
      | "caption" => .inCaption
      | "colgroup" => .inColumnGroup
      | "table" => .inTable
      | "template" => templates.headD .inBody
      | "head" => if isLast then otherwise else .inHead
      | "body" => .inBody
      | "frameset" => .inFrameset
      | "html" => if hasHead then .afterHead else .beforeHead
      | _ => otherwise

/-- The mode that the open elements call for. -/
def properMode : Build Mode := do
  let state ← get
  return modeFor state.templates state.head.isSome state.stack

end Build

end PageWatch.Markup
