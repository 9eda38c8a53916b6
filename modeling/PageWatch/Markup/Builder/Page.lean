import PageWatch.Markup.Builder.Foreign

/-!
# Pages

What a token means outside the body of a page, and how a whole page is read: each
token is settled by the rules of the mode that the page is in. Reading never fails;
the most broken source is some document.
-/

namespace PageWatch.Markup.Build

open Vocabulary

/-! ## Before the body -/

def openRoot (attributes : List Attribute) : Build Unit :=
  discard <| openElement ⟨.html, "html"⟩ attributes

/-- Adds a head that no tag asks for. -/
def openHead (attributes : List Attribute) : Build Unit := do
  let element ← openElement ⟨.html, "head"⟩ attributes
  modify fun state => { state with head := some element.node }

/-- Whether a token says nothing before the body of a page. -/
def isIdle : Token → Bool
  | .text content => isBlankText content
  | .comment | .doctype _ => true
  | .closing name => !(["head", "body", "html", "br"].contains name)
  | _ => false

/-- The rules before the document type. -/
def initially : Token → Build Next
  | .comment => return .done
  | .text content => do
    if isBlankText content then return .done
    modify fun state => { state with old := true }
    return .again .beforeHtml (.text content)
  | token => do
    modify fun state => { state with old := true }
    return .again .beforeHtml token

/-- The rules before the root element. -/
def beforeHtml (token : Token) : Build Next := do
  if isIdle token then return .done
  match token with
  | .opening tag =>
    if tag.name == "html" then
      openRoot tag.attributes
      setMode .beforeHead
      return .done
    else
      openRoot []
      return .again .beforeHead token
  | _ =>
    openRoot []
    return .again .beforeHead token

def beforeHead (token : Token) : Build Next := do
  if isIdle token then return .done
  match token with
  | .opening tag =>
    if tag.name == "html" then inBody token
    else if tag.name == "head" then
      openHead tag.attributes
      setMode .inHead
      return .done
    else
      openHead []
      return .again .inHead token
  | _ =>
    openHead []
    return .again .inHead token

def enterBody (token : Token) : Build Next := do
  discard <| openImplied "body"
  return .again .inBody token

/-- The rules after the head, which takes up what belongs there. -/
def afterHead (token : Token) : Build Next := do
  match token with
  | .text content =>
    if isBlankText content then
      addText content
      return .done
    else enterBody token
  | .opening tag =>
    if tag.name == "html" then inBody token
    else if tag.name == "body" then
      openTag tag
      forbidFrameset
      setMode .inBody
      return .done
    else if tag.name == "frameset" then
      openTag tag
      setMode .inFrameset
      return .done
    else if headContent.contains tag.name then
      match (← get).head with
      | none => return .done
      | some head =>
        push ⟨head, ⟨.html, "head"⟩⟩
        let next ← inHead token
        removeOpen head
        return next
    else if tag.name == "head" then return .done
    else enterBody token
  | .closing name =>
    if name == "template" then inHead token
    else if ["body", "html", "br"].contains name then enterBody token
    else return .done
  | .comment | .doctype _ => return .done
  | .null | .finish => enterBody token

/-! ## Texts and templates -/

/-- The rules of a text up to its closing tag. -/
def inText : Token → Build Next
  | .text content => do
    addText content
    return .done
  | .finish => do
    pop
    modify fun state => { state with reading := .markup }
    return .again (← get).resume .finish
  | .closing _ => do
    pop
    modify fun state => { state with reading := .markup }
    setMode (← get).resume
    return .done
  | _ => return .done

/-- The rules of a template, which takes on those of its first element. -/
def inTemplate (token : Token) : Build Next := do
  let become (mode : Mode) : Build Next := do
    modify fun state => { state with templates := mode :: state.templates.drop 1 }
    return .again mode token
  match token with
  | .text _ => inBody token
  | .opening tag =>
    if headContent.contains tag.name then inHead token
    else
      match tag.name with
      | "caption" | "colgroup" | "tbody" | "tfoot" | "thead" => become .inTable
      | "col" => become .inColumnGroup
      | "tr" => become .inTableBody
      | "td" | "th" => become .inRow
      | _ => become .inBody
  | .closing name => if name == "template" then inHead token else return .done
  | .finish =>
    if ← isOpen "template" then
      popThroughTag "template"
      clearFormatting
      modify fun state => { state with templates := state.templates.drop 1 }
      setMode (← properMode)
      return .again (← properMode) token
    else return .done
  | .null | .comment | .doctype _ => return .done

/-! ## After the body, and pages of frames -/

/-- The rules after the body, whose end more content takes back. -/
def afterBody (token : Token) : Build Next := do
  match token with
  | .text content => if isBlankText content then inBody token else return .again .inBody token
  | .opening tag => if tag.name == "html" then inBody token else return .again .inBody token
  | .closing name =>
    if name == "html" then
      setMode .afterAfterBody
      return .done
    else return .again .inBody token
  | .null => return .again .inBody token
  | .finish | .comment | .doctype _ => return .done

/-- The rules after the root element. -/
def afterAfterBody (token : Token) : Build Next := do
  match token with
  | .text content => if isBlankText content then inBody token else return .again .inBody token
  | .opening tag => if tag.name == "html" then inBody token else return .again .inBody token
  | .closing _ | .null => return .again .inBody token
  | .finish | .comment | .doctype _ => return .done

def inFrameset (token : Token) : Build Next := do
  match token with
  | .text content =>
    if isBlankText content then addText content
    return .done
  | .opening tag =>
    match tag.name with
    | "html" => inBody token
    | "frameset" =>
      openTag tag
      return .done
    | "frame" =>
      addTag tag
      return .done
    | "noframes" => inHead token
    | _ => return .done
  | .closing name =>
    if name == "frameset" && 1 < (← get).stack.length then
      pop
      unless ← currentIs "frameset" do setMode .afterFrameset
    return .done
  | _ => return .done

/-- The rules after a set of frames. -/
def afterFrameset (token : Token) : Build Next := do
  match token with
  | .text content =>
    if isBlankText content then addText content
    return .done
  | .opening tag =>
    match tag.name with
    | "html" => inBody token
    | "noframes" => inHead token
    | _ => return .done
  | .closing name =>
    if name == "html" then setMode .afterAfterFrameset
    return .done
  | _ => return .done

/-- The rules after the root element of a page of frames. -/
def afterAfterFrameset (token : Token) : Build Next := do
  match token with
  | .text content => if isBlankText content then inBody token else return .done
  | .opening tag =>
    match tag.name with
    | "html" => inBody token
    | "noframes" => inHead token
    | _ => return .done
  | _ => return .done

/-! ## Whole pages -/

/-- The rules of a mode. -/
def rules : Mode → Token → Build Next
  | .initial => initially
  | .beforeHtml => beforeHtml
  | .beforeHead => beforeHead
  | .inHead => inHead
  | .afterHead => afterHead
  | .inBody => inBody
  | .text => inText
  | .inTable => inTable
  | .inTableText => inTableText
  | .inCaption => inCaption
  | .inColumnGroup => inColumnGroup
  | .inTableBody => inTableBody
  | .inRow => inRow
  | .inCell => inCell
  | .inSelect => inSelect
  | .inSelectInTable => inSelectInTable
  | .inTemplate => inTemplate
  | .afterBody => afterBody
  | .inFrameset => inFrameset
  | .afterFrameset => afterFrameset
  | .afterAfterBody => afterAfterBody
  | .afterAfterFrameset => afterAfterFrameset

/-- Treats a token until nothing is left to do with it. The first argument bounds the
number of times. -/
def settle : Nat → Next → Build Unit
  | 0, _ | _, .done => pure ()
  | times + 1, .asIn mode token => do settle times (← rules mode token)
  | times + 1, .again mode token => do
    setMode mode
    let foreign := (← current?).any fun element => isForeign token element.name
    settle times (← if foreign then inForeign token else rules mode token)

/-- A bound on the number of times that a token is treated: each time leads to another
mode, or closes an element. -/
def Builder.patience (state : Builder) : Nat := 64 + 8 * state.stack.length

def treat (token : Token) : Build Unit := do
  let state ← get
  settle (Builder.patience state) (.again state.mode token)

/-- A text as runs of blank and of other characters. -/
def runs (content : List Char) : List (List Char) :=
  content.splitBy fun first second => Token.isBlank first == Token.isBlank second

def take (token : Token) : Build Unit := do
  let state ← get
  modify fun state => { state with skipLine := false }
  match token with
  | .doctype old =>
    if state.mode == .initial then
      modify fun state => { state with old, mode := .beforeHtml }
  | .text content =>
    let content :=
      match content with
      | '\n' :: rest => if state.skipLine then rest else content
      | _ => content
    for run in runs content do treat (.text run)
  | _ => treat token

/-- Takes in a source. The first argument bounds the number of tokens; one more than
the length of the source is enough. -/
def takeAll : Nat → List Char → Build Unit
  | 0, _ => pure ()
  | count + 1, source => do
    let state ← get
    let foreign := state.stack.head?.any (·.name.space != .html)
    let (token, rest) := Token.read state.reading foreign source
    take token
    match token with
    | .finish => pure ()
    | _ => takeAll count rest

end PageWatch.Markup.Build

namespace PageWatch.Markup

/-- Reads a page: the nodes of its document, which is one root element. -/
def parse (source : String) : List Node :=
  let characters := Token.prepare source.toList
  let (_, state) := (Build.takeAll (characters.length + 1) characters).run .start
  state.tree.finish state.tree.nodes.size Tree.root

end PageWatch.Markup
