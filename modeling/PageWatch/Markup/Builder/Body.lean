import PageWatch.Markup.Builder.Formatting

/-!
# Heads and bodies

What a token means in the head of a page and in its body. Most other modes fall back
on the rules of the body.
-/

namespace PageWatch.Markup.Build

open Vocabulary

def isBlankText (content : List Char) : Bool := content.all Token.isBlank

def isHidden (tag : Tag) : Bool :=
  (tag.attribute? "type").any fun kind => kind.map Char.toLower == "hidden"

/-! ## The head -/

def closeTemplate : Build Unit := do
  if ← isOpen "template" then
    closeImplied thoroughImpliedEnds
    popThroughTag "template"
    clearFormatting
    modify fun state => { state with templates := state.templates.drop 1 }
    setMode (← properMode)

/-- The rules for an opening tag in the head. Nothing if the head ends before it. -/
def openInHead (tag : Tag) : Build (Option Next) := do
  match tag.name with
  | "html" => return some (.asIn .inBody (.opening tag))
  | "base" | "basefont" | "bgsound" | "link" | "meta" =>
    addTag tag
    return some .done
  | "title" =>
    openText tag .title
    return some .done
  | "noframes" | "style" | "noscript" =>
    openText tag .raw
    return some .done
  | "script" =>
    openText tag fun _ => .script
    return some .done
  | "template" =>
    openTag tag
    markFormatting
    forbidFrameset
    setMode .inTemplate
    modify fun state => { state with templates := .inTemplate :: state.templates }
    return some .done
  | "head" => return some .done
  | _ => return none

def leaveHead (token : Token) : Build Next := do
  pop
  return .again .afterHead token

def inHead : Token → Build Next
  | .text content => do
    if isBlankText content then
      addText content
      return .done
    else leaveHead (.text content)
  | .opening tag => do
    match ← openInHead tag with
    | some next => return next
    | none => leaveHead (.opening tag)
  | .closing name =>
    match name with
    | "head" => do
      pop
      setMode .afterHead
      return .done
    | "body" | "html" | "br" => leaveHead (.closing name)
    | "template" => do
      closeTemplate
      return .done
    | _ => return .done
  | .comment | .doctype _ => return .done
  | token => leaveHead token

/-! ## Opening tags in the body -/

/-- The rules for `<li>`, `<dd>` and `<dt>`: the item before ends. -/
def openItem (tag : Tag) : Build Unit := do
  forbidFrameset
  let alike := if tag.name == "li" then ["li"] else ["dd", "dt"]
  let stops (element : Open) : Bool :=
    element.name.isHtmlIn alike ||
      element.name.isHtmlIn (special.filter fun name => !(["address", "div", "p"].contains name))
  match (← get).stack.find? stops with
  | some element =>
    if element.name.isHtmlIn alike then
      closeImpliedExcept element.name.tag
      popThroughTag element.name.tag
  | none => pure ()
  closeOpenParagraph
  openTag tag

/-- The rules for `<a>`: an open one ends. -/
def openAnchor (tag : Tag) : Build Unit := do
  match (innerFormatting (← get).formatting).find? fun (_, other) => other.name == "a" with
  | some (node, _) =>
    closeFormatting "a"
    removeFormat node
    removeOpen node
  | none => pure ()
  resumeFormatting
  openFormatting tag

/-- The rules for `<nobr>`: an open one ends. -/
def openUnbroken (tag : Tag) : Build Unit := do
  resumeFormatting
  if ← tagInScope boundsScope "nobr" then
    closeFormatting "nobr"
    resumeFormatting
  openFormatting tag

/-- The rules for `<form>`: forms do not nest. -/
def openForm (tag : Tag) : Build Unit := do
  let inTemplate ← isOpen "template"
  if (← get).form.isNone || inTemplate then
    closeOpenParagraph
    let element ← openElement ⟨.html, tag.name⟩ tag.attributes
    unless inTemplate do
      modify fun state => { state with form := some element.node }

/-- The rules for `<html>` inside a page: it can add attributes. -/
def openRootAgain (tag : Tag) : Build Unit := do
  unless ← isOpen "template" do
    match (← get).stack.getLast? with
    | some root => modifyTree (·.addAttributes root.node tag.attributes)
    | none => pure ()

/-- The rules for `<body>` inside a body: it can add attributes. -/
def openBodyAgain (tag : Tag) : Build Unit := do
  match ← body? with
  | some body =>
    unless ← isOpen "template" do
      forbidFrameset
      modifyTree (·.addAttributes body.node tag.attributes)
  | none => pure ()

/-- The rules for `<frameset>` inside a body: it replaces a body that is still bare. -/
def openFramesetAgain (tag : Tag) : Build Unit := do
  if (← get).framesetAllowed then
    match ← body? with
    | some body =>
      modifyTree (·.detach body.node)
      modifyStack fun stack => stack.drop (stack.length - 1)
      openTag tag
      setMode .inFrameset
    | none => pure ()

/-- The rules for a tag that starts a drawing or a formula. -/
def openForeign (space : Space) (tag : Tag) : Build Unit := do
  let tag := respellAttributes space tag
  if tag.selfClosing then discard <| addElement ⟨space, tag.name⟩ tag.attributes
  else discard <| openElement ⟨space, tag.name⟩ tag.attributes

/-- The rules for `<select>`. -/
def openSelect (tag : Tag) : Build Unit := do
  resumeFormatting
  openTag tag
  forbidFrameset
  let mode := (← get).mode
  if [Mode.inTable, .inCaption, .inTableBody, .inRow, .inCell].contains mode then
    setMode .inSelectInTable
  else setMode .inSelect

/-- The rules for an opening tag that stands for itself in a body. -/
def openPlain (tag : Tag) : Build Unit := do
  let name := tag.name
  if sections.contains name || name == "p" then
    closeOpenParagraph
    openTag tag
  else if headings.contains name then
    closeOpenParagraph
    if ← currentIsIn headings then pop
    openTag tag
  else if name == "pre" || name == "listing" then
    closeOpenParagraph
    openTag tag
    modify fun state => { state with skipLine := true, framesetAllowed := false }
  else if name == "plaintext" then
    closeOpenParagraph
    openTag tag
    modify fun state => { state with reading := .plain }
  else if name == "button" then
    if ← tagInScope boundsScope "button" then
      closeImplied impliedEnds
      popThroughTag "button"
    resumeFormatting
    openTag tag
    forbidFrameset
  else if ["applet", "marquee", "object"].contains name then
    resumeFormatting
    openTag tag
    markFormatting
    forbidFrameset
  else if name == "table" then
    unless (← get).old do closeOpenParagraph
    openTag tag
    forbidFrameset
    setMode .inTable
  else if voids.contains name then
    resumeFormatting
    addTag tag
    unless name == "input" && isHidden tag do forbidFrameset
  else if ["param", "source", "track"].contains name then addTag tag
  else if name == "hr" then
    closeOpenParagraph
    addTag tag
    forbidFrameset
  else if name == "textarea" then
    modify fun state => { state with skipLine := true, framesetAllowed := false }
    openText tag .title
  else if name == "xmp" then
    closeOpenParagraph
    resumeFormatting
    forbidFrameset
    openText tag .raw
  else if name == "iframe" then
    forbidFrameset
    openText tag .raw
  else if name == "noembed" || name == "noscript" then openText tag .raw
  else if name == "optgroup" || name == "option" then
    if ← currentIs "option" then pop
    resumeFormatting
    openTag tag
  else if name == "rb" || name == "rtc" then
    if ← tagInScope boundsScope "ruby" then closeImplied impliedEnds
    openTag tag
  else if name == "rp" || name == "rt" then
    if ← tagInScope boundsScope "ruby" then closeImpliedExcept "rtc"
    openTag tag
  else if tableParts.contains name || name == "frame" || name == "head" then pure ()
  else
    resumeFormatting
    openTag tag

def openInBody (tag : Tag) : Build Next := do
  if headContent.contains tag.name then inHead (.opening tag)
  else
    match tag.name with
    | "html" => openRootAgain tag
    | "body" => openBodyAgain tag
    | "frameset" => openFramesetAgain tag
    | "form" => openForm tag
    | "li" | "dd" | "dt" => openItem tag
    | "a" => openAnchor tag
    | "nobr" => openUnbroken tag
    | "select" => openSelect tag
    | "image" => openPlain { tag with name := "img" }
    | "math" =>
      resumeFormatting
      openForeign .mathml tag
    | "svg" =>
      resumeFormatting
      openForeign .svg tag
    | name =>
      if formatting.contains name then
        resumeFormatting
        openFormatting tag
      else openPlain tag
    return .done

/-! ## Closing tags in the body -/

/-- The rules for `</form>`. -/
def closeForm : Build Unit := do
  if ← isOpen "template" then
    if ← tagInScope boundsScope "form" then
      closeImplied impliedEnds
      popThroughTag "form"
  else
    let form? := (← get).form
    modify fun state => { state with form := none }
    match form? with
    | none => pure ()
    | some form =>
      if ← inScope boundsScope (·.node == form) then
        closeImplied impliedEnds
        removeOpen form

/-- Closes an element with a tag if a scope holds one. -/
def closeInScope (bounds : ElementName → Bool) (tag : String) : Build Bool := do
  if ← tagInScope bounds tag then
    closeImplied impliedEnds
    popThroughTag tag
    return true
  else return false

/-- The rules for a closing tag in a body. -/
def closeInBody (name : String) : Build Next := do
  match name with
  | "template" => inHead (.closing name)
  | "body" =>
    if ← tagInScope boundsScope "body" then setMode .afterBody
    return .done
  | "html" =>
    if ← tagInScope boundsScope "body" then return .again .afterBody (.closing name)
    else return .done
  | "form" =>
    closeForm
    return .done
  | "p" =>
    unless ← tagInScope boundsParagraphScope "p" do discard <| openImplied "p"
    closeParagraph
    return .done
  | "li" | "dd" | "dt" =>
    let bounds := if name == "li" then boundsItemScope else boundsScope
    if ← tagInScope bounds name then
      closeImpliedExcept name
      popThroughTag name
    return .done
  | "br" =>
    openPlain ⟨"br", [], false⟩
    return .done
  | "applet" | "marquee" | "object" =>
    if ← closeInScope boundsScope name then clearFormatting
    return .done
  | _ =>
    if sections.contains name || ["button", "listing", "pre"].contains name then
      discard <| closeInScope boundsScope name
    else if headings.contains name then
      if ← inScope boundsScope (·.name.isHtmlIn headings) then
        closeImplied impliedEnds
        popThrough (·.isHtmlIn headings)
    else if formatting.contains name then closeFormatting name
    else closeAny name
    return .done

/-! ## The body -/

def inBody : Token → Build Next
  | .text content => do
    resumeFormatting
    unless isBlankText content do forbidFrameset
    addText content
    return .done
  | .opening tag => openInBody tag
  | .closing name => closeInBody name
  | .finish => do
    if (← get).templates.isEmpty then return .done else return .asIn .inTemplate .finish
  | .null | .comment | .doctype _ => return .done

end PageWatch.Markup.Build
