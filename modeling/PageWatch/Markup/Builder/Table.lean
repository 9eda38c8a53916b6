import PageWatch.Markup.Builder.Body

/-!
# Tables and lists of options

What a token means inside a table, which holds only its own parts, and inside a list
of options.
-/

namespace PageWatch.Markup.Build

open Vocabulary

/-- Treats a token by the rules of the body, and puts in front of the table what the
table cannot hold. -/
def fosterInBody (token : Token) : Build Next := do
  modify fun state => { state with fostering := true }
  let next ← inBody token
  modify fun state => { state with fostering := false }
  return next

/-! ## Tables -/

/-- The rules for text inside a table. Its place depends on the text that follows. -/
def textInTable (token : Token) : Build Next := do
  if ← currentIsIn tableFrames then
    modify fun state => { state with resume := state.mode }
    return .again .inTableText token
  else fosterInBody token

def openInTable (tag : Tag) : Build Next := do
  match tag.name with
  | "caption" =>
    popTo ["table", "template", "html"]
    markFormatting
    openTag tag
    setMode .inCaption
    return .done
  | "colgroup" =>
    popTo ["table", "template", "html"]
    openTag tag
    setMode .inColumnGroup
    return .done
  | "col" =>
    popTo ["table", "template", "html"]
    discard <| openImplied "colgroup"
    return .again .inColumnGroup (.opening tag)
  | "tbody" | "tfoot" | "thead" =>
    popTo ["table", "template", "html"]
    openTag tag
    setMode .inTableBody
    return .done
  | "td" | "th" | "tr" =>
    popTo ["table", "template", "html"]
    discard <| openImplied "tbody"
    return .again .inTableBody (.opening tag)
  | "table" =>
    if ← tagInScope boundsTableScope "table" then
      popThroughTag "table"
      return .again (← properMode) (.opening tag)
    else return .done
  | "style" | "script" | "template" => inHead (.opening tag)
  | "input" =>
    if isHidden tag then
      addTag tag
      return .done
    else fosterInBody (.opening tag)
  | "form" =>
    if !(← isOpen "template") && (← get).form.isNone then
      let element ← addElement ⟨.html, tag.name⟩ tag.attributes
      modify fun state => { state with form := some element.node }
    return .done
  | _ => fosterInBody (.opening tag)

def inTable : Token → Build Next
  | .text content => textInTable (.text content)
  | .null => textInTable .null
  | .opening tag => openInTable tag
  | .closing name => do
    if name == "table" then
      if ← tagInScope boundsTableScope "table" then
        popThroughTag "table"
        setMode (← properMode)
      return .done
    else if name == "body" || name == "html" || tableParts.contains name then return .done
    else if name == "template" then inHead (.closing name)
    else fosterInBody (.closing name)
  | .finish => inBody .finish
  | .comment | .doctype _ => return .done

/-- The rules of text inside a table: all of it stays there if it is blank, and all of
it goes in front of the table if not. -/
def inTableText : Token → Build Next
  | .null => return .done
  | .text content => do
    modify fun state => { state with tableText := content :: state.tableText }
    return .done
  | token => do
    let state ← get
    modify fun state => { state with tableText := [] }
    let pending := state.tableText.reverse
    if pending.all isBlankText then
      for content in pending do addText content
    else
      for content in pending do discard <| fosterInBody (.text content)
    return .again state.resume token

def inCaption (token : Token) : Build Next := do
  let ends (byItself : Bool) : Build Next := do
    if ← closeInScope boundsTableScope "caption" then
      clearFormatting
      if byItself then
        setMode .inTable
        return .done
      else return .again .inTable token
    else return .done
  match token with
  | .opening tag => if tableParts.contains tag.name then ends false else inBody token
  | .closing name =>
    if name == "caption" then ends true
    else if name == "table" then ends false
    else if name == "body" || name == "html" || tableParts.contains name then return .done
    else inBody token
  | _ => inBody token

def inColumnGroup (token : Token) : Build Next := do
  let leave : Build Next := do
    if ← currentIs "colgroup" then
      pop
      return .again .inTable token
    else return .done
  match token with
  | .text content =>
    if isBlankText content then
      addText content
      return .done
    else leave
  | .opening tag =>
    match tag.name with
    | "html" => inBody token
    | "col" =>
      addTag tag
      return .done
    | "template" => inHead token
    | _ => leave
  | .closing name =>
    match name with
    | "colgroup" =>
      if ← currentIs "colgroup" then
        pop
        setMode .inTable
      return .done
    | "col" => return .done
    | "template" => inHead token
    | _ => leave
  | .finish => inBody token
  | .comment | .doctype _ => return .done
  | .null => leave

/-- The rules of a group of rows. -/
def inTableBody (token : Token) : Build Next := do
  let leave : Build Next := do
    if ← inScope boundsTableScope (·.name.isHtmlIn ["table", "tbody", "tfoot"]) then
      popTo ["tbody", "tfoot", "thead", "template", "html"]
      pop
      return .again .inTable token
    else return .done
  match token with
  | .opening tag =>
    match tag.name with
    | "tr" =>
      popTo ["tbody", "tfoot", "thead", "template", "html"]
      openTag tag
      setMode .inRow
      return .done
    | "th" | "td" =>
      popTo ["tbody", "tfoot", "thead", "template", "html"]
      discard <| openImplied "tr"
      return .again .inRow token
    | "caption" | "col" | "colgroup" | "tbody" | "tfoot" | "thead" => leave
    | _ => inTable token
  | .closing name =>
    if rowGroups.contains name then
      if ← tagInScope boundsTableScope name then
        popTo ["tbody", "tfoot", "thead", "template", "html"]
        pop
        setMode .inTable
      return .done
    else if name == "table" then leave
    else if name == "body" || name == "html" || tableParts.contains name then return .done
    else inTable token
  | _ => inTable token

def inRow (token : Token) : Build Next := do
  let leave : Build Next := do
    if ← tagInScope boundsTableScope "tr" then
      popTo ["tr", "template", "html"]
      pop
      return .again .inTableBody token
    else return .done
  match token with
  | .opening tag =>
    if tag.name == "th" || tag.name == "td" then
      popTo ["tr", "template", "html"]
      openTag tag
      setMode .inCell
      markFormatting
      return .done
    else if tableParts.contains tag.name then leave
    else inTable token
  | .closing name =>
    if name == "tr" then
      if ← tagInScope boundsTableScope "tr" then
        popTo ["tr", "template", "html"]
        pop
        setMode .inTableBody
      return .done
    else if name == "table" then leave
    else if rowGroups.contains name then
      if ← tagInScope boundsTableScope name then leave else return .done
    else if name == "body" || name == "html" || tableParts.contains name then return .done
    else inTable token
  | _ => inTable token

def inCell (token : Token) : Build Next := do
  let leave : Build Next := do
    closeImplied impliedEnds
    popThrough (·.isHtmlIn ["td", "th"])
    clearFormatting
    return .again .inRow token
  match token with
  | .opening tag =>
    if tableParts.contains tag.name then
      if ← inScope boundsTableScope (·.name.isHtmlIn ["td", "th"]) then leave
      else return .done
    else inBody token
  | .closing name =>
    if name == "td" || name == "th" then
      if ← closeInScope boundsTableScope name then
        clearFormatting
        setMode .inRow
      return .done
    else if ["table", "tbody", "tfoot", "thead", "tr"].contains name then
      if ← tagInScope boundsTableScope name then leave else return .done
    else if name == "body" || name == "html" || tableParts.contains name then return .done
    else inBody token
  | _ => inBody token

/-! ## Lists of options -/

/-- The rules of a list of options. -/
def inSelect (token : Token) : Build Next := do
  let popIf (tag : String) : Build Unit := do
    if ← currentIs tag then pop
  match token with
  | .text content =>
    addText content
    return .done
  | .opening tag =>
    match tag.name with
    | "html" => inBody token
    | "option" =>
      popIf "option"
      openTag tag
      return .done
    | "optgroup" =>
      popIf "option"
      popIf "optgroup"
      openTag tag
      return .done
    | "hr" =>
      popIf "option"
      popIf "optgroup"
      addTag tag
      return .done
    | "select" =>
      if ← tagInScope boundsOptionScope "select" then
        popThroughTag "select"
        setMode (← properMode)
      return .done
    | "input" | "keygen" | "textarea" =>
      if ← tagInScope boundsOptionScope "select" then
        popThroughTag "select"
        return .again (← properMode) token
      else return .done
    | "script" | "template" => inHead token
    | _ => return .done
  | .closing name =>
    match name with
    | "optgroup" =>
      match (← get).stack with
      | first :: second :: _ =>
        if first.name.isHtml "option" && second.name.isHtml "optgroup" then pop
      | _ => pure ()
      popIf "optgroup"
      return .done
    | "option" =>
      popIf "option"
      return .done
    | "select" =>
      if ← tagInScope boundsOptionScope "select" then
        popThroughTag "select"
        setMode (← properMode)
      return .done
    | "template" => inHead token
    | _ => return .done
  | .finish => inBody token
  | .comment | .doctype _ | .null => return .done

/-- The rules of a list of options inside a table, which the table's tags end. -/
def inSelectInTable (token : Token) : Build Next := do
  let parts := ["caption", "table", "tbody", "tfoot", "thead", "tr", "td", "th"]
  let leave : Build Next := do
    popThroughTag "select"
    return .again (← properMode) token
  match token with
  | .opening tag => if parts.contains tag.name then leave else inSelect token
  | .closing name =>
    if parts.contains name then
      if ← tagInScope boundsTableScope name then leave else return .done
    else inSelect token
  | _ => inSelect token

end PageWatch.Markup.Build
