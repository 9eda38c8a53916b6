import PageWatch.Markup.Builder.Table

/-!
# Drawings and formulas

What a token means inside a drawing or a formula. There the names of elements are
other ones, and the tags of a page's elements end it.
-/

namespace PageWatch.Markup.Build

open Vocabulary

/-- Whether a token falls under the rules of the drawing or formula whose element is
the innermost open one. -/
def isForeign (token : Token) (name : ElementName) : Bool :=
  if name.space == .html then false
  else
    match token with
    | .finish => false
    | .text _ | .null => !isTextOfFormula name && !isPageInDrawing name
    | .opening tag =>
      !(isTextOfFormula name && tag.name != "mglyph" && tag.name != "malignmark") &&
        !isPageInDrawing name &&
        !(name == ⟨.mathml, "annotation-xml"⟩ && tag.name == "svg")
    | _ => true

/-- Ends a drawing or a formula before a page's tag. -/
def leaveForeign (token : Token) : Build Next := do
  modifyStack fun stack => stack.dropWhile fun element =>
    !(element.name.space == .html || isTextOfFormula element.name ||
      isPageInDrawing element.name)
  return .asIn (← get).mode token

/-- The rules for an opening tag inside a drawing or a formula. -/
def openInForeign (tag : Tag) : Build Next := do
  let styled := ["color", "face", "size"].any fun name => (tag.attribute? name).isSome
  if leavesForeign.contains tag.name || (tag.name == "font" && styled) then
    leaveForeign (.opening tag)
  else
    let space := ((← current?).map (·.name.space)).getD .html
    let name := if space == .svg then respell drawingTags tag.name else tag.name
    openForeign space { tag with name }
    return .done

/-- What a closing tag closes inside a drawing or a formula: the elements that stay
open, or nothing if the page's own rules apply. -/
def closeInForeign (tag : String) (isFirst : Bool) (whole : List Open) :
    List Open → Option (List Open)
  | [] | [_] => some whole
  | element :: rest =>
    if !isFirst && element.name.space == .html then none
    else if element.name.tag.map Char.toLower == tag then some rest
    else closeInForeign tag false whole rest

/-- The rules inside a drawing or a formula. -/
def inForeign : Token → Build Next
  | .null => do
    addText [Reference.replacement]
    return .done
  | .text content => do
    unless isBlankText content do forbidFrameset
    addText content
    return .done
  | .opening tag => openInForeign tag
  | .closing name => do
    if name == "br" || name == "p" then leaveForeign (.closing name)
    else
      let stack := (← get).stack
      match closeInForeign name true stack stack with
      | some rest =>
        modifyStack fun _ => rest
        return .done
      | none => return .asIn (← get).mode (.closing name)
  | .comment | .doctype _ | .finish => return .done

end PageWatch.Markup.Build
