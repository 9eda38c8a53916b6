import PageWatch.Markup.Builder.State

/-!
# Formatting

Formatting goes on across the ends of other elements: after `<p><b>one</p>two` the
second text is bold as well. Elements whose tags overlap are taken apart so that the
tree keeps the look that the tags ask for.
-/

namespace PageWatch.Markup.Build

def modifyFormatting (change : List Format → List Format) : Build Unit :=
  modify fun state => { state with formatting := change state.formatting }

/-- Starts a part of the page that formatting does not cross. -/
def markFormatting : Build Unit := modifyFormatting (.marker :: ·)

/-- Ends the formatting of the innermost part. -/
def clearFormatting : Build Unit :=
  modifyFormatting fun entries =>
    (entries.dropWhile fun
      | .marker => false
      | .element .. => true).drop 1

/-- The formatting of the innermost part, latest first. -/
def innerFormatting (entries : List Format) : List (Nat × Tag) :=
  match entries with
  | .element node tag :: rest => (node, tag) :: innerFormatting rest
  | _ => []

def removeFormat (node : Nat) : Build Unit :=
  modifyFormatting (·.filter fun entry => !entry.isFor node)

/-- Whether two tags ask for the same element. -/
def sameTag (first second : Tag) : Bool :=
  first.name == second.name && first.attributes.length == second.attributes.length &&
    first.attributes.all second.attributes.contains

/-- Opens an element that formats what follows. Of more than three alike the earliest
no longer counts. -/
def openFormatting (tag : Tag) : Build Unit := do
  let alike := (innerFormatting (← get).formatting).filter fun (_, other) => sameTag tag other
  if 3 ≤ alike.length then
    match alike.getLast? with
    | some (node, _) => removeFormat node
    | none => pure ()
  let element ← openElement ⟨.html, tag.name⟩ tag.attributes
  modifyFormatting (.element element.node tag :: ·)

/-- The formatting whose elements have been closed, latest first, and the rest. -/
def splitClosed (stack : List Open) : List Format → List Tag × List Format
  | [] => ([], [])
  | .marker :: rest => ([], .marker :: rest)
  | .element node tag :: rest =>
    if stack.any (·.node == node) then ([], .element node tag :: rest)
    else
      let (closed, kept) := splitClosed stack rest
      (tag :: closed, kept)

/-- Opens again, outermost first, the elements whose formatting is still in force. -/
def resumeFormatting : Build Unit := do
  let state ← get
  let (closed, kept) := splitClosed state.stack state.formatting
  unless closed.isEmpty do
    modifyFormatting fun _ => kept
    for tag in closed.reverse do
      let element ← openElement ⟨.html, tag.name⟩ tag.attributes
      modifyFormatting (.element element.node tag :: ·)

/-- Closes the innermost element of that tag and all inside it, unless an element in
between stops that. -/
def closeAny (tag : String) : Build Unit := do
  let stack := (← get).stack
  let stops (element : Open) : Bool :=
    element.name.isHtml tag || element.name.isHtmlIn Vocabulary.special
  match stack.find? stops with
  | some element =>
    if element.name.isHtml tag then
      modifyStack fun stack => (stack.dropWhile (·.node != element.node)).drop 1
  | none => pure ()

/-- Rebuilds the elements between a block and the formatting element around it, from
the inside out: those that format are copied around the block, the others are closed.
Answers the copies, innermost first, the outermost node of the branch so built, and
the copy after which the new formatting counts. -/
def rebuildBetween (block : Nat) :
    List Open → Nat → List Open → Nat → Option Nat → Build (List Open × Nat × Option Nat)
  | [], _, kept, outermost, after => return (kept.reverse, outermost, after)
  | element :: rest, count, kept, outermost, after => do
    let entry? := (← get).formatting.findSome? fun
      | .element node tag => if node == element.node then some tag else none
      | .marker => none
    match entry? with
    | none => rebuildBetween block rest (count + 1) kept outermost after
    | some tag =>
      if 3 < count then
        removeFormat element.node
        rebuildBetween block rest (count + 1) kept outermost after
      else
        let name : ElementName := ⟨.html, tag.name⟩
        let copy ← create (.element ⟨name, tag.attributes⟩)
        modifyFormatting (·.map fun entry =>
          if entry.isFor element.node then .element copy tag else entry)
        let after := if outermost == block then some copy else after
        modifyTree (·.append copy outermost)
        rebuildBetween block rest (count + 1) (⟨copy, name⟩ :: kept) copy after

/-- Puts a new entry for a formatting element in the place of its old one, or right
after the entry of a copy. -/
def placeFormat (old : Nat) (entry : Format) (after : Option Nat) : Build Unit :=
  match after with
  | none => modifyFormatting (·.map fun other => if other.isFor old then entry else other)
  | some copy =>
    modifyFormatting fun entries =>
      (entries.filter fun other => !other.isFor old).flatMap fun other =>
        if other.isFor copy then [entry, other] else [other]

/-- Closes a formatting element whose content overlaps others, once. Answers whether
another round may be needed. -/
def closeFormattingOnce (subject : String) : Build Bool := do
  let state ← get
  let entry? := (innerFormatting state.formatting).find? fun (_, tag) => tag.name == subject
  match entry? with
  | none =>
    closeAny subject
    return false
  | some (node, tag) =>
    unless state.stack.any (·.node == node) do
      removeFormat node
      return false
    unless reaches Vocabulary.boundsScope (·.node == node) state.stack do
      return false
    let inner := state.stack.takeWhile (·.node != node)
    let outer := (state.stack.dropWhile (·.node != node)).drop 1
    let between := (inner.reverse.takeWhile fun element =>
      !element.name.isHtmlIn Vocabulary.special).reverse
    match (inner.take (inner.length - between.length)).reverse, outer.head? with
    | block :: above, some ancestor =>
      let (kept, outermost, after) ←
        rebuildBetween block.node between 1 [] block.node none
      modifyTree (·.detach outermost)
      let spot ← spotIn ancestor
      modifyTree (·.put spot outermost)
      let name : ElementName := ⟨.html, tag.name⟩
      let copy ← create (.element ⟨name, tag.attributes⟩)
      modifyTree (·.moveChildren block.node copy)
      modifyTree (·.append block.node copy)
      placeFormat node (.element copy tag) after
      modifyStack fun _ => above.reverse ++ [⟨copy, name⟩, block] ++ kept ++ outer
      return true
    | _, _ =>
      modifyStack fun _ => outer
      removeFormat node
      return false

/-- Repeats a round as long as it asks for another. -/
def rounds (round : Build Bool) : Nat → Build Unit
  | 0 => pure ()
  | count + 1 => do
    if ← round then rounds round count

/-- Closes a formatting element whose content may overlap others. -/
def closeFormatting (subject : String) : Build Unit := do
  let state ← get
  match state.stack with
  | element :: _ =>
    if element.name.isHtml subject && !state.formatting.any (·.isFor element.node) then pop
    else rounds (closeFormattingOnce subject) 8
  | [] => rounds (closeFormattingOnce subject) 8

end PageWatch.Markup.Build
