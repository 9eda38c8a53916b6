import Mathlib.Data.List.Basic
import PageWatch.Page.Snapshot
import PageWatch.Proofs.Markup.DocumentOrder

/-!
# The last write counts

What a document answers can be told from the calls that came before: the source that was loaded
last, and what has been typed since.  An element that something can be typed into has the text
that was typed last through a selector that matches it, or else the value that the markup gives
it.  The document itself keeps typed texts by position and finds the values of its controls in an
outline; the elements that are told of here are those of the tree that was loaded.
-/

namespace PageWatch.Snapshot

open Markup

/-! ## Calls and their answers -/

/-- Something that is asked of a document. -/
inductive Call where
  | load (source : String)
  | setValue (selector text : String)
  | select (selector : String)

/-- What a document answers. -/
inductive Answer where
  | loaded
  | updated (controls : Nat)
  | found (nodes : List Match)
  | failed (error : QueryError)

def answer (call : Call) (document : Snapshot) : Answer × Snapshot :=
  match call with
  | .load source => (.loaded, document.load source)
  | .setValue selector text =>
    match document.setValue selector text with
    | .ok (controls, document) => (.updated controls, document)
    | .error error => (.failed error, document)
  | .select selector =>
    match document.select selector with
    | .ok nodes => (.found nodes, document)
    | .error error => (.failed error, document)

/-- The document that was parsed first, after the calls that came since, the latest first. -/
def after (first : String) : List Call → Snapshot
  | [] => parse first
  | call :: past => ((after first past).answer call).2

/-! ## What the calls tell -/

/-- The source that was loaded last. -/
def lastSource (first : String) : List Call → String
  | [] => first
  | .load source :: _ => source
  | _ :: past => lastSource first past

/-- The selectors and texts that were typed since the last load, the latest first. -/
def typing : List Call → List (String × String)
  | [] | .load _ :: _ => []
  | .setValue selector text :: past => (selector, text) :: typing past
  | .select _ :: past => typing past

/-- Whether a selector matches the element at a position.  One that is not valid matches none. -/
def hits (nodes : List Node) (selector : String) (position : Nat) : Bool :=
  match Selector.parse selector with
  | .ok selectors => Selector.Complex.someHold (Outline.ofNodes nodes) none [position] selectors
  | .error _ => false

/-- The elements that a selector matches, in document order, each with its position. -/
def matched (nodes : List Node) (selector : String) :
    Except QueryError (List ((Element × List Node) × Nat)) :=
  match Selector.parse selector with
  | .ok _ =>
    .ok ((Node.elementsOfAll nodes).zipIdx.filter fun found => hits nodes selector found.2)
  | .error fault => .error (.invalidSelector selector fault.message)

/-- Whether an element takes text: it is an input, a text area or a selection. -/
def takesText (own : Element) : Bool :=
  own.name.tag = "input" ∨ own.name.tag = "textarea" ∨ own.name.tag = "select"

/-- The text that an option stands for: its value, or else its content without the blanks around
it. -/
def optionText : Element × List Node → String
  | (own, children) =>
    (own.attribute? "value").getD (String.ofList (Text.trim (Node.contents children).toList))

/-- The value that the markup gives an element. -/
def markupValue? : Element × List Node → Option String
  | (own, children) =>
    match own.name.tag with
    | "input" => some ((own.attribute? "value").getD "")
    | "textarea" => some (Node.contents children)
    | "select" =>
      let options := (Node.elementsOfAll children).filter (·.1.name.tag == "option")
      ((options.find? fun option => (option.1.attribute? "selected").isSome).or
        options.head?).map optionText
    | _ => none

/-- The value of the element at a position: of one that takes text the last text that was typed
into it, or else what the markup gives it. -/
def currentValue? (nodes : List Node) (typing : List (String × String)) (position : Nat)
    (found : Element × List Node) : Option String :=
  if takesText found.1 then
    match typing.find? fun typed => hits nodes typed.1 position with
    | some typed => some typed.2
    | none => markupValue? found
  else none

/-- The answer to a call on a document with these nodes, when this has been typed into it. -/
def expected (nodes : List Node) (typing : List (String × String)) : Call → Answer
  | .load _ => .loaded
  | .setValue selector _ =>
    match matched nodes selector with
    | .ok found => .updated (found.countP fun found => takesText found.1.1)
    | .error error => .failed error
  | .select selector =>
    match matched nodes selector with
    | .ok found =>
      .found (found.map fun found =>
        ⟨found.1.1.name.tag, currentValue? nodes typing found.2 found.1⟩)
    | .error error => .failed error

/-! ## Values of the markup -/

section Markup

variable {nodes : List Node} {position : Nat} {entry : Placed} {own : Element}
  {children : List Node}

theorem entry_of_element (found : (Node.elementsOfAll nodes)[position]? = some (own, children)) :
    ∃ entry, (Outline.ofNodes nodes).entries[position]? = some entry ∧ entry.element = own ∧
      entry.size = Outline.countAll children ∧ entry.content = Node.contents children := by
  have here := congrArg (·[position]?) (Outline.shown_ofNodes nodes)
  simp only [List.getElem?_map, found, Option.map_some, Array.getElem?_toList] at here
  obtain ⟨entry, entryHere, shown⟩ := Option.map_eq_some_iff.mp here
  simp only [Outline.shown, Outline.described, Prod.mk.injEq] at shown
  exact ⟨entry, entryHere, shown⟩

theorem entry_of_no_element (none : (Node.elementsOfAll nodes)[position]? = none) :
    (Outline.ofNodes nodes).entries[position]? = .none := by
  have here := congrArg (·[position]?) (Outline.shown_ofNodes nodes)
  simpa [none] using here

/-- What is a control for the document takes text. -/
theorem isControl_eq (own : Element) : isControl own = takesText own := by
  simp [isControl, takesText, Bool.decide_or]

/-- The text of the option that counts, told from what entries show. -/
def chosenText? (options : List (Element × Nat × String)) : Option String :=
  ((options.find? fun option => (option.1.attribute? "selected").isSome).or options.head?).map
    fun option => (option.1.attribute? "value").getD (String.ofList (Text.trim option.2.2.toList))

theorem chosenOption?_eq (options : List Placed) :
    (chosenOption? options).map optionValue = chosenText? (options.map Outline.shown) := by
  have value_eq (option : Placed) : optionValue option = (option.element.attribute? "value").getD
      (String.ofList (Text.trim option.content.toList)) := by
    rw [optionValue]
    cases option.element.attribute? "value" <;> rfl
  have choice_eq : chosenOption? options =
      (options.find? fun option => (option.element.attribute? "selected").isSome).or
        options.head? := by
    rw [chosenOption?]
    cases options.find? fun option => (option.element.attribute? "selected").isSome <;> rfl
  rw [choice_eq, chosenText?, List.find?_map, List.head?_map, ← Option.map_or, Option.map_map]
  exact congrArg (Option.map · _) (funext value_eq)

theorem markupValue?_select (tag : own.name.tag = "select") :
    markupValue? (own, children) =
      chosenText? (((Node.elementsOfAll children).filter (·.1.name.tag == "option")).map
        Outline.described) := by
  simp only [markupValue?, tag]
  rw [chosenText?, List.find?_map, List.head?_map, ← Option.map_or, Option.map_map]
  rfl

/-- An outline gives a form control the value that the tree gives it. -/
theorem givenValue?_eq (found : (Node.elementsOfAll nodes)[position]? = some (own, children))
    (element_eq : entry.element = own) (size_eq : entry.size = Outline.countAll children)
    (content_eq : entry.content = Node.contents children) :
    givenValue? (Outline.ofNodes nodes) position entry = markupValue? (own, children) := by
  by_cases select : own.name.tag = "select"
  · have listed : (Outline.inside position entry).filterMap (fun position =>
        (Outline.ofNodes nodes).entries[position]?.filter fun inner =>
          inner.element.name.tag == "option") =
        ((Outline.inside position entry).filterMap ((Outline.ofNodes nodes).entries[·]?)).filter
          fun inner => inner.element.name.tag == "option" :=
      List.filter_filterMap.symm
    have options := congrArg (List.filter fun option => option.1.name.tag == "option")
      (Outline.shown_inside found size_eq)
    rw [List.filter_map, List.filter_map] at options
    simp only [givenValue?, element_eq, select]
    rw [markupValue?_select select, chosenOption?_eq, listed]
    exact congrArg chosenText? options
  · simp only [givenValue?, markupValue?, element_eq, content_eq]
    split <;> simp_all

theorem markupValue?_eq_none (other : takesText own = false) :
    markupValue? (own, children) = none := by
  simp only [takesText, decide_eq_false_iff_not, not_or] at other
  simp only [markupValue?]
  split <;> simp_all

end Markup

/-! ## What is remembered -/

/-- A document with these nodes, into which this has been typed. -/
structure Recalls (document : Snapshot) (nodes : List Node) (typing : List (String × String)) :
    Prop where
  outline_eq : document.outline = Outline.ofNodes nodes
  typed_eq : ∀ position, document.typedAt? position =
    if document.isControlAt position then
      (typing.find? fun typed => hits nodes typed.1 position).map Prod.snd
    else none

namespace Recalls

variable {document : Snapshot} {nodes : List Node} {typing : List (String × String)}
  {position : Nat} {found : Element × List Node}

theorem parse (source : String) : (Snapshot.parse source).Recalls (Markup.parse source) [] where
  outline_eq := rfl
  typed_eq _ := (ite_self none).symm

theorem isControlAt_eq (recalls : document.Recalls nodes typing)
    (here : (Node.elementsOfAll nodes)[position]? = some found) :
    document.isControlAt position = takesText found.1 := by
  obtain ⟨own, children⟩ := found
  obtain ⟨entry, entryHere, element_eq, -⟩ := entry_of_element here
  rw [isControlAt, recalls.outline_eq, entryHere, Option.any_some, element_eq, isControl_eq]

/-- What a query answers for the element at a position. -/
theorem match?_eq (recalls : document.Recalls nodes typing)
    (here : (Node.elementsOfAll nodes)[position]? = some found) :
    document.match? position =
      some ⟨found.1.name.tag, currentValue? nodes typing position found⟩ := by
  obtain ⟨own, children⟩ := found
  obtain ⟨entry, entryHere, element_eq, size_eq, content_eq⟩ := entry_of_element here
  have given := givenValue?_eq here element_eq size_eq content_eq
  have value_eq : document.value? position entry =
      currentValue? nodes typing position (own, children) := by
    rw [value?, recalls.typed_eq, recalls.isControlAt_eq here, recalls.outline_eq, given,
      currentValue?]
    cases control : takesText own with
    | false => exact markupValue?_eq_none control
    | true => cases typing.find? fun typed => hits nodes typed.1 position <;> rfl
  rw [match?, recalls.outline_eq, entryHere, Option.map_some, element_eq, value_eq]

/-! ## Queries -/

/-- A selector leads to the positions of the elements that it matches. -/
theorem positions_eq (recalls : document.Recalls nodes typing) (selector : String) :
    document.positions selector = (matched nodes selector).map (List.map Prod.snd) := by
  rw [positions, matched, recalls.outline_eq]
  cases parsed : Selector.parse selector with
  | error fault => rfl
  | ok selectors =>
      have hits_eq : hits nodes selector = fun position =>
          Selector.Complex.someHold (Outline.ofNodes nodes) none [position] selectors := by
        funext position
        simp only [hits, parsed]
      refine congrArg Except.ok ?_
      calc Selector.matching selectors (Outline.ofNodes nodes)
          = (((Node.elementsOfAll nodes).zipIdx.map Prod.snd).filter (hits nodes selector)) := by
            rw [List.zipIdx_map_snd, hits_eq, Selector.matching, Outline.size_ofNodes,
              List.range_eq_range']
        _ = _ := List.filter_map

theorem mem_matched {selector : String} {elements : List ((Element × List Node) × Nat)}
    (valid : matched nodes selector = .ok elements) {placed : (Element × List Node) × Nat} :
    placed ∈ elements ↔ (Node.elementsOfAll nodes)[placed.2]? = some placed.1 ∧
      hits nodes selector placed.2 = true := by
  rw [matched] at valid
  split at valid
  next =>
    obtain rfl := Except.ok.inj valid
    rw [List.mem_filter, List.mem_zipIdx_iff_getElem?]
  next => exact nomatch valid

/-- A query answers one node for each element that the selector matches. -/
theorem select_eq (recalls : document.Recalls nodes typing) (selector : String) :
    document.select selector = (matched nodes selector).map (List.map fun found =>
      ⟨found.1.1.name.tag, currentValue? nodes typing found.2 found.1⟩) := by
  rw [select, recalls.positions_eq]
  cases valid : matched nodes selector with
  | error error => rfl
  | ok elements =>
      refine congrArg Except.ok ?_
      rw [List.filterMap_map, ← List.filterMap_eq_map]
      refine List.filterMap_congr fun placed member => ?_
      exact recalls.match?_eq ((mem_matched valid).mp member).1

/-! ## Writes -/

/-- The form controls that a selector leads to. -/
theorem controls_eq (recalls : document.Recalls nodes typing) {selector : String}
    {elements : List ((Element × List Node) × Nat)}
    (valid : matched nodes selector = .ok elements) :
    (elements.map Prod.snd).filter (document.isControlAt ·) =
      (elements.filter fun placed => takesText placed.1.1).map Prod.snd := by
  rw [List.filter_map]
  refine congrArg (List.map Prod.snd) (List.filter_congr fun placed member => ?_)
  exact recalls.isControlAt_eq ((mem_matched valid).mp member).1

theorem setValue_eq (recalls : document.Recalls nodes typing) (selector text : String) :
    document.setValue selector text = (matched nodes selector).map fun elements =>
      let controls := (elements.filter fun placed => takesText placed.1.1).map Prod.snd
      (controls.length, document.type controls text) := by
  rw [setValue, recalls.positions_eq]
  cases valid : matched nodes selector with
  | error error => rfl
  | ok elements =>
      have controls := recalls.controls_eq valid
      exact congrArg (fun controls => Except.ok (controls.length, document.type controls text))
        controls

theorem isControlAt_type (positions : List Nat) (text : String) (position : Nat) :
    (document.type positions text).isControlAt position = document.isControlAt position := rfl

/-- What is a control is an element. -/
theorem exists_element (recalls : document.Recalls nodes typing)
    (control : document.isControlAt position = true) :
    ∃ found, (Node.elementsOfAll nodes)[position]? = some found := by
  refine Option.ne_none_iff_exists'.mp fun none => ?_
  rw [isControlAt, recalls.outline_eq, entry_of_no_element none] at control
  exact nomatch control

/-- Typing somewhere changes what has been typed there, and nowhere else. -/
theorem typedAt?_type (positions : List Nat) (text : String) (position : Nat) :
    (document.type positions text).typedAt? position =
      if position ∈ positions then some text else document.typedAt? position := by
  suffices typed : ∀ typed : List (Nat × String),
      (positions.foldl (fun typed position => (position, text) :: typed) typed).lookup position =
        if position ∈ positions then some text else typed.lookup position from typed document.typed
  induction positions with
  | nil => simp
  | cons first positions ih =>
      intro typed
      rw [List.foldl_cons, ih, List.lookup_cons]
      by_cases same : position = first
      · simp [same]
      · simp [same, beq_eq_false_iff_ne.mpr same]

/-- Nothing is typed through a selector that is not valid. -/
theorem typed_invalid (recalls : document.Recalls nodes typing) {selector : String}
    {error : QueryError} (invalid : matched nodes selector = .error error) (text : String) :
    document.Recalls nodes ((selector, text) :: typing) where
  outline_eq := recalls.outline_eq
  typed_eq position := by
    have missed : hits nodes selector position = false := by
      rw [matched] at invalid
      split at invalid
      next => exact nomatch invalid
      next parsed => simp only [hits, parsed]
    rw [recalls.typed_eq, List.find?_cons_of_neg (by simp [missed])]

/-- What is typed through a selector is remembered of the controls that it matches. -/
theorem typed (recalls : document.Recalls nodes typing) {selector : String}
    {elements : List ((Element × List Node) × Nat)}
    (valid : matched nodes selector = .ok elements) (text : String) :
    (document.type ((elements.filter fun placed => takesText placed.1.1).map Prod.snd) text).Recalls
      nodes ((selector, text) :: typing) where
  outline_eq := recalls.outline_eq
  typed_eq position := by
    rw [typedAt?_type, isControlAt_type, ← recalls.controls_eq valid, recalls.typed_eq]
    cases control : document.isControlAt position with
    | false => simp [control]
    | true =>
        obtain ⟨found, here⟩ := recalls.exists_element control
        have member : position ∈ (elements.map Prod.snd).filter (document.isControlAt ·) ↔
            hits nodes selector position = true := by
          rw [List.mem_filter, List.mem_map]
          constructor
          · rintro ⟨⟨placed, placedMem, rfl⟩, -⟩
            exact ((mem_matched valid).mp placedMem).2
          · intro hit
            exact ⟨⟨(found, position), (mem_matched valid).mpr ⟨here, hit⟩, rfl⟩, control⟩
        by_cases hit : hits nodes selector position = true
        · rw [if_pos (member.mpr hit), if_pos rfl]
          simp [hit]
        · rw [if_neg (mt member.mp hit), if_pos rfl, if_pos rfl]
          simp [hit]

/-- The calls that came before tell what a document remembers. -/
theorem after (first : String) (past : List Call) :
    (Snapshot.after first past).Recalls (Markup.parse (lastSource first past))
      (Snapshot.typing past) := by
  induction past with
  | nil => exact parse first
  | cons call past ih =>
      cases call with
      | load source => exact parse source
      | setValue selector text =>
          have answered := ih.setValue_eq selector text
          rw [Snapshot.after, answer, answered]
          cases valid : matched (Markup.parse (lastSource first past)) selector with
          | error error => exact ih.typed_invalid valid text
          | ok elements => exact ih.typed valid text
      | select selector =>
          rw [Snapshot.after, answer]
          split <;> exact ih

/-- A document answers what is expected of it. -/
theorem answer_eq (recalls : document.Recalls nodes typing) (call : Call) :
    (document.answer call).1 = expected nodes typing call := by
  cases call with
  | load source => rfl
  | setValue selector text =>
      rw [answer, recalls.setValue_eq, expected]
      cases matched nodes selector with
      | error error => rfl
      | ok elements => simp [Except.map, List.countP_eq_length_filter]
  | select selector =>
      rw [answer, recalls.select_eq, expected]
      cases matched nodes selector <;> rfl

end Recalls

/-- The last write counts.  After any calls, a document answers what the source that was loaded
last and the texts that were typed since let one expect.  Only loading changes which elements a
selector matches; a call that fails changes nothing; and a document that has been loaded is like
one that was parsed at first. -/
theorem answers_lastWrite (first : String) (past : List Call) (call : Call) :
    let document := after first past
    (document.answer call).1 = expected (Markup.parse (lastSource first past)) (typing past) call ∧
      (∀ selector text other,
        (document.answer (.setValue selector text)).2.positions other = document.positions other) ∧
      (∀ error, (document.answer call).1 = .failed error → (document.answer call).2 = document) ∧
      ∀ source, (document.answer (.load source)).2 = parse source := by
  intro document
  have recalls := Recalls.after first past
  refine ⟨recalls.answer_eq call, fun selector text other => ?_, fun error failed => ?_,
    fun source => rfl⟩
  · have answered := recalls.setValue_eq selector text
    rw [answer, answered]
    cases matched (Markup.parse (lastSource first past)) selector <;> rfl
  · cases call with
    | load source => exact nomatch failed
    | setValue selector text =>
        rw [answer] at failed ⊢
        cases answered : document.setValue selector text with
        | ok changed => simp [answered] at failed
        | error other => rfl
    | select selector =>
        rw [answer]
        split <;> rfl

end PageWatch.Snapshot
