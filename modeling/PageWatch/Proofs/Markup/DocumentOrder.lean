import PageWatch.Markup.Outline

/-!
# Document order

The elements of a tree in document order, each with its children.  An outline has one entry for
each of them, in the same order, so the position of an entry names an element of the tree; and the
positions inside an entry name the elements below that element.
-/

namespace PageWatch.Markup

namespace Node

mutual

/-- The elements of a node in document order, each with its children. -/
def elements : Node → List (Element × List Node)
  | .text _ => []
  | .element own children => (own, children) :: elementsOfAll children

/-- The elements of several nodes in document order, each with its children. -/
def elementsOfAll : List Node → List (Element × List Node)
  | [] => []
  | node :: nodes => node.elements ++ elementsOfAll nodes

end

mutual

theorem length_elements (node : Node) : node.elements.length = Outline.count node := by
  match node with
  | .text _ => rfl
  | .element own children =>
    rw [elements, List.length_cons, length_elementsOfAll, Outline.count]

theorem length_elementsOfAll (nodes : List Node) :
    (elementsOfAll nodes).length = Outline.countAll nodes := by
  match nodes with
  | [] => rfl
  | node :: nodes =>
    rw [elementsOfAll, List.length_append, length_elements, length_elementsOfAll,
      Outline.countAll]

end

mutual

/-- The elements below an element come right after it. -/
theorem below_elements (node : Node) {front back : List (Element × List Node)}
    {found : Element} {children : List Node}
    (split : node.elements = front ++ (found, children) :: back) :
    elementsOfAll children <+: back := by
  match node with
  | .text _ => simp [elements] at split
  | .element own below =>
    rw [elements] at split
    cases front with
    | nil =>
        obtain ⟨same, rfl⟩ := List.cons.inj split
        obtain ⟨-, rfl⟩ := Prod.mk.inj same
        exact List.prefix_refl _
    | cons first front => exact below_elementsOfAll below (List.cons.inj split).2

theorem below_elementsOfAll (nodes : List Node) {front back : List (Element × List Node)}
    {found : Element} {children : List Node}
    (split : elementsOfAll nodes = front ++ (found, children) :: back) :
    elementsOfAll children <+: back := by
  match nodes with
  | [] => simp [elementsOfAll] at split
  | node :: nodes =>
    rw [elementsOfAll] at split
    rcases List.append_eq_append_iff.mp split with ⟨more, -, later⟩ | ⟨more, earlier, tail⟩
    · exact below_elementsOfAll nodes later
    · cases more with
      | nil =>
          have first : elementsOfAll nodes = [] ++ (found, children) :: back := tail.symm
          exact below_elementsOfAll nodes first
      | cons first more =>
          obtain ⟨rfl, rfl⟩ := List.cons.inj tail
          exact (below_elements node earlier).trans (List.prefix_append _ _)

end

end Node

namespace Outline

/-- What an entry shows of its element. -/
def shown (entry : Placed) : Element × Nat × String := (entry.element, entry.size, entry.content)

/-- What an entry has to show of an element with these children. -/
def described (found : Element × List Node) : Element × Nat × String :=
  (found.1, countAll found.2, Node.contents found.2)

mutual

theorem shown_entriesOf (ancestors elders youngers : List Nat) (position : Nat) (node : Node) :
    (entriesOf ancestors elders youngers position node).map shown =
      node.elements.map described := by
  match node with
  | .text _ => rfl
  | .element element children =>
    rw [entriesOf, Node.elements, List.map_cons, List.map_cons, shown_entriesOfAll]
    rfl

theorem shown_entriesOfAll (ancestors elders : List Nat) (position : Nat) (nodes : List Node) :
    (entriesOfAll ancestors elders position nodes).map shown =
      (Node.elementsOfAll nodes).map described := by
  match nodes with
  | [] => rfl
  | node :: nodes =>
    rw [entriesOfAll, Node.elementsOfAll, List.map_append, List.map_append, shown_entriesOf,
      shown_entriesOfAll]

end

/-- The entries of a document show its elements, in document order. -/
theorem shown_ofNodes (nodes : List Node) :
    (ofNodes nodes).entries.toList.map shown = (Node.elementsOfAll nodes).map described :=
  shown_entriesOfAll [] [] 0 nodes

theorem size_ofNodes (nodes : List Node) :
    (ofNodes nodes).entries.size = (Node.elementsOfAll nodes).length := by
  have lengths := congrArg List.length (shown_ofNodes nodes)
  simpa using lengths

/-- The entries at successive positions are a stretch of all entries. -/
theorem filterMap_range' {α : Type} (start count : Nat) (entries : List α) :
    (List.range' start count).filterMap (entries[·]?) = (entries.drop start).take count := by
  induction count generalizing start with
  | zero => simp
  | succ count ih =>
      rw [List.range'_succ, List.filterMap_cons]
      rcases Nat.lt_or_ge start entries.length with inside | outside
      · rw [List.getElem?_eq_getElem inside, ih, List.drop_eq_getElem_cons inside,
          List.take_succ_cons]
      · rw [List.getElem?_eq_none outside, ih, List.drop_of_length_le outside,
          List.drop_of_length_le (Nat.le_succ_of_le outside)]
        simp

/-- The entries inside an entry show the elements below its element. -/
theorem shown_inside {nodes : List Node} {position : Nat} {entry : Placed} {own : Element}
    {children : List Node} (found : (Node.elementsOfAll nodes)[position]? = some (own, children))
    (size_eq : entry.size = countAll children) :
    ((inside position entry).filterMap ((ofNodes nodes).entries[·]?)).map shown =
      (Node.elementsOfAll children).map described := by
  obtain ⟨inBounds, here⟩ := List.getElem?_eq_some_iff.mp found
  have split : Node.elementsOfAll nodes =
      (Node.elementsOfAll nodes).take position ++
        (own, children) :: (Node.elementsOfAll nodes).drop (position + 1) := by
    rw [← here, List.getElem_cons_drop, List.take_append_drop]
  obtain ⟨rest, below⟩ := Node.below_elementsOfAll nodes split
  calc ((inside position entry).filterMap ((ofNodes nodes).entries[·]?)).map shown
      = (((ofNodes nodes).entries.toList.drop (position + 1)).take entry.size).map shown := by
        rw [inside, ← filterMap_range']
        simp only [Array.getElem?_toList]
    _ = (((Node.elementsOfAll nodes).drop (position + 1)).take entry.size).map described := by
        rw [List.map_take, List.map_drop, shown_ofNodes, List.map_take, List.map_drop]
    _ = (Node.elementsOfAll children).map described := by
        rw [← below, size_eq, ← Node.length_elementsOfAll, List.take_left]

end Outline

end PageWatch.Markup
