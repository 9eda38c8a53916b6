import PageWatch.Clock.Routine
import PageWatch.Page.Match

/-!
# Conditions on a page
-/

namespace PageWatch

/-- What a wait on a page waits for. -/
inductive PageCondition where
  /-- Some node matches a selector. -/
  | element (selector : String)
  /-- The first node that matches a selector has exactly this value. A node without a
  value has none. -/
  | value (selector value : String)
  deriving DecidableEq, Repr, Inhabited

namespace PageCondition

/-- The selector that a condition asks the page for. -/
def selector : PageCondition → String
  | element selector | value selector _ => selector

/-- Whether a condition holds of the nodes that match its selector. -/
def holds : PageCondition → List Match → Bool
  | element _, nodes => !nodes.isEmpty
  | value _ wanted, nodes =>
    match nodes with
    | [] => false
    | first :: _ => first.value == some wanted

def check {τ σ : Type} (query : String → Routine τ σ (Except QueryError (List Match)))
    (condition : PageCondition) : Routine τ σ (Except QueryError Bool × PageCondition) := do
  let answer ← query condition.selector
  return (answer.map condition.holds, condition)

end PageCondition

end PageWatch
