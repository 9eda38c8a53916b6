import PageWatch.Page.Match

/-!
# Pages with prepared answers

A scripted page answers the queries for a selector from a list of replies, one after
the other. Its last reply stays; a selector without replies matches nothing.
-/

namespace PageWatch

/-- The replies prepared for a selector. -/
inductive Replies where
  /-- No reply: nothing matches. -/
  | none
  /-- A reply that stays when no more follow it. -/
  | cons (first : Except QueryError (List Match)) (more : List (Except QueryError (List Match)))
  deriving Inhabited

namespace Replies

def ofList : List (Except QueryError (List Match)) → Replies
  | [] => none
  | first :: more => cons first more

/-- The reply to the next query, and the replies to those after it. -/
def next : Replies → Except QueryError (List Match) × Replies
  | none => (.ok [], none)
  | cons first [] => (first, cons first [])
  | cons first (second :: more) => (first, cons second more)

end Replies

/-- A page with prepared answers. -/
structure ScriptedPage where
  replies : List (String × Replies)
  deriving Inhabited

namespace ScriptedPage

def repliesOf (page : ScriptedPage) (selector : String) : Replies :=
  (page.replies.lookup selector).getD .none

/-- Prepares the replies for a selector, in place of the former ones. -/
def prepare (page : ScriptedPage) (selector : String) (replies : Replies) : ScriptedPage :=
  ⟨(selector, replies) :: page.replies.filter fun entry => entry.1 != selector⟩

def select (page : ScriptedPage) (selector : String) :
    Except QueryError (List Match) × ScriptedPage :=
  let (answer, left) := (page.repliesOf selector).next
  (answer, page.prepare selector left)

end ScriptedPage

end PageWatch
