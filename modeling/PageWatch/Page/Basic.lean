import PageWatch.Page.Scripted
import PageWatch.Page.Snapshot

/-!
# Pages

What waits look at: a snapshot of a document, which can be rewritten, or a page whose
answers are prepared.
-/

namespace PageWatch

/-- A page that answers queries. -/
inductive Page where
  | snapshot (document : Snapshot)
  | scripted (source : ScriptedPage)
  deriving Inhabited

namespace Page

def select (selector : String) : Page → Except QueryError (List Match) × Page
  | .snapshot document => (document.select selector, .snapshot document)
  | .scripted source =>
    let (answer, source) := source.select selector
    (answer, .scripted source)

end Page

end PageWatch
