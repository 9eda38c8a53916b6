import PageWatch.Performance.Run
import PageWatch.Script.Engine

/-!
# Performing a script from its text
-/

namespace PageWatch.Performance

/-- What a script is performed on. Only a snapshot that the script may rewrite shows it a
document. -/
inductive Target where
  | document (source : String)
  /-- A page that the script only looks at. -/
  | live (page : Page)

namespace Target

def page : Target → Page
  | document source => .snapshot (Snapshot.parse source)
  | live page => page

/-- Whether the script may rewrite the page. -/
def changeable : Target → Bool
  | document _ => true
  | live _ => false

end Target

def runScript (text : String) (target : Target) (settings : Settings) : Outcome :=
  (perform (Script.performer target.changeable text) target.page settings).outcome

end PageWatch.Performance
