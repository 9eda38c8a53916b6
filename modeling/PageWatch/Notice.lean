import PageWatch.Page.Match

/-!
# Notices

What the library reports about its own work, as opposed to what a script prints.
-/

namespace PageWatch

/-- How much a notice matters. -/
inductive Level where
  | debug
  | info
  | warn
  deriving DecidableEq, Repr, Inhabited

/-- Something worth reporting. -/
inductive Notice where
  /-- A condition does not hold yet and is polled from now on. -/
  | polling (everyMs : Nat)
  /-- A polled condition holds. -/
  | conditionMet
  /-- A condition could not be checked, so its wait is over. -/
  | waitDropped (error : QueryError)
  /-- Form controls got a value. -/
  | valueSet (controls : Nat) (selector : String)
  /-- A script printed a line. -/
  | printed (line : String)
  /-- A script run ended before its waits did. -/
  | stopped (pending : Nat)
  /-- A browser was found without being named. -/
  | browserFound (path : String)
  /-- A script is about to be run against a snapshot. -/
  | running (script : String)
  deriving DecidableEq, Repr, Inhabited

namespace Notice

/-- How much a notice matters. -/
def level : Notice → Level
  | .waitDropped _ | .stopped _ => .warn
  | .browserFound _ | .running _ => .info
  | .polling _ | .conditionMet | .valueSet _ _ | .printed _ => .debug

def message : Notice → String
  | .polling everyMs => s!"Condition not met, polling every {everyMs}ms"
  | .conditionMet => "Condition met, running callback"
  | .waitDropped error => "Condition check failed, waiter dropped: " ++ error.message
  | .valueSet controls selector => s!"Set value on {controls} element(s) matching {selector}"
  | .printed line => "console: " ++ line
  | .stopped pending => s!"Script stopped with {pending} pending wait(s)"
  | .browserFound path => "Using Chrome at " ++ path
  | .running script => "Running " ++ script ++ " against an HTML snapshot"

/-- The part of the program that a notice comes from, by the name that log filters know
it by. -/
def topic : Notice → String
  | .polling _ | .conditionMet | .waitDropped _ => "dom_waiter::waiter"
  | .valueSet _ _ => "dom_waiter::document::html"
  | .printed _ | .stopped _ => "dom_waiter::script"
  | .browserFound _ => "dom_waiter::browser::launcher"
  | .running _ => "dom_waiter"

end Notice

end PageWatch
