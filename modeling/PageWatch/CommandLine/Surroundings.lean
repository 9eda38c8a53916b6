import PageWatch.CommandLine.Run

/-!
# What has to be looked at

The paths that a run may look at can be told before it starts, from its arguments and
from the environment. So the system is looked at once, and the run itself works on what
was found.
-/

namespace PageWatch.CommandLine

/-- The environment variable that says which notices are shown. -/
def filterVariable : String := "RUST_LOG"

def Arguments.files (arguments : Arguments) : List String :=
  arguments.script :: (arguments.config.toList ++ arguments.html.toList)

/-- The files that arguments name, if they can be read. -/
def filesNamed (arguments : List String) : List String :=
  match Arguments.read arguments with
  | .ok arguments => arguments.files
  | .error _ => []

def browserPaths (named : Option String) (searchPath : List String) : List String :=
  let names := named.toList ++ Browser.pathNames
  let joined := names.flatMap fun name => searchPath.map (Browser.joined · name)
  named.toList ++ joined ++ Browser.installPaths

/-- What paths lead to, as far as they were looked at. -/
def entryOf (found : List (String × Entry)) (path : String) : Entry :=
  (found.lookup path).getD (.absent .missing)

def directories (searchPath : String) : List String := searchPath.splitOn ":"

end PageWatch.CommandLine
