import PageWatch.Files

/-!
# Finding a browser

A browser named by the environment is used if it exists. Otherwise the usual names are
looked for on the search path, and then at the places where browsers are installed.
-/

namespace PageWatch.Browser

/-- The environment variable that names the browser. -/
def override : String := "DOM_WAITER_CHROME"

/-- The names looked for on the search path, the first found wins. -/
def pathNames : List String :=
  ["chromium", "chromium-browser", "google-chrome-stable", "google-chrome"]

/-- The places looked at when the search path holds no browser. -/
def installPaths : List String :=
  ["/snap/bin/chromium", "/opt/google/chrome/chrome"]

/-- What the search can see of the system. -/
structure Surroundings where
  /-- The path that the environment names. -/
  named : Option String
  /-- Whether a path exists. -/
  doesExist : String → Bool
  /-- The executable that a name stands for on the search path. -/
  lookup : String → Option String

/-- Why there is no browser. -/
inductive SearchError where
  | namedMissing (path : String)
  | nothingFound
  deriving DecidableEq, Repr, Inhabited

def SearchError.message : SearchError → String
  | .namedMissing path => override ++ " points to a missing file: " ++ path
  | .nothingFound =>
    "No Chrome or Chromium found; install one of " ++ String.intercalate ", " pathNames ++
      " or set " ++ override

/-- A browser and how it was found. -/
structure Found where
  path : String
  /-- Whether the environment named it. -/
  named : Bool
  deriving DecidableEq, Repr, Inhabited

def find (surroundings : Surroundings) : Except SearchError Found :=
  match surroundings.named with
  | some path =>
    if surroundings.doesExist path then .ok ⟨path, true⟩ else .error (.namedMissing path)
  | none =>
    match pathNames.findSome? surroundings.lookup with
    | some path => .ok ⟨path, false⟩
    | none =>
      match installPaths.find? surroundings.doesExist with
      | some path => .ok ⟨path, false⟩
      | none => .error .nothingFound

/-- The path of a name in a directory of the search path. -/
def joined (directory name : String) : String :=
  if directory = "" then name
  else if directory.endsWith "/" then directory ++ name
  else directory ++ "/" ++ name

/-- What a search sees that may look at every path. -/
def Surroundings.ofEntries (named : Option String) (searchPath : List String)
    (entry : String → Entry) : Surroundings where
  named
  doesExist path := (entry path).isPresent
  lookup name := (searchPath.map (joined · name)).find? fun path => (entry path).isProgram

end PageWatch.Browser
