import PageWatch.Files
import PageWatch.Json.Reader
import PageWatch.Settings.Basic

/-!
# Settings files

A settings file is a JSON object whose fields replace the standard settings one by one;
fields of other names are passed over. An array that lists the fields in order is
accepted too.
-/

namespace PageWatch.Settings

/-- Why no settings could be had from a file. -/
inductive FileError where
  | unreadable (path : String) (fault : ReadFault)
  | malformed (path : String) (failure : Json.Failure)
  | invalid
  deriving Repr, Inhabited

/-- The wording of an error, followed by those of its causes. -/
def FileError.messages : FileError → List String
  | .unreadable path fault => [s!"Failed to read config {path}", fault.message]
  | .malformed path failure => [s!"Failed to parse config {path}", failure.message]
  | .invalid => [invalidMessage]

/-- The fields a file has given so far. -/
structure Given where
  checkIntervalMs : Option Nat := none
  budgetMs : Option Nat := none
  realtime : Option Bool := none
  deriving DecidableEq, Repr, Inhabited

namespace Given

/-- Settings with the given fields replaced. -/
def overlay (given : Given) (settings : Settings) : Settings where
  checkIntervalMs := given.checkIntervalMs.getD settings.checkIntervalMs
  budgetMs := given.budgetMs.getD settings.budgetMs
  realtime := given.realtime.getD settings.realtime

open Json in
def member (key : String) (given : Given) : Reader Given :=
  if key = "check_interval_ms" then
    if given.checkIntervalMs.isSome then Reader.failUnplaced (.duplicateField key)
    else do
      Reader.colon
      return { given with checkIntervalMs := some (← Reader.natural) }
  else if key = "budget_ms" then
    if given.budgetMs.isSome then Reader.failUnplaced (.duplicateField key)
    else do
      Reader.colon
      return { given with budgetMs := some (← Reader.natural) }
  else if key = "realtime" then
    if given.realtime.isSome then Reader.failUnplaced (.duplicateField key)
    else do
      Reader.colon
      return { given with realtime := some (← Reader.boolean) }
  else do
    Reader.colon
    Reader.skipValue
    return given

open Json in
/-- Reads the fields of settings that are written as an array. -/
def inOrder : Reader Given := do
  let more ← Reader.moreItems true
  if !more then return {}
  let given : Given := { checkIntervalMs := some (← Reader.natural) }
  let more ← Reader.moreItems false
  if !more then return given
  let given := { given with budgetMs := some (← Reader.natural) }
  let more ← Reader.moreItems false
  if !more then return given
  return { given with realtime := some (← Reader.boolean) }

end Given

def ofJson (text : String) : Except Json.Failure Settings := do
  let reader := Json.Reader.record "struct WaitConfig" ({} : Given) Given.member
    (fun given => pure given) Given.inOrder
  return (← Json.Reader.whole reader text).overlay standard

def validate (settings : Settings) : Except FileError Settings :=
  if settings.IsValid then .ok settings else .error .invalid

/-- The settings that the file of a path holds. -/
def load (path : String) (content : FileContent) : Except FileError Settings :=
  match content.text with
  | .error fault => .error (.unreadable path fault)
  | .ok text =>
    match ofJson text with
    | .error failure => .error (.malformed path failure)
    | .ok settings => validate settings

end PageWatch.Settings
