import PageWatch.CommandLine.Surroundings

/-!
# The program

Looks at the system, runs the command line on what was found, and shows the run: prints
its notices, sleeps where it slept, and prints what it ends with. Whether a file may be
executed is not asked: every file counts as a program here. Programs are not started, and
so they say nothing.
-/

namespace PageWatch.CommandLine

/-- Why a path leads nowhere, by the system's own error. -/
def readFault : IO.Error → ReadFault
  | .noFileOrDirectory .. => .missing
  | .permissionDenied .. => .forbidden
  | .inappropriateType .. => .directory
  | error => .other (toString error)

def lookAt (path : String) : IO (String × Entry) := do
  try
    let bytes ← IO.FS.readBinFile path
    return (path, .file bytes true)
  catch error =>
    match readFault error with
    | .directory => return (path, .directory)
    | fault => return (path, .absent fault)

def look (arguments : List String) : IO Environment := do
  let searchPath := directories ((← IO.getEnv "PATH").getD "")
  let browser ← IO.getEnv Browser.override
  let paths := filesNamed arguments ++ browserPaths browser searchPath
  let found ← paths.mapM lookAt
  return {
    entry := entryOf found
    searchPath
    browser
    profile := "/tmp/" ++ programName ++ "-profile"
    running := fun _ _ => .speaks [] }

/-- Shows a sign of a run: prints a notice that the filter shows, or sleeps. -/
def replay (filter : Notice.Filter) : Performance.Sign → IO Unit
  | .reported notice => IO.eprint (Notice.log filter [notice])
  | .slept span => IO.sleep (Span.wholeMs span).toUInt32

end PageWatch.CommandLine

open PageWatch.CommandLine in
/-- Runs the program with its arguments. -/
def main (arguments : List String) : IO UInt32 := do
  let begun ← IO.monoMsNow
  let filter := PageWatch.Notice.Filter.ofSetting (← IO.getEnv filterVariable)
  let ending := (← look arguments).run arguments
  ending.signs.forM (replay filter)
  IO.eprint ending.complaint
  IO.print (ending.output ((← IO.monoMsNow) - begun))
  return ending.code.toUInt32
