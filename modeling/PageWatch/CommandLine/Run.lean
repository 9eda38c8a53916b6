import PageWatch.Browser.Binary
import PageWatch.Browser.Launch
import PageWatch.CommandLine.Help
import PageWatch.Notice.Filter
import PageWatch.Performance.Scripted

/-!
# Runs of the command line

A run reads the settings and the script first, then the page. A snapshot is performed
on at once. For a live page a browser is looked for and started; this library does not
drive it any further, so such a run ends with the reason why the browser cannot be
driven.
-/

namespace PageWatch.CommandLine

/-- What a run can see of its surroundings. -/
structure Environment where
  /-- What a path leads to. -/
  entry : String → Entry
  /-- The directories in which programs are looked for. -/
  searchPath : List String
  /-- The path of the browser, if it is named. -/
  browser : Option String
  /-- A fresh directory for the profile of a browser. -/
  profile : String
  /-- What comes of running a program, by the bytes of its file, with some arguments. -/
  running : ByteArray → List String → Browser.Startup

inductive Ending where
  /-- The text that was asked for instead of a run. -/
  | told (text : String)
  | misused (error : UsageError)
  /-- The failure and its causes. -/
  | failed (notices : List Notice) (messages : List String)
  | performed (outcome : Performance.Outcome)

/-- A run that cannot go on. -/
structure Failure where
  notices : List Notice
  messages : List String

/-- A failure without notices. -/
def Failure.plain (messages : List String) : Failure := ⟨[], messages⟩

def Environment.text (environment : Environment) (description path : String) :
    Except Failure String :=
  (FileContent.text (environment.entry path).content).mapError fun fault =>
    .plain ["Failed to read " ++ description ++ " " ++ path, fault.message]

/-- What starting a program leads to. A name without a slash is looked for in the search
path, and what cannot be started is passed over if there is more. -/
def Environment.program (environment : Environment) (name : String) : Entry :=
  if name.contains '/' then environment.entry name
  else
    let entries := environment.searchPath.map fun directory =>
      environment.entry (Browser.joined directory name)
    match entries.find? Entry.isProgram with
    | some entry => entry
    | none => (entries.find? Entry.isPresent).getD (.absent .missing)

/-- Why a live page cannot be watched. -/
def Environment.launch (environment : Environment) (headless : Bool) : Failure :=
  let surroundings := Browser.Surroundings.ofEntries environment.browser
    environment.searchPath environment.entry
  match Browser.find surroundings with
  | .error error => .plain [error.message]
  | .ok found =>
    let arguments := Browser.launchArguments headless environment.profile
    let startup := Browser.Startup.ofEntry (environment.running · arguments)
      (environment.program found.path)
    ⟨if found.named then [] else [.browserFound found.path],
      (Browser.launchError startup).messages⟩

def Environment.perform (environment : Environment) (arguments : Arguments) :
    Except Failure Performance.Outcome := do
  let content := fun path => (environment.entry path).content
  let settings ← (arguments.settings content).mapError fun error => .plain error.messages
  let script ← environment.text "script" arguments.script
  if arguments.url.isSome then throw (environment.launch (!arguments.headed))
  let source ← match arguments.html with
    | none => pure ""
    | some path => environment.text "HTML" path
  let outcome := Performance.runScript script (.document source) settings
  return { outcome with signs := .reported (.running arguments.script) :: outcome.signs }

def Environment.run (environment : Environment) (arguments : List String) : Ending :=
  match Arguments.read arguments with
  | .error .help => .told helpText
  | .error .version => .told versionText
  | .error (.misuse error) => .misused error
  | .ok arguments =>
    match environment.perform arguments with
    | .error failure => .failed failure.notices failure.messages
    | .ok outcome => .performed outcome

namespace Ending

/-- The code that the program exits with. -/
def code : Ending → Nat
  | told _ => 0
  | misused _ => 2
  | failed _ _ => 1
  | performed outcome => if outcome.report.success then 0 else 1

/-- What is printed on the output, given the milliseconds that the run took. -/
def output (elapsedMs : Nat) : Ending → String
  | told text => text
  | misused _ | failed _ _ => ""
  | performed outcome => { outcome.report with elapsedMs }.format ++ "\n"

/-- What was reported and slept through, in order. -/
def signs : Ending → List Performance.Sign
  | told _ | misused _ => []
  | failed notices _ => notices.map .reported
  | performed outcome => outcome.signs

/-- What is printed on the error stream after all notices. -/
def complaint : Ending → String
  | told _ | performed _ => ""
  | misused error => error.report
  | failed _ messages => failureReport messages

end Ending

end PageWatch.CommandLine
