import PageWatch.Settings.File

/-!
# Arguments

The arguments of the command line: one script, and options that may stand before or
after it. An option's value follows it, as the next argument or after an equals sign.
The value is looked at only when the argument after it has been recognised, so an
unknown argument is reported before a bad value in front of it.
-/

namespace PageWatch.CommandLine

def programName : String := "dom-waiter"

/-- What can be given on the command line. -/
inductive Parameter where
  | script
  | html
  | url
  | headed
  | config
  | intervalMs
  | budgetMs
  | realtime
  | help
  | version
  deriving DecidableEq, Repr, Inhabited

/-- What a parameter takes. -/
inductive Form where
  /-- The path of a file, which cannot be empty. -/
  | path
  | text
  /-- A number below 2^64. -/
  | count
  /-- No value: being there is all it says. -/
  | switch
  deriving DecidableEq, Repr, Inhabited

namespace Parameter

def form : Parameter → Form
  | script | html | config => .path
  | url => .text
  | intervalMs | budgetMs => .count
  | headed | realtime | help | version => .switch

/-- The name of an option, without the dashes; the script has none. -/
def name : Parameter → String
  | script => ""
  | html => "html"
  | url => "url"
  | headed => "headed"
  | config => "config"
  | intervalMs => "interval-ms"
  | budgetMs => "budget-ms"
  | realtime => "realtime"
  | help => "help"
  | version => "version"

/-- What stands for a parameter's value in descriptions. -/
def valueName : Parameter → String
  | script => "<SCRIPT>"
  | html => "<HTML>"
  | url => "<URL>"
  | config => "<CONFIG>"
  | intervalMs => "<INTERVAL_MS>"
  | budgetMs => "<BUDGET_MS>"
  | headed | realtime | help | version => ""

/-- The options, in the order in which they are described. -/
def options : List Parameter :=
  [html, url, headed, config, intervalMs, budgetMs, realtime, help, version]

def ofName? (name : String) : Option Parameter :=
  options.find? fun option => option.name = name

def ofLetter? : Char → Option Parameter
  | 'h' => some help
  | 'V' => some version
  | _ => none

/-- A parameter as it is written in messages. -/
def shown (parameter : Parameter) : String :=
  match parameter with
  | script => script.valueName
  | _ =>
    if parameter.form = .switch then "--" ++ parameter.name
    else "--" ++ parameter.name ++ " " ++ parameter.valueName

end Parameter

/-! ## Errors -/

/-- Why a text is no number. -/
inductive CountFault where
  | empty
  | invalidDigit
  | tooLarge
  deriving DecidableEq, Repr, Inhabited

/-- The wording of a number's fault. -/
def CountFault.message : CountFault → String
  | .empty => "cannot parse integer from empty string"
  | .invalidDigit => "invalid digit found in string"
  | .tooLarge => "number too large to fit in target type"

/-- What is wrong with the arguments. -/
inductive UsageError where
  | unexpected (argument : String)
  | unexpectedValue (value : String) (parameter : Parameter)
  | valueMissing (parameter : Parameter)
  | invalidValue (value : String) (parameter : Parameter) (fault : CountFault)
  | repeated (parameter : Parameter)
  | conflict (first second : Parameter)
  | notProvided (parameters : List Parameter)
  deriving DecidableEq, Repr, Inhabited

def UsageError.message : UsageError → String
  | unexpected argument => s!"unexpected argument '{argument}' found"
  | unexpectedValue value parameter =>
    "unexpected value '" ++ value ++ "' for '" ++ parameter.shown ++
      "' found; no more were expected"
  | valueMissing parameter =>
    "a value is required for '" ++ parameter.shown ++ "' but none was supplied"
  | invalidValue value parameter fault =>
    "invalid value '" ++ value ++ "' for '" ++ parameter.shown ++ "': " ++ fault.message
  | repeated parameter =>
    "the argument '" ++ parameter.shown ++ "' cannot be used multiple times"
  | conflict first second =>
    "the argument '" ++ first.shown ++ "' cannot be used with '" ++ second.shown ++ "'"
  | notProvided parameters =>
    "the following required arguments were not provided:" ++
      String.join (parameters.map fun parameter => "\n  " ++ parameter.shown)

/-! ## Values -/

/-- The largest number that can be given. -/
def maxCount : Nat := Nat.pow 2 64 - 1

/-- Reads the digits of a number, whose value so far is given. What is wrong first is what
is reported. -/
def countDigits (value : Nat) : List Char → Except CountFault Nat
  | [] => .ok value
  | c :: rest =>
    if !c.isDigit then .error .invalidDigit
    else
      let value := 10 * value + (c.toNat - '0'.toNat)
      if maxCount < value then .error .tooLarge else countDigits value rest

/-- The number that a text is. A plus sign may stand before its digits. -/
def count (text : String) : Except CountFault Nat :=
  match text.toList with
  | [] => .error .empty
  | ['+'] => .error .invalidDigit
  | '+' :: rest => countDigits 0 rest
  | chars => countDigits 0 chars

/-- What the command line says. -/
structure Arguments where
  script : String := ""
  html : Option String := none
  url : Option String := none
  headed : Bool := false
  config : Option String := none
  intervalMs : Option Nat := none
  budgetMs : Option Nat := none
  realtime : Bool := false
  deriving DecidableEq, Repr, Inhabited

namespace Arguments

def setPath (arguments : Arguments) (parameter : Parameter) (value : String) : Arguments :=
  match parameter with
  | .script => { arguments with script := value }
  | .html => { arguments with html := some value }
  | .config => { arguments with config := some value }
  | _ => arguments

/-- Enters a number. -/
def setCount (arguments : Arguments) (parameter : Parameter) (value : Nat) : Arguments :=
  match parameter with
  | .intervalMs => { arguments with intervalMs := some value }
  | .budgetMs => { arguments with budgetMs := some value }
  | _ => arguments

def setSwitch (arguments : Arguments) (parameter : Parameter) : Arguments :=
  match parameter with
  | .headed => { arguments with headed := true }
  | .realtime => { arguments with realtime := true }
  | _ => arguments

def set (arguments : Arguments) (parameter : Parameter) (value : String) :
    Except UsageError Arguments :=
  match parameter.form with
  | .path =>
    if value = "" then .error (.valueMissing parameter)
    else .ok (arguments.setPath parameter value)
  | .text => .ok { arguments with url := some value }
  | .count =>
    match count value with
    | .ok value => .ok (arguments.setCount parameter value)
    | .error fault => .error (.invalidValue value parameter fault)
  | .switch => .ok (arguments.setSwitch parameter)

end Arguments

/-! ## Reading -/

/-- Why the arguments ask for no run. -/
inductive Detour where
  | help
  | version
  | misuse (error : UsageError)
  deriving DecidableEq, Repr, Inhabited

/-- A parameter whose value, if it has come, has not been looked at yet. -/
structure Pending where
  parameter : Parameter
  value : Option String
  deriving DecidableEq, Repr, Inhabited

/-- The reading of a command line. -/
structure Reading where
  arguments : Arguments := {}
  /-- The parameters that were given, in order. -/
  given : List Parameter := []
  pending : Option Pending := none
  deriving Repr, Inhabited

namespace Reading

def enter (reading : Reading) (parameter : Parameter) (value : String) :
    Except UsageError Reading := do
  if reading.given.contains parameter then throw (.repeated parameter)
  let arguments ← reading.arguments.set parameter value
  return { arguments, given := reading.given ++ [parameter], pending := none }

/-- Looks at the value that was put off. -/
def settle (reading : Reading) : Except UsageError Reading :=
  match reading.pending with
  | none => .ok reading
  | some ⟨parameter, none⟩ => .error (.valueMissing parameter)
  | some ⟨parameter, some value⟩ => reading.enter parameter value

/-- The same, where a usage error is a detour. -/
def settled (reading : Reading) : Except Detour Reading :=
  reading.settle.mapError .misuse

def await (reading : Reading) (parameter : Parameter) (value : Option String) : Reading :=
  { reading with pending := some ⟨parameter, value⟩ }

/-- Takes a switch. Those that ask for a text instead of a run end the reading. -/
def switch (reading : Reading) (parameter : Parameter) : Except Detour Reading := do
  let reading ← reading.settled
  match parameter with
  | .help => throw .help
  | .version => throw .version
  | _ => (reading.enter parameter "").mapError .misuse

/-- Takes an option by its name, with the value that is attached to it. -/
def option (reading : Reading) (name : String) (attached : Option String) :
    Except Detour Reading :=
  match Parameter.ofName? name with
  | none => .error (.misuse (.unexpected ("--" ++ name)))
  | some parameter =>
    match parameter.form, attached with
    | .switch, some value => .error (.misuse (.unexpectedValue value parameter))
    | .switch, none => reading.switch parameter
    | _, some value => do
      let reading ← reading.settled
      (reading.enter parameter value).mapError .misuse
    | _, none => do
      let reading ← reading.settled
      return reading.await parameter none

def hasScript (reading : Reading) : Bool :=
  reading.given.contains .script ||
    (reading.pending.map Pending.parameter) = some .script

def positional (reading : Reading) (argument : String) : Except Detour Reading :=
  if reading.hasScript then .error (.misuse (.unexpected argument))
  else do
    let reading ← reading.settled
    return reading.await .script (some argument)

/-- Takes an argument that is no option: the value that an option waits for, or the
script. -/
def plain (reading : Reading) (argument : String) : Except Detour Reading :=
  match reading.pending with
  | some ⟨parameter, none⟩ => .ok (reading.await parameter (some argument))
  | _ => reading.positional argument

def take (reading : Reading) (argument : String) : Except Detour Reading :=
  match argument.toList with
  | '-' :: '-' :: rest =>
    let name := String.ofList (rest.takeWhile (· ≠ '='))
    match rest.dropWhile (· ≠ '=') with
    | [] => reading.option name none
    | _ :: value => reading.option name (some (String.ofList value))
  | '-' :: letter :: _ =>
    match Parameter.ofLetter? letter with
    | none => .error (.misuse (.unexpected (String.ofList ['-', letter])))
    | some parameter => reading.switch parameter
  | _ => reading.plain argument

/-- Takes all arguments. After two dashes none is an option. -/
def takeAll (reading : Reading) : List String → Except Detour Reading
  | [] => .ok reading
  | "--" :: rest => rest.foldlM positional reading
  | argument :: rest => do
    let reading ← reading.take argument
    reading.takeAll rest

/-- The first two given parameters that exclude each other: a snapshot and a live page. -/
def conflict? (reading : Reading) : Option (Parameter × Parameter) :=
  match reading.given.filter fun parameter => parameter = .html || parameter = .url with
  | first :: second :: _ => some (first, second)
  | _ => none

/-- What is needed and not there. A visible window needs a live page, unless the run is
against a snapshot. -/
def notProvided (reading : Reading) : List Parameter :=
  let arguments := reading.arguments
  (if reading.given.contains .script then [] else [.script]) ++
    (if arguments.headed && arguments.url.isNone && arguments.html.isNone then [.url]
     else [])

/-- The arguments that were read, if they go together. -/
def finish (reading : Reading) : Except UsageError Arguments := do
  let reading ← reading.settle
  if let some (first, second) := reading.conflict? then throw (.conflict first second)
  match reading.notProvided with
  | [] => return reading.arguments
  | parameters => throw (.notProvided parameters)

end Reading

def Arguments.read (arguments : List String) : Except Detour Arguments := do
  let reading ← Reading.takeAll {} arguments
  reading.finish.mapError .misuse

/-! ## Settings -/

/-- Settings with what the command line says in place of what they say. A live page
renders in its own time, so a run against it always sleeps. -/
def Arguments.overlay (arguments : Arguments) (settings : Settings) : Settings where
  checkIntervalMs := arguments.intervalMs.getD settings.checkIntervalMs
  budgetMs := arguments.budgetMs.getD settings.budgetMs
  realtime := arguments.realtime || arguments.url.isSome || settings.realtime

/-- The settings of a run: those of the settings file or else the standard ones, replaced
where the command line says so. -/
def Arguments.settings (arguments : Arguments) (content : String → FileContent) :
    Except Settings.FileError Settings := do
  let settings ← match arguments.config with
    | none => .ok Settings.standard
    | some path => Settings.load path (content path)
  Settings.validate (arguments.overlay settings)

end PageWatch.CommandLine
