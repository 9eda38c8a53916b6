import PageWatch.CommandLine.Arguments

/-!
# What the program says about itself
-/

namespace PageWatch.CommandLine

def versionText : String := programName ++ " 0.1.0\n"

/-- How the program is called. -/
def usageLine : String := "Usage: " ++ programName ++ " [OPTIONS] " ++ Parameter.script.valueName

namespace Parameter

def purpose : Parameter → String
  | script => "JavaScript file to run"
  | html => "HTML snapshot to run against (default: an empty page)"
  | url => "Run against a live page opened in Chrome"
  | headed => "Run Chrome with a visible window (default: headless)"
  | config => "JSON config file"
  | intervalMs => "Milliseconds between condition checks"
  | budgetMs => "Give up on pending waits after this many milliseconds"
  | realtime => "Sleep in real time between checks"
  | help => "Print help"
  | version => "Print version"

/-- The letter of an option, or the room that a letter would take. -/
def letter : Parameter → String
  | help => "-h, "
  | version => "-V, "
  | _ => "    "

end Parameter

/-- A text with blanks after it, up to some width. -/
def pad (width : Nat) (text : String) : String :=
  text ++ String.ofList (List.replicate (width - text.length) ' ')

def optionLine (parameter : Parameter) : String :=
  "  " ++ pad 33 (parameter.letter ++ parameter.shown) ++ parameter.purpose ++ "\n"

def helpText : String :=
  "Run callbacks once a live document matches a condition — elements, element sets or input " ++
    "values\n\n" ++ usageLine ++ "\n\nArguments:\n  " ++ Parameter.script.shown ++ "  " ++
    Parameter.script.purpose ++ "\n\nOptions:\n" ++
    String.join (Parameter.options.map optionLine)

/-- What is written where the arguments are wrong. -/
def UsageError.report (error : UsageError) : String :=
  "error: " ++ error.message ++ "\n\n" ++ usageLine ++
    "\n\nFor more information, try '--help'.\n"

/-! ## Reports of failures -/

def indented (margin text : String) : String :=
  ("\n" ++ margin).intercalate (text.splitOn "\n")

def numberedCauses (number : Nat) : List String → String
  | [] => ""
  | cause :: more =>
    let label := toString number
    let margin := String.ofList (List.replicate (5 - label.length) ' ')
    "\n" ++ margin ++ label ++ ": " ++ indented "       " cause ++
      numberedCauses (number + 1) more

/-- The report of a failure and its causes. They are numbered if there are several. -/
def failureReport : List String → String
  | [] => ""
  | failure :: causes =>
    "Error: " ++ failure ++ (match causes with
      | [] => ""
      | [cause] => "\n\nCaused by:\n    " ++ indented "    " cause
      | causes => "\n\nCaused by:" ++ numberedCauses 0 causes) ++ "\n"

end PageWatch.CommandLine
