import PageWatch.Text.Blank
import PageWatch.Text.Lines

/-!
# The report of a script run

What a run ended with, and its text. The script's output stands in the report
indented by two spaces, line by line, so that no printed line can be taken for a
line of the report itself.
-/

namespace PageWatch

/-- The outcome of a script run. -/
structure Report where
  success : Bool
  /-- What the script printed, its lines joined by line feeds. -/
  output : String
  /-- The uncaught error that ended the run. -/
  error : Option String
  /-- The milliseconds of timer time the run covered. -/
  virtualMs : Nat
  /-- The milliseconds of wall-clock time the run took. -/
  elapsedMs : Nat
  /-- The waits and timeouts still scheduled when the run stopped. -/
  pending : Nat
  deriving DecidableEq, Repr, Inhabited

namespace Report

/-- The first line: how the run ended and how long it took. -/
def statusLine (report : Report) : List Char :=
  let elapsed := toString report.elapsedMs
  let covered := toString report.virtualMs
  if report.success then
    s!"Script completed in {elapsed}ms ({covered}ms of timer time)\n".toList
  else s!"Script failed in {elapsed}ms\n".toList

/-- The printed lines under their heading; nothing if the script printed nothing. -/
def outputLines (report : Report) : List Char :=
  if report.output.toList.isEmpty then []
  else
    "Output:\n".toList ++
      (Text.lines report.output.toList).flatMap (fun line => ' ' :: ' ' :: line ++ ['\n'])

/-- The error that ended the run, if one did. -/
def errorLine (report : Report) : List Char :=
  match report.error with
  | none => []
  | some text => "Error: ".toList ++ text.toList ++ ['\n']

/-- The number of waits left, if any are. -/
def pendingLine (report : Report) : List Char :=
  if report.pending = 0 then []
  else
    let pending := toString report.pending
    s!"Pending: {pending} wait(s) still polling when the budget ran out\n".toList

/-- The text of a report. White space at its very end is dropped, also where it
belongs to the last printed line or to the error. -/
def format (report : Report) : String :=
  String.ofList (Text.trimRight
    (report.statusLine ++ report.outputLines ++ report.errorLine ++ report.pendingLine))

end Report

end PageWatch
