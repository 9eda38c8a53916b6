import PageWatch.Script.Reader.Statement
import PageWatch.Script.Statement

/-!
# Running whole scripts

A script first declares its names: functions and variables become properties of the
global object, all others are kept in the outermost scope. Then its statements run.
-/

namespace PageWatch.Script

open Text

namespace Run

def outermostScope : ScopeId := 0

/-- Declares a function as a property of the global object. -/
def declareGlobalFunction (name : String) (value : Value) : Run Unit := do
  let global := Intrinsic.global.place
  let key := Key.ofString name
  match (← objectAt global).table.get? key with
  | some ⟨.data _ _, enumerable, false⟩ =>
    putProperty global key ⟨.data value true, enumerable, false⟩
  | _ => putProperty global key ⟨.data value true, true, false⟩

/-- Declares a variable as a property of the global object, unless there is one. -/
def declareGlobalVariable (name : String) : Run Unit := do
  let global := Intrinsic.global.place
  let key := Key.ofString name
  match (← objectAt global).table.get? key with
  | some _ => return
  | none => putProperty global key ⟨.data .undefined true, true, false⟩

/-- Declares the names of a script, whose own functions see them. -/
def declareGlobals (here : Here) (program : Program) : Run Unit := do
  for name in program.varNames do declareGlobalVariable name
  modify <| Memory.modifyScope here.scope fun scope =>
    { scope with
      bindings := program.declarations.names.map BlockName.binding ++ scope.bindings }
  declareFunctions here program.declarations declareGlobalFunction

def runProgram (machine : Machine) (program : Program) : Run Value := do
  modify fun memory => { memory with codes := program.codes }
  let here : Here := ⟨outermostScope, program.strict⟩
  declareGlobals here program
  discard <| executeAll machine here program.body
  return .undefined

/-- Runs a script whose names do not outlive it, up to the value of its last
statement. -/
def evaluateProgram (machine : Machine) (program : Program) : Run Value := do
  modify fun memory => { memory with codes := program.codes }
  let here : Here := ⟨← addScope [] outermostScope, program.strict⟩
  declareGlobals here program
  match program.body.getLast? with
  | some (.expression value) =>
    discard <| executeAll machine here program.body.dropLast
    machine.evaluate here value
  | _ =>
    discard <| executeAll machine here program.body
    return .undefined

end Run

end PageWatch.Script
