import PageWatch.Script.Library.Basic
import PageWatch.Script.Reader.Statement

/-!
# Functions and errors in the library
-/

namespace PageWatch.Script.Library

open Text Run

/-! ## Functions -/

/-- The name of a function as its own property tells it. -/
def functionName (machine : Machine) (place : ObjectId) : Run Units := do
  match ← getOf machine place "name" with
  | .text name => return name
  | _ => return Units.empty

/-- The text of a function: what was written, or else a heading. -/
def functionText (machine : Machine) (place : ObjectId) : Run Units := do
  match (← objectAt place).kind with
  | .function ⟨.closure number _ _, _, _, _⟩ =>
    match (← codeAt number).source with
    | some source => return source
    | none => heading (← functionName machine place)
  | .function ⟨.bound _ _ _, _, _, _⟩ | .proxy _ _ _ _ => heading Units.empty
  | _ => heading (← functionName machine place)
where
  /-- The text of a function of which only the name is known. -/
  heading (name : Units) : Run Units :=
    return Units.concat ["function ", name, "() \x7b [native code] \x7d"]

/-- Makes a function that calls another one with arguments before those given. -/
def bind (given : Given) : Run Value := do
  match ← callbackOf given.self with
  | .object target =>
    let before := given.arguments.drop 1
    let place ← addObject
      (.function ⟨.bound target given.first before, ← isConstructor given.self, none, []⟩)
      (← parentOf given.machine target)
    let length ← match ← getOf given.machine target "length" with
      | .number length => pure (length.toUInt64.toNat - before.length)
      | _ => pure 0
    describe place length ("bound " ++ (← functionName given.machine target))
    return .object place
  | _ => typeError "not a callable function"

/-- The outermost scope of a script. -/
def outermost : Here := ⟨0, false⟩

/-- Makes a function from the texts of its parameters and its body. -/
def functionOfTexts (given : Given) : Run Value := do
  let texts ← given.arguments.mapM (toText given.machine ·)
  let parameters := Units.intercalate "," texts.dropLast
  let body := (texts.getLast?).getD Units.empty
  let source := Units.concat
    ["(function anonymous(", parameters, "\n) \x7b\n", body, "\n\x7d)"]
  let codes ← look (·.codes)
  match Program.after? codes source.write with
  | some program =>
    modify fun memory => { memory with codes := program.codes }
    match program.body with
    | [.expression (.function code)] =>
      let place ← newFunction outermost code "anonymous" none
      match given.newTarget with
      | .undefined => pure ()
      | _ =>
        let parent ← prototypeFor given.machine given.newTarget .function
        modifyObject place fun object => { object with parent := some parent }
      return .object place
    | _ => raise .syntaxError "invalid function"
  | none => raise .syntaxError "invalid function"

def functions : List Entry :=
  let prototype := Intrinsic.function.place
  [.callable .function 0 fun _ => nothing,
   .constructor .function "Function" 1 functionOfTexts] ++
  Entry.methods prototype
    [("call", 1, fun given => given.machine.call given.self given.first (given.arguments.drop 1)),
     ("apply", 2, fun given => do
        let callee ← callbackOf given.self
        let arguments ← match given.second with
          | .undefined | .null => pure []
          | .object place => listLike given.machine place
          | _ => typeError "cannot create list from non-object"
        given.machine.call callee given.first arguments),
     ("bind", 1, bind),
     ("toString", 0, fun given => do
        match ← callbackOf given.self with
        | .object place => return .text (← functionText given.machine place)
        | _ => nothing)] ++
  [.method prototype WellKnown.hasInstance.key 1 fun given => do
     return .boolean (← isInstance given.machine given.first 1000 given.self)]

/-! ## Errors -/

/-- The text of a part of an error, unless it is missing. -/
def errorPart (machine : Machine) (place : ObjectId) (name : String) (missing : Units) :
    Run Units := do
  match ← getOf machine place (.ofString name) with
  | .undefined => return missing
  | value => toText machine value

/-- The text of an error: its name and its message. -/
def errorText (given : Given) : Run Value := do
  let place ← objectOf given.self "'this' is not an object"
  let name ← errorPart given.machine place "name" "Error"
  let message ← errorPart given.machine place "message" Units.empty
  if name.size == 0 then return .text message
  if message.size == 0 then return .text name
  return .text (Units.concat [name, ": ", message])

/-- Creates an error of a kind with a message, and with the error that caused it if one
is named. -/
def newError (intrinsic : Intrinsic) (given : Given) (message options : Value) : Run ObjectId := do
  let place ← addObject .error (some (← prototypeFor given.machine given.newTarget intrinsic))
  match message with
  | .undefined => pure ()
  | message => putProperty place "message" (.quiet (.text (← toText given.machine message)))
  match options with
  | .object options =>
    if ← has given.machine options "cause" then
      putProperty place "cause" (.quiet (← getOf given.machine options "cause"))
  | _ => pure ()
  return place

def errorKinds : List (Intrinsic × String) :=
  [(.error, "Error"), (.typeError, "TypeError"), (.rangeError, "RangeError"),
   (.referenceError, "ReferenceError"), (.syntaxError, "SyntaxError"),
   (.evalError, "EvalError"), (.uriError, "URIError")]

def errors : List Entry :=
  (errorKinds.flatMap fun (intrinsic, name) =>
    [.constructor intrinsic name 1 fun given => do
      return .object (← newError intrinsic given given.first given.second)]) ++
  [.constructor .aggregateError "AggregateError" 2 fun given => do
    let place ← newError .aggregateError given given.second (given.argument 2)
    let errors ← listOf given.machine given.first
    putProperty place "errors" (.quiet (.object (← newArray errors)))
    return .object place] ++
  (((.aggregateError, "AggregateError") :: errorKinds).flatMap fun (intrinsic, name) =>
    [.changeable intrinsic.place "name" (.text name) false,
     .changeable intrinsic.place "message" (.text "") false]) ++
  Entry.methods Intrinsic.error.place [("toString", 0, errorText)]

end PageWatch.Script.Library
