import PageWatch.Script.Library.Basic

/-!
# What scripts find of their host

The functions through which a script waits, prints and changes its document. They
convert their arguments one by one, from the first to the last, and only then ask the
host, so that a call with unusable arguments leaves no trace.
-/

namespace PageWatch.Script.Library

open Text Run

/-- Throws a text as it is. -/
def refuse {α : Type} (text : String) : Run α := throwValue (.text text)

def textArgument (given : Given) (position : Nat) : Run String := do
  return (← toText given.machine (given.argument position)).write

def callbackArgument (given : Given) (position : Nat) (name : String) : Run ObjectId := do
  match given.argument position with
  | .object place =>
    if ← isCallable (.object place) then return place
    else
      let count := position + 1
      refuse s!"{name}: argument {count} must be a function"
  | _ =>
    let count := position + 1
    refuse s!"{name}: argument {count} must be a function"

/-- How many selectors a list may hold. -/
def mostSelectors : Nat := 10000

def selectorsArgument (given : Given) : Run (List String) := do
  match given.first with
  | .object place =>
    let length ← toNumber given.machine (← getOf given.machine place "length")
    if !length.isFinite || length < 0 || Float.ofNat mostSelectors < length then
      refuse s!"allElementsAvailable: selectors length must be between 0 and {mostSelectors}"
    let selectors ← forPositions length.toUInt64.toNat [] fun selectors position => do
      let item ← getOf given.machine place (.index position)
      return (← toText given.machine item).write :: selectors
    return selectors.reverse
  | _ => refuse "allElementsAvailable: selectors must be an array"

/-- Waits for conditions. A callback that is due at once is called before this ends. -/
def waitFor (given : Given) (conditions : List PageCondition) (callback : ObjectId) :
    Run Value := do
  match ← ask (.wait conditions callback) with
  | .due => discard <| given.machine.call (.object callback) .undefined []
  | _ => pure ()
  nothing

/-- The milliseconds of a delay: its whole part, or none if it is not positive. -/
def delayOf (number : Float) : Nat :=
  if number.isFinite && 0 < number then number.toUInt64.toNat else 0

/-- The functions that wait. -/
def waitingFunctions : List (String × Nat × (Given → Run Value)) :=
  [("onElementAvailable", 2, fun given => do
      let selector ← textArgument given 0
      let callback ← callbackArgument given 1 "onElementAvailable"
      waitFor given [.element selector] callback),
   ("allElementsAvailable", 2, fun given => do
      let selectors ← selectorsArgument given
      let callback ← callbackArgument given 1 "allElementsAvailable"
      waitFor given (selectors.map .element) callback),
   ("onInputHasValue", 3, fun given => do
      let selector ← textArgument given 0
      let value ← textArgument given 1
      let callback ← callbackArgument given 2 "onInputHasValue"
      waitFor given [.value selector value] callback),
   ("setTimeout", 2, fun given => do
      let callback ← callbackArgument given 0 "setTimeout"
      let delay ← toNumber given.machine given.second
      discard <| ask (.timeout (delayOf delay) callback)
      nothing)]

def textArguments (given : Given) : List Value → Run (List String)
  | [] => return []
  | value :: values => do
    let text ← toText given.machine value
    return text.write :: (← textArguments given values)

/-- Prints the texts of all arguments on a line. -/
def print (opening : String) (given : Given) : Run Value := do
  let texts ← textArguments given given.arguments
  discard <| ask (.print (opening ++ " ".intercalate texts))
  nothing

def printingFunctions : List (String × Nat × (Given → Run Value)) :=
  [("log", 1, print ""), ("info", 1, print ""), ("warn", 1, print "warn: "),
   ("error", 1, print "error: ")]

def documentFunctions : List (String × Nat × (Given → Run Value)) :=
  [("load", 1, fun given => do
      discard <| ask (.load (← textArgument given 0))
      nothing),
   ("setValue", 2, fun given => do
      let selector ← textArgument given 0
      let text ← textArgument given 1
      match ← ask (.setValue selector text) with
      | .counted number => natValue number
      | .refused reason => refuse reason
      | _ => natValue 0)]

/-- What scripts find of their host, whose document can be changed or not. -/
def host (changeable : Bool) : List Entry :=
  let global := Intrinsic.global.place
  Entry.methods global waitingFunctions ++
  Entry.methods Intrinsic.console.place printingFunctions ++
  [.changeable global "console" (.object Intrinsic.console.place) true] ++
  if changeable then
    Entry.methods Intrinsic.document.place documentFunctions ++
    [.changeable global "document" (.object Intrinsic.document.place) true]
  else []

end PageWatch.Script.Library
