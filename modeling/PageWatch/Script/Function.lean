import PageWatch.Script.Scope

/-!
# Functions as objects

How functions become objects: their names, their lengths, and the objects that those
which they create inherit from.
-/

namespace PageWatch.Script

open Text

namespace Run

variable (machine : Machine)

/-- The name that a function gets from the key under which it is kept. -/
def nameOfKey : Key → Run Units
  | .index position => return toString position
  | .name text => return text
  | .symbol number => do
    match ← look fun memory => (memory.symbols[number]?).getD none with
    | some description => return "[" ++ description ++ "]"
    | none => return Units.empty
  | .hidden _ => return Units.empty

def describe (place : ObjectId) (length : Nat) (name : Units) : Run Unit := do
  putProperty place "length" ⟨.data (countValue length) false, false, true⟩
  putProperty place "name" ⟨.data (.text name) false, false, true⟩

def codeAt (number : CodeNumber) : Run Code :=
  look fun memory => (memory.codes[number]?).getD default

/-- Gives a function the object that those which it creates inherit from. -/
def givePrototype (place prototype : ObjectId) (writable : Bool) : Run Unit :=
  putProperty place "prototype" ⟨.data (.object prototype) writable, false, false⟩

/-- Makes an object of a function of the script, with a name unless it has its own. -/
def newFunction (here : Here) (number : CodeNumber) (name : Units) (home : Option ObjectId) :
    Run ObjectId := do
  let code ← codeAt number
  let scope ← match code.ownName with
    | some _ => addScope [] here.scope
    | none => pure here.scope
  let creates := code.kind == .normal && !code.async && !code.generator
  let place ← addObject (.function ⟨.closure number scope home, creates, none, []⟩)
    (some Intrinsic.function.place)
  describe place code.length (code.name.getD name)
  match code.ownName with
  | some own =>
    modify <| Memory.modifyScope scope fun scope =>
      { scope with
        bindings := [(own, { value := some (.object place), constant := true, ignored := true })] }
  | none => pure ()
  if creates then
    let prototype ← newObject
    putProperty prototype "constructor" (.quiet (.object place))
    givePrototype place prototype true
  else if code.generator then
    givePrototype place (← addObject .plain (some Intrinsic.generator.place)) true
  return place

end Run

end PageWatch.Script
