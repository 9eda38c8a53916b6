import PageWatch.Script.Dialogue
import PageWatch.Script.Failure
import PageWatch.Script.Library.Setup
import PageWatch.Script.Program

/-!
# Running scripts

The operations of scripts, tied together. Functions of a script can call each other up to
some depth; within a call, expressions and statements nest as deeply as the text of the
script lets them. Generators that have paused are kept beside the memory, each with what
it does when it goes on.
-/

namespace PageWatch.Script

open Text

namespace Machine

/-- The operations of a call, when so many levels are left in it. Functions that it
calls run on the deeper machine. -/
def within (natives : Array Native) (deeper : Machine) : Nat → Machine
  | 0 => exhausted
  | levels + 1 =>
    { call := fun callee self arguments memory =>
        Run.callValue natives deeper (within natives deeper levels) callee self arguments memory
      create := fun callee arguments newTarget memory =>
        Run.createValue natives deeper (within natives deeper levels) callee arguments newTarget
          memory
      evaluate := fun here expr memory =>
        Run.evaluate (within natives deeper levels) here expr memory
      evaluateNamed := fun here name expr memory =>
        Run.evaluateUnder (within natives deeper levels) here name expr memory
      link := fun here expr memory =>
        Run.evaluateLink (within natives deeper levels) here expr memory
      place := fun here purpose pattern value memory =>
        Run.placeValue (within natives deeper levels) here purpose pattern value memory
      execute := fun here statement memory =>
        Run.execute (within natives deeper levels) here statement memory }

/-- How deeply the parts of a script nest at most. -/
def manyLevels : Nat := 1000000

/-- How deeply the functions of a script call each other at most. -/
def mostCalls : Nat := 512

/-- The operations of scripts, when so many calls can still be nested. -/
def ofDepth (natives : Array Native) : Nat → Machine
  | 0 => exhausted
  | calls + 1 => within natives (ofDepth natives calls) manyLevels

def ofNatives (natives : Array Native) : Machine := ofDepth natives mostCalls

end Machine

/-- What a generator that has paused does next. -/
structure Paused where
  generator : ObjectId
  next : Memory → Resumption → Course Value

/-- Who waits for a generator that is running. -/
structure Resumer where
  generator : ObjectId
  next : Memory → Except Abrupt (Value × Bool) → Course Value

/-- A script between two calls. -/
structure Stage where
  memory : Memory
  paused : List Paused

namespace Stage

def setPhase (generator : ObjectId) (phase : Phase) (memory : Memory) : Memory :=
  memory.modifyObject generator fun object =>
    match object.kind with
    | .generator code scope _ => { object with kind := .generator code scope phase }
    | _ => object

/-- What a generator does that has not begun yet. -/
def generatorBody (machine : Machine) (generator : ObjectId) : Run Value := do
  match (← Run.objectAt generator).kind with
  | .generator number scope _ =>
    let code ← Run.codeAt number
    Run.executeBody machine ⟨scope, code.strict⟩ code.body
  | _ => return .undefined

/-- What a generator answers when it has come to its end. -/
def lastAnswer : Except Abrupt Value → Except Abrupt (Value × Bool)
  | .ok value | .error (.returning value) => .ok (value, true)
  | .error abrupt => .error abrupt

/-- How far a generator has come that has ended in a way. One that waits never goes on. -/
def lastPhase : Except Abrupt Value → Phase
  | .error .waiting => .running
  | _ => .finished

/-- The failure of a computation that ended in a way. -/
def failure? (memory : Memory) : Except Abrupt Value → Option String
  | .ok _ => none
  | .error abrupt => abrupt.failure? memory

/-- The dialogue of a computation, where generators run in between. The number bounds the
switches between generators. -/
def drive (machine : Machine) :
    Nat → List Resumer → List Paused → Course Value → Dialogue Stage
  | 0, _, paused, _ => .finished (some exhaustedText) ⟨Memory.empty #[], paused⟩
  | switches + 1, resumers, paused, course =>
    course.follow
      (fun result memory =>
        match resumers with
        | [] => .finished (failure? memory result) ⟨memory, paused⟩
        | resumer :: resumers =>
          let memory := setPhase resumer.generator (lastPhase result) memory
          drive machine switches resumers paused (resumer.next memory (lastAnswer result)))
      (fun memory generator message next =>
        let memory := setPhase generator .running memory
        let body := match paused.find? (·.generator == generator) with
          | some resumed => resumed.next memory message
          | none => generatorBody machine generator memory
        drive machine switches (⟨generator, next⟩ :: resumers)
          (paused.filter (·.generator != generator)) body)
      (fun memory value next =>
        match resumers with
        | [] => .finished none ⟨memory, paused⟩
        | resumer :: resumers =>
          let memory := setPhase resumer.generator .suspended memory
          drive machine switches resumers (⟨resumer.generator, next⟩ :: paused)
            (resumer.next memory (.ok (value, false))))

def perform (machine : Machine) (stage : Stage) (computation : Run Value) : Dialogue Stage :=
  drive machine Run.manyRounds [] stage.paused (computation stage.memory)

end Stage

/-- Performs the script that a text is. Its document can be changed or not. -/
def performer (changeable : Bool) (text : String) : Performer Stage :=
  let setup := Setup.complete changeable
  let machine := Machine.ofNatives setup.natives
  let stage : Stage := ⟨setup.memory, []⟩
  { start :=
      match Program.ofText? text with
      | none => .finished (some unreadableText) stage
      | some program => stage.perform machine (Run.runProgram machine program)
    call := fun stage callback =>
      stage.perform machine (machine.call (.object callback) .undefined []) }

end PageWatch.Script
