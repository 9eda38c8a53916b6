import PageWatch.Script.Memory
import PageWatch.Text.Printable
import PageWatch.Script.Course

/-!
# Failures

How the value that a script threw is shown to whoever ran the script.
-/

namespace PageWatch.Script

open Text

namespace Failure

/-- A property of an object or of those that it inherits from, if it holds a value. The
number bounds the steps. -/
def valueAt? (memory : Memory) (key : Key) : Nat → ObjectId → Option Value
  | 0, _ => none
  | steps + 1, place => do
    let object ← memory.objects[place]?
    match object.table.get? key with
    | some ⟨.data value _, _, _⟩ => some value
    | some _ => none
    | none => valueAt? memory key steps (← object.parent)

def primitiveText (memory : Memory) : Value → String
  | .undefined => "undefined"
  | .null => "null"
  | .boolean value => toString value
  | .number value => if Number.isNegativeZero value then "-0" else (Number.text value).write
  | .whole value => toString value ++ "n"
  | .text text => inspect text.write
  | .symbol number =>
    let description := (((memory.symbols[number]?).getD none).getD Units.empty).write
    "Symbol(" ++ description ++ ")"
  | .object _ => ""

/-- The text of a part of an error, or another one if it is missing. -/
def errorPart (memory : Memory) (place : ObjectId) (name missing : String) : String :=
  match valueAt? memory (.ofString name) 1000 place with
  | some (.text text) => text.write
  | some .undefined | some (.object _) | none => missing
  | some value => primitiveText memory value

/-- The text of an error: its name and its message. -/
def errorText (memory : Memory) (place : ObjectId) : String :=
  let name := errorPart memory place "name" "Error"
  let message := errorPart memory place "message" ""
  if message.isEmpty then name else if name.isEmpty then message else name ++ ": " ++ message

/-- Blanks at the front of a line. -/
def indentation (width : Nat) : String := String.ofList (List.replicate width ' ')

/-- The text of a value, as deeply as the number says. Members of objects stand on lines
of their own, four blanks further in. -/
def valueText (memory : Memory) : Nat → Nat → Value → String
  | 0, _, _ => ""
  | depth + 1, indent, .object place =>
    match memory.objects[place]? with
    | none => ""
    | some object =>
      let member (key : Key) : Option Property := object.table.get? key
      let shown (property : Option Property) : String :=
        match property with
        | some ⟨.data value _, _, _⟩ => valueText memory depth (indent + 4) value
        | some ⟨.accessor _ _, _, _⟩ => "Accessor"
        | none => "<empty>"
      match object.kind with
      | .error => errorText memory place
      | .array =>
        let items := object.table.keys.filter fun key =>
          match key with
          | .index _ => true
          | _ => false
        if items.isEmpty then "[]"
        else "[ " ++ ", ".intercalate (items.map fun key => shown (member key)) ++ " ]"
      | .function _ => "[Function: " ++ errorPart memory place "name" "" ++ "]"
      | .wrapper value => valueText memory depth indent value
      | _ =>
        let members := object.table.keys.filterMap fun key => do
          let name ← key.text?
          let property ← member key
          if property.enumerable then
            some (indentation (indent + 4) ++ name.write ++ ": " ++ shown (some property))
          else none
        if members.isEmpty then "\x7b\x7d"
        else
          "\x7b\n" ++ ",\n".intercalate members ++ "\n" ++ indentation indent ++ "\x7d"
  | _ + 1, _, value => primitiveText memory value

end Failure

def failureText (memory : Memory) (value : Value) : String := Failure.valueText memory 20 0 value

/-- The text of a script that is none. -/
def unreadableText : String := "SyntaxError"

/-- The text of a script whose functions call each other too deeply. -/
def exhaustedText : String := "RuntimeLimit: Maximum recursion limit 512 exceeded"

/-- The failure that a computation ended with, if it did. A value that never comes is no
failure. -/
def Abrupt.failure? (memory : Memory) : Abrupt → Option String
  | .thrown value => some (failureText memory value)
  | .returning _ | .waiting => none
  | .exhausted => some exhaustedText

end PageWatch.Script
