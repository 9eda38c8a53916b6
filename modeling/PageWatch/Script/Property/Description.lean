import PageWatch.Script.Property.Basic

/-!
# Descriptions of properties

A script tells what a property is to be by an object that describes it, and is told what
a property is by such an object. A description can leave parts open; they stay as they
are.
-/

namespace PageWatch.Script

open Text

/-- What a description says about a property. What it leaves open stays as it is. -/
structure Description where
  value : Option Value
  writable : Option Bool
  getter : Option (Option ObjectId)
  setter : Option (Option ObjectId)
  enumerable : Option Bool
  configurable : Option Bool

namespace Description

/-- The description that says all about a property. -/
def ofProperty (property : Property) : Description :=
  match property.slot with
  | .data value writable =>
    ⟨some value, some writable, none, none, some property.enumerable,
      some property.configurable⟩
  | .accessor getter setter =>
    ⟨none, none, some getter, some setter, some property.enumerable,
      some property.configurable⟩

def ofValue (value : Value) : Description := ⟨some value, none, none, none, none, none⟩

/-- The property that a description makes of an old one. -/
def property (description : Description) (old : Option Property) : Property :=
  let enumerable := description.enumerable.getD ((old.map (·.enumerable)).getD false)
  let configurable := description.configurable.getD ((old.map (·.configurable)).getD false)
  let oldSlot := old.map (·.slot)
  let slot :=
    if description.getter.isSome || description.setter.isSome then
      let (getter, setter) := match oldSlot with
        | some (.accessor getter setter) => (getter, setter)
        | _ => (none, none)
      Slot.accessor (description.getter.getD getter) (description.setter.getD setter)
    else
      match oldSlot with
      | some (.data value writable) =>
        .data (description.value.getD value) (description.writable.getD writable)
      | some (.accessor getter setter) =>
        if description.value.isSome || description.writable.isSome then
          .data (description.value.getD .undefined) (description.writable.getD false)
        else .accessor getter setter
      | none => .data (description.value.getD .undefined) (description.writable.getD false)
  ⟨slot, enumerable, configurable⟩

end Description

namespace Run

variable (machine : Machine)

def describedPart? (place : ObjectId) (name : String) : Run (Option Value) := do
  if ← has machine place (.ofString name) then
    return some (← getOf machine place (.ofString name))
  else return none

def describedFunction? (part : Option Value) (message : String) :
    Run (Option (Option ObjectId)) := do
  match part with
  | none => return none
  | some .undefined => return some none
  | some value =>
    if ← isCallable value then return some (object? value) else typeError message

def readDescription (value : Value) : Run Description := do
  match value with
  | .object place =>
    let enumerable ← describedPart? machine place "enumerable"
    let configurable ← describedPart? machine place "configurable"
    let content ← describedPart? machine place "value"
    let writable ← describedPart? machine place "writable"
    let getter ← describedFunction? (← describedPart? machine place "get")
      "Property descriptor getter must be callable"
    let setter ← describedFunction? (← describedPart? machine place "set")
      "Property descriptor setter must be callable"
    if (getter.isSome || setter.isSome) && (content.isSome || writable.isSome) then
      typeError "Invalid property descriptor. Cannot both specify accessors and a value or writable attribute."
    return ⟨content, writable.map isTrue, getter, setter, enumerable.map isTrue,
      configurable.map isTrue⟩
  | _ => typeError "Cannot construct a property descriptor from a non-object"

/-- The object that describes a property, with the parts that the description has. -/
def describingObject (description : Description) : Run Value := do
  let place ← newObject
  let part (name : String) (value : Option Value) : Run Unit :=
    match value with
    | some value => putProperty place (.ofString name) (.ofValue value)
    | none => pure ()
  let function (value : Option ObjectId) : Value := (value.map Value.object).getD .undefined
  part "value" description.value
  part "writable" (description.writable.map Value.boolean)
  part "get" (description.getter.map function)
  part "set" (description.setter.map function)
  part "enumerable" (description.enumerable.map Value.boolean)
  part "configurable" (description.configurable.map Value.boolean)
  return .object place

end Run

end PageWatch.Script
