import PageWatch.Script.Reference

/-!
# Taking values apart

A pattern gives the parts of a value to names and other places. The items of an array's
pattern come from an iterator, which is told when no more of them are wanted.
-/

namespace PageWatch.Script

open Text

namespace Run

variable (machine : Machine)

/-- The name that a pattern gives its value to, if it is nothing but a name. -/
def Pattern.name? : Pattern → Option String
  | .target (.name name) => some name
  | _ => none

/-- The properties of an object that it shows, without some of them, in a new object. -/
def copyRest (source : Value) (without : List Key) : Run ObjectId := do
  let target ← newObject
  match source with
  | .undefined | .null => return target
  | _ =>
    let place ← toObject source
    for key in ← ownKeys machine place do
      if !without.contains key then
        match ← ownProperty? machine place key with
        | some property => if property.enumerable then put machine target key (← getOf machine place key)
        | none => pure ()
    return target

/-- Gives the values of an iterator to the items of an array's pattern. Answers whether
the iterator has come to its end. -/
def placeItems (here : Here) (purpose : Purpose) (iterator : Iterator) :
    List Pattern → Bool → Run Bool
  | [], finished => return finished
  | .rest pattern :: _, finished => do
    let values ← if finished then pure [] else
      repeated (fun values => do
        match ← step machine iterator with
        | some value => return .inl (value :: values)
        | none => return .inr values.reverse) []
    machine.place here purpose pattern (.object (← newArray values))
    return true
  | item :: items, finished => do
    let next ← if finished then pure none else step machine iterator
    let place : Run Unit := do
      match item with
      | .skip => pure ()
      | _ => machine.place here purpose item (next.getD .undefined)
    if next.isSome then closingOnFailure machine iterator place else place
    placeItems here purpose iterator items next.isNone

/-- Whether a pattern gives its whole value to one place. -/
def takesWhole : Pattern → Bool
  | .target _ => true
  | .orElse inner _ => takesWhole inner
  | _ => false

/-- Gives the properties of a value to the members of an object's pattern. The keys are
those that have been taken before. A property that is itself taken apart counts as left
and is among the rest. -/
def placeMembers (here : Here) (purpose : Purpose) (value : Value) :
    List Pattern → List Key → Run Unit
  | [], _ => return
  | .rest pattern :: _, taken => do
    machine.place here purpose pattern (.object (← copyRest machine value taken))
  | .member key pattern :: members, taken => do
    let key ← evaluateKey machine here key
    machine.place here purpose pattern (← get machine value key)
    placeMembers here purpose value members (if takesWhole pattern then key :: taken else taken)
  | _ :: members, taken => placeMembers here purpose value members taken

/-- Gives the parts of a value to a pattern. -/
def placeValue (here : Here) (purpose : Purpose) (pattern : Pattern) (value : Value) :
    Run Unit := do
  match pattern with
  | .target (.name name) =>
    match purpose with
    | .assign => writeName machine here name value
    | .introduce => initializeName machine here name value
  | .target target => writeReference machine here (← reference machine here target) value
  | .orElse inner other =>
    match value with
    | .undefined =>
      let other ← match Pattern.name? inner with
        | some name => machine.evaluateNamed here name other
        | none => machine.evaluate here other
      machine.place here purpose inner other
    | _ => machine.place here purpose inner value
  | .array items =>
    let iterator ← iterator machine value
    let finished ← placeItems machine here purpose iterator items false
    unless finished do closeIterator machine iterator
  | .object members =>
    match value with
    | .undefined | .null => typeError "cannot convert 'null' or 'undefined' to object"
    | _ => placeMembers machine here purpose value members []
  | .rest inner | .member _ inner => machine.place here purpose inner value
  | .skip => return

end Run

end PageWatch.Script
