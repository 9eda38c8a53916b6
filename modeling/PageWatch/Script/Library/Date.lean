import PageWatch.Calendar
import PageWatch.Script.Library.Number

/-!
# Dates in the library

Scripts run at one fixed instant, so what they print about dates can be repeated, and
they live in Greenwich.
-/

namespace PageWatch.Script.Library

open Text Run Calendar

/-- The instant at which scripts run. -/
def presentInstant : Int := 1735689600000

/-- The date that `this` is: its place and its instant, if it has one. -/
def selfDate (given : Given) : Run (ObjectId × Option Int) := do
  match given.self with
  | .object place =>
    match (← objectAt place).kind with
    | .date instant => return (place, instant)
    | _ => typeError "'this' is not a Date"
  | _ => typeError "'this' is not a Date"

def instantValue (instant : Option Int) : Value :=
  match instant with
  | some instant => .number (Float.ofInt instant)
  | none => .number Number.nan

/-- The integer of an argument, if it is a number. -/
def integerOf? (machine : Machine) (value : Value) : Run (Option Int) := do
  return Number.truncate? (← toNumber machine value)

def integersOf (given : Given) : Run (List (Option Int)) :=
  given.arguments.mapM (integerOf? given.machine ·)

/-- The instant that parts tell, of which all after the first may be missing. Years of two
digits belong to the last century. -/
def instantOfParts (parts : List (Option Int)) : Option Int := do
  let parts ← parts.mapM id
  let part (position : Nat) (missing : Int) : Int := (parts[position]?).getD missing
  let year := part 0 0
  let year := if 0 ≤ year && year ≤ 99 then 1900 + year else year
  within? (instantOf (dayNumber year (part 1 0) (part 2 1)) (part 3 0) (part 4 0) (part 5 0)
    (part 6 0))

def dateText (instant : Option Int) (text : Moment → String) : Value :=
  match instant with
  | some instant => .text (text (momentOf instant))
  | none => .text "Invalid Date"

/-- The date and the time of an instant. -/
def fullText (moment : Moment) : String := moment.dateText ++ " " ++ moment.timeText

/-- The instant that the arguments of a constructor tell. -/
def instantGiven (given : Given) : Run (Option Int) := do
  match given.arguments with
  | [] => return some presentInstant
  | [value] =>
    let known ← match value with
      | .object place =>
        match (← objectAt place).kind with
        | .date instant => pure (some instant)
        | _ => pure none
      | _ => pure none
    match known with
    | some instant => return instant
    | none =>
      match ← toPrimitive given.machine value .any with
      | .text text => return Calendar.read? text.write
      | value => return (← integerOf? given.machine value).bind within?
  | _ => return instantOfParts (← integersOf given)

/-- A function that tells something about an instant. -/
def reading (name : String) (read : Moment → Int) : List (String × Nat × (Given → Run Value)) :=
  let run (given : Given) : Run Value := do
    let (_, instant) ← selfDate given
    match instant with
    | some instant => return .number (Float.ofInt (read (momentOf instant)))
    | none => return .number Number.nan
  [("get" ++ name, 0, run), ("getUTC" ++ name, 0, run)]

/-- The parts of an instant: year, month from zero, day, hour, minute, second and
millisecond. -/
def partsOf (moment : Moment) : List Int :=
  [moment.date.year, (moment.date.month : Int) - 1, moment.date.day, moment.hour,
   moment.minute, moment.second, moment.millisecond]

def instantOfAll (parts : List Int) : Option Int :=
  match parts with
  | [year, month, day, hour, minute, second, millisecond] =>
    within? (instantOf (dayNumber year month day) hour minute second millisecond)
  | _ => none

/-- A function that changes parts of an instant, from a position on. -/
def writing (name : String) (first most : Nat) : List (String × Nat × (Given → Run Value)) :=
  let run (given : Given) : Run Value := do
    let (place, instant) ← selfDate given
    let new ← integersOf given
    let new := if new.isEmpty then [none] else new.take most
    let start := if first = 0 then some (instant.getD 0) else instant
    let changed := do
      let old := partsOf (momentOf (← start))
      let new ← new.mapM id
      instantOfAll (old.take first ++ new ++ old.drop (first + new.length))
    setKind place (.date changed)
    return instantValue changed
  [("set" ++ name, most, run), ("setUTC" ++ name, most, run)]

/-- The functions of dates that tell their parts. -/
def dateReaders : List (String × Nat × (Given → Run Value)) :=
  reading "FullYear" (fun moment => moment.date.year) ++
  reading "Month" (fun moment => (moment.date.month : Int) - 1) ++
  reading "Date" (fun moment => moment.date.day) ++
  reading "Day" (fun moment => moment.weekday) ++
  reading "Hours" (fun moment => moment.hour) ++
  reading "Minutes" (fun moment => moment.minute) ++
  reading "Seconds" (fun moment => moment.second) ++
  reading "Milliseconds" (fun moment => moment.millisecond)

/-- The functions of dates that change their parts. -/
def dateWriters : List (String × Nat × (Given → Run Value)) :=
  writing "FullYear" 0 3 ++ writing "Month" 1 2 ++ writing "Date" 2 1 ++ writing "Hours" 3 4 ++
  writing "Minutes" 4 3 ++ writing "Seconds" 5 2 ++ writing "Milliseconds" 6 1

def dateWriter (text : Moment → String) (given : Given) : Run Value := do
  let (_, instant) ← selfDate given
  return dateText instant text

def dateMethods : List (String × Nat × (Given → Run Value)) :=
  let instant (given : Given) : Run Value := do return instantValue (← selfDate given).2
  [("getTime", 0, instant), ("valueOf", 0, instant),
   ("getTimezoneOffset", 0, fun given => do
      let (_, instant) ← selfDate given
      return if instant.isSome then .number 0 else .number Number.nan),
   ("setTime", 1, fun given => do
      let (place, _) ← selfDate given
      let instant := (← integerOf? given.machine given.first).bind within?
      setKind place (.date instant)
      return instantValue instant),
   ("toString", 0, dateWriter fullText), ("toDateString", 0, dateWriter Moment.dateText),
   ("toTimeString", 0, dateWriter Moment.timeText), ("toUTCString", 0, dateWriter Moment.mailText),
   ("toLocaleString", 0, dateWriter fullText),
   ("toLocaleDateString", 0, dateWriter Moment.dateText),
   ("toLocaleTimeString", 0, dateWriter Moment.timeText),
   ("toISOString", 0, fun given => do
      let (_, instant) ← selfDate given
      match instant with
      | some instant => return .text (momentOf instant).sortableText
      | none => rangeError "Invalid time value"),
   ("toJSON", 1, fun given => do
      let place ← toObject given.self
      match ← toPrimitive given.machine (.object place) .number with
      | .number value =>
        if value.isFinite then invoke given.machine (.object place) "toISOString" []
        else return .null
      | _ => invoke given.machine (.object place) "toISOString" [])]

def dates : List Entry :=
  let maker := Intrinsic.date.constructor
  let prototype := Intrinsic.date.place
  [.constructor .date "Date" 7 fun given => do
    if given.creates then
      let instant ← instantGiven given
      let parent ← prototypeFor given.machine given.newTarget .date
      return .object (← addObject (.date instant) (some parent))
    else return dateText (some presentInstant) fullText] ++
  Entry.methods maker
    [("now", 0, fun _ => return instantValue (some presentInstant)),
     ("parse", 1, fun given => do
        return instantValue (Calendar.read? (← toText given.machine given.first).write)),
     ("UTC", 7, fun given => do return instantValue (instantOfParts (← integersOf given)))] ++
  Entry.methods prototype (dateReaders ++ dateWriters ++ dateMethods) ++
  [.method prototype WellKnown.toPrimitive.key 1 fun given => do
    let place ← objectOf given.self "'this' is not an object"
    match given.first with
    | .text hint =>
      if hint == "number" then
        firstPrimitive given.machine place ["valueOf", "toString"]
      else if hint == "string" || hint == "default" then
        firstPrimitive given.machine place ["toString", "valueOf"]
      else typeError "invalid hint"
    | _ => typeError "invalid hint"]

end PageWatch.Script.Library
