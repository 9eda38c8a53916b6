import PageWatch.Script.Library.Object

/-!
# Arrays in the library

The functions of arrays work on everything that has a length and positions. Where they
make a new array, an array of a class that extends arrays gets one of that class.
-/

namespace PageWatch.Script.Library

open Text Run

/-- The object that `this` is, with its length. -/
def selfList (given : Given) : Run (ObjectId × Nat) := do
  let place ← toObject given.self
  return (place, ← lengthLike given.machine place)

def valueAt (given : Given) (place : ObjectId) (position : Nat) : Run Value :=
  getOf given.machine place (.index position)

def hasAt (given : Given) (place : ObjectId) (position : Nat) : Run Bool :=
  has given.machine place (.index position)

/-- Writes a property, which must be possible. -/
def write (given : Given) (place : ObjectId) (key : Key) (value : Value) : Run Unit :=
  set given.machine (.object place) key value true

def removeAt (given : Given) (place : ObjectId) (position : Nat) : Run Unit := do
  if !(← remove given.machine place (.index position)) then typeError "cannot delete property"

/-- Whether an object is an array. -/
def isArray : Nat → Value → Run Bool
  | 0, _ => return false
  | steps + 1, .object place => do
    match (← objectAt place).kind with
    | .array => return true
    | .proxy target _ _ _ => isArray steps (.object target)
    | _ => return false
  | _, _ => return false

def isArrayValue (value : Value) : Run Bool := isArray 100 value

/-- A new array of the kind that an array is, for the given number of values. -/
def newLike (given : Given) (place : ObjectId) (length : Nat) : Run ObjectId := do
  let plain : Run ObjectId := do
    let array ← newArray []
    setLength array length
    return array
  if !(← isArrayValue (.object place)) then plain
  else
    match ← getOf given.machine place "constructor" with
    | .object maker =>
      if maker == Intrinsic.array.constructor then plain
      else
        match ← getOf given.machine maker WellKnown.species.key with
        | .undefined | .null => plain
        | species =>
          if strictlyEqual species (.object Intrinsic.array.constructor) then plain
          else
            match ← given.machine.create species [countValue length] species with
            | .object created => return created
            | _ => plain
    | _ => plain

/-- The values of `this` that are there, with their positions. -/
def forPresent {α : Type} (given : Given) (state : α) (step : α → Nat → Value → Run α) :
    Run α := do
  let (place, length) ← selfList given
  forPositions length state fun state position => do
    if ← hasAt given place position then step state position (← valueAt given place position)
    else return state

def callFor (given : Given) (value : Value) (position : Nat) : Run Value := do
  given.machine.call given.first given.second
    [value, countValue position, .object (← toObject given.self)]

/-! ## Searching -/

/-- The first position at which a function answers true, with the value there. -/
def findFirst? (given : Given) : Run (Option (Nat × Value)) := do
  let (place, length) ← selfList given
  discard <| callbackOf given.first
  firstPosition? length fun position => do
    let value ← valueAt given place position
    if isTrue (← callFor given value position) then return some (position, value)
    else return none

/-- The last position at which a function answers true, with the value there. -/
def findLast? (given : Given) : Run (Option (Nat × Value)) := do
  let (place, length) ← selfList given
  discard <| callbackOf given.first
  lastPosition? length fun position => do
    let value ← valueAt given place position
    if isTrue (← callFor given value position) then return some (position, value)
    else return none

def positionOf? (given : Given) (equal : Value → Value → Bool) (holes : Bool) :
    Run (Option Nat) := do
  let (place, length) ← selfList given
  let start ← toPosition given.machine given.second length 0
  firstPosition? (length - start) fun offset => do
    let position := start + offset
    if holes || (← hasAt given place position) then
      if equal (← valueAt given place position) given.first then return some position
      else return none
    else return none

/-- The last position of a value up to another position. -/
def lastPositionOf? (given : Given) : Run (Option Nat) := do
  let (place, length) ← selfList given
  if length == 0 then return none
  let stop ← if given.has 1 then do
      let start ← toWholeNumber given.machine given.second
      let last := if start < 0 then Float.ofNat length + start
        else smallerOf start (Float.ofNat (length - 1))
      pure (if last < 0 then 0 else last.toUInt64.toNat + 1)
    else pure length
  lastPosition? stop fun position => do
    if ← hasAt given place position then
      if strictlyEqual (← valueAt given place position) given.first then return some position
      else return none
    else return none
where
  /-- The smaller of two numbers. -/
  smallerOf (x y : Float) : Float := if y < x then y else x

def positionValue (position : Option Nat) : Value :=
  match position with
  | some position => countValue position
  | none => .number (-1)

/-! ## Texts -/

/-- The texts of the values of an object, with a text between each two. -/
def joined (given : Given) (place : ObjectId) (between : Units) : Run Units := do
  let length ← lengthLike given.machine place
  let texts ← forPositions length [] fun texts position => do
    match ← valueAt given place position with
    | .undefined | .null => return Units.empty :: texts
    | value => return (← toText given.machine value) :: texts
  return Units.intercalate between texts.reverse

/-- The texts of the values of an object, unless the object is being written already. -/
def joinedOnce (given : Given) (place : ObjectId) (between : Units) : Run Units := do
  if (← look (·.writing)).contains place then return Units.empty
  modify fun memory => { memory with writing := place :: memory.writing }
  let result ← (joined given place between).attempt
  modify fun memory => { memory with writing := memory.writing.erase place }
  resumeWith result

/-! ## Sorting -/

/-- Merges two sorted lists. The number bounds the steps. -/
def mergeBy (inOrder : Value → Value → Run Bool) :
    Nat → List Value → List Value → List Value → Run (List Value)
  | 0, merged, first, second => return merged.reverse ++ first ++ second
  | _ + 1, merged, [], second => return merged.reverse ++ second
  | _ + 1, merged, first, [] => return merged.reverse ++ first
  | steps + 1, merged, a :: first, b :: second => do
    if ← inOrder a b then mergeBy inOrder steps (a :: merged) first (b :: second)
    else mergeBy inOrder steps (b :: merged) (a :: first) second

/-- Sorts values, where equal ones keep their order. The number bounds the halvings. -/
def sortBy (inOrder : Value → Value → Run Bool) : Nat → List Value → Run (List Value)
  | 0, values => return values
  | steps + 1, values => do
    if values.length < 2 then return values
    let middle := values.length / 2
    let first ← sortBy inOrder steps (values.take middle)
    let second ← sortBy inOrder steps (values.drop middle)
    mergeBy inOrder values.length [] first second

/-- Whether two values are in order for a sorting function, or by their texts. -/
def inOrder (machine : Machine) (comparer first second : Value) : Run Bool := do
  match first, second with
  | _, .undefined => return true
  | .undefined, _ => return false
  | _, _ =>
    match comparer with
    | .undefined =>
      let first ← toText machine first
      let second ← toText machine second
      return !second.lt first
    | _ =>
      let order ← toNumber machine (← machine.call comparer .undefined [first, second])
      return !(0 < order)

/-- The values of `this`, sorted. -/
def sorted (given : Given) (values : List Value) : Run (List Value) :=
  sortBy (inOrder given.machine given.first) (values.length + 1) values

/-- Checks the function that an array is to be sorted with. -/
def checkComparer (value : Value) : Run Unit := do
  match value with
  | .undefined => return
  | _ =>
    if !(← isCallable value) then
      typeError "the provided comparison function is not a callable function"

/-! ## Flattening -/

/-- The values of an object, with those of arrays among them instead of the arrays. -/
def flattened (given : Given) : Nat → ObjectId → Float → Run (List Value)
  | 0, _, _ => stop .exhausted
  | steps + 1, place, depth => do
    let length ← lengthLike given.machine place
    forPositions length [] fun values position => do
      if ← hasAt given place position then
        let value ← valueAt given place position
        match value with
        | .object inner =>
          if 0 < depth && (← isArrayValue value) then
            return values ++ (← flattened given steps inner (depth - 1))
          else return values ++ [value]
        | _ => return values ++ [value]
      else return values

/-- Fills a new array of the kind of `this`. -/
def filled (given : Given) (place : ObjectId) (values : List Value) : Run Value := do
  let target ← newLike given place 0
  for (value, position) in values.zipIdx do put given.machine target (.index position) value
  return .object target

/-! ## Changing in place -/

/-- Moves what is at a position to another one. -/
def move (given : Given) (place : ObjectId) (source target : Nat) : Run Unit := do
  if ← hasAt given place source then
    write given place (.index target) (← valueAt given place source)
  else removeAt given place target

def writeLength (given : Given) (place : ObjectId) (length : Nat) : Run Unit :=
  write given place "length" (countValue length)

/-- Replaces values from a position on by others. -/
def replaceAt (given : Given) (place : ObjectId) (length start removed : Nat)
    (values : List Value) : Run Unit := do
  let added := values.length
  let behind := length - start - removed
  if added < removed then
    forPositions behind () fun _ offset =>
      move given place (start + removed + offset) (start + added + offset)
    forPositions (removed - added) () fun _ offset => removeAt given place (length - 1 - offset)
  else if removed < added then
    discard <| lastPosition? (α := Unit) behind fun offset => do
      move given place (start + removed + offset) (start + added + offset)
      return none
  for (value, offset) in values.zipIdx do write given place (.index (start + offset)) value
  writeLength given place (length - removed + added)

/-- How many values are to be removed from a position on. -/
def removalCount (given : Given) (length start : Nat) : Run Nat := do
  if !given.has 0 then return 0
  if !given.has 1 then return length - start
  let count ← toWholeNumber given.machine given.second
  return if count ≤ 0 then 0 else min count.toUInt64.toNat (length - start)

def changingMethods : List (String × Nat × (Given → Run Value)) :=
  [("push", 1, fun given => do
      let (place, length) ← selfList given
      for (value, offset) in given.arguments.zipIdx do
        write given place (.index (length + offset)) value
      writeLength given place (length + given.arguments.length)
      natValue (length + given.arguments.length)),
   ("pop", 0, fun given => do
      let (place, length) ← selfList given
      if length == 0 then
        writeLength given place 0
        nothing
      else
        let value ← valueAt given place (length - 1)
        removeAt given place (length - 1)
        writeLength given place (length - 1)
        return value),
   ("shift", 0, fun given => do
      let (place, length) ← selfList given
      if length == 0 then
        writeLength given place 0
        nothing
      else
        let value ← valueAt given place 0
        replaceAt given place length 0 1 []
        return value),
   ("unshift", 1, fun given => do
      let (place, length) ← selfList given
      replaceAt given place length 0 0 given.arguments
      natValue (length + given.arguments.length)),
   ("splice", 2, fun given => do
      let (place, length) ← selfList given
      let start ← toPosition given.machine given.first length 0
      let count ← removalCount given length start
      let removed ← newLike given place 0
      forPositions count () fun _ offset => do
        if ← hasAt given place (start + offset) then
          put given.machine removed (.index offset) (← valueAt given place (start + offset))
      write given removed "length" (countValue count)
      replaceAt given place length start count (given.arguments.drop 2)
      return .object removed),
   ("reverse", 0, fun given => do
      let (place, length) ← selfList given
      forPositions (length / 2) () fun _ position => do
        let other := length - 1 - position
        let first? ← if ← hasAt given place position then
            do pure (some (← valueAt given place position)) else pure none
        let second? ← if ← hasAt given place other then
            do pure (some (← valueAt given place other)) else pure none
        match second? with
        | some value => write given place (.index position) value
        | none => removeAt given place position
        match first? with
        | some value => write given place (.index other) value
        | none => removeAt given place other
      return .object place),
   ("sort", 1, fun given => do
      checkComparer given.first
      let (place, length) ← selfList given
      let values ← forPresent given [] fun values _ value => return value :: values
      let values ← sorted given values.reverse
      for (value, position) in values.zipIdx do write given place (.index position) value
      forPositions (length - values.length) () fun _ offset =>
        removeAt given place (values.length + offset)
      return .object place),
   ("fill", 1, fun given => do
      let (place, length) ← selfList given
      let start ← toPosition given.machine given.second length 0
      let stop ← toPosition given.machine (given.argument 2) length length
      forPositions (stop - start) () fun _ offset =>
        write given place (.index (start + offset)) given.first
      return .object place),
   ("copyWithin", 2, fun given => do
      let (place, length) ← selfList given
      let target ← toPosition given.machine given.first length 0
      let start ← toPosition given.machine given.second length 0
      let stop ← toPosition given.machine (given.argument 2) length length
      let count := min (stop - start) (length - target)
      if start < target then
        discard <| lastPosition? (α := Unit) count fun offset => do
          move given place (start + offset) (target + offset)
          return none
      else forPositions count () fun _ offset => move given place (start + offset) (target + offset)
      return .object place)]

/-! ## Going through values -/

/-- Combines values by a function, from one end. -/
def reduce (given : Given) (fromEnd : Bool) : Run Value := do
  let (place, length) ← selfList given
  let callback ← callbackOf given.first
  let step (state : Option Value) (position : Nat) : Run (Option Value) := do
    if ← hasAt given place position then
      let value ← valueAt given place position
      match state with
      | none => return some value
      | some state =>
        return some (← given.machine.call callback .undefined
          [state, value, countValue position, .object place])
    else return state
  let start := if given.has 1 then some given.second else none
  let result ← forPositions length start fun state position =>
    step state (if fromEnd then length - 1 - position else position)
  match result with
  | some value => return value
  | none => typeError "cannot reduce empty array with no initial value"

/-- The values of something to concatenate, if it is to be taken apart. -/
def concatenated (given : Given) (value : Value) : Run (Option ObjectId) := do
  match value with
  | .object place =>
    match ← getOf given.machine place WellKnown.isConcatSpreadable.key with
    | .undefined => return if ← isArrayValue value then some place else none
    | spreads => return if isTrue spreads then some place else none
  | _ => return none

/-- Puts arrays and values together. -/
def concat (given : Given) : Run Value := do
  let self ← toObject given.self
  let target ← newLike given self 0
  let length ← (Value.object self :: given.arguments).foldlM (fun length value => do
    match ← concatenated given value with
    | some place =>
      let count ← lengthLike given.machine place
      forPositions count () fun _ position => do
        if ← hasAt given place position then
          put given.machine target (.index (length + position)) (← valueAt given place position)
      return length + count
    | none =>
      put given.machine target (.index length) value
      return length + 1) 0
  write given target "length" (countValue length)
  return .object target

/-- Goes through the values of `this` with a function that comes as the first argument. -/
def each {α : Type} (given : Given) (state : α) (step : α → Value → Value → Run α) : Run α := do
  discard <| lengthLike given.machine (← toObject given.self)
  discard <| callbackOf given.first
  forPresent given state fun state position value => do
    step state value (← callFor given value position)

/-- Whether the function answers as wanted for some value. -/
def anyAnswer (given : Given) (wanted : Bool) : Run Bool := do
  let (place, length) ← selfList given
  discard <| callbackOf given.first
  let found ← firstPosition? length fun position => do
    if ← hasAt given place position then
      let answer ← callFor given (← valueAt given place position) position
      return if isTrue answer == wanted then some () else none
    else return none
  return found.isSome

/-- The functions that leave an array as it is. -/
def readingMethods : List (String × Nat × (Given → Run Value)) :=
  [("forEach", 1, fun given => do
      each given () fun _ _ _ => return ()
      nothing),
   ("map", 1, fun given => do
      let (place, length) ← selfList given
      discard <| callbackOf given.first
      let target ← newLike given place length
      forPresent given () fun _ position value => do
        put given.machine target (.index position) (← callFor given value position)
      return .object target),
   ("filter", 1, fun given => do
      let place ← toObject given.self
      let kept ← each given [] fun kept value answer =>
        return if isTrue answer then value :: kept else kept
      filled given place kept.reverse),
   ("some", 1, fun given => do return .boolean (← anyAnswer given true)),
   ("every", 1, fun given => do return .boolean (!(← anyAnswer given false))),
   ("find", 1, fun given => do
      return ((← findFirst? given).map (·.2)).getD .undefined),
   ("findIndex", 1, fun given => do return positionValue ((← findFirst? given).map (·.1))),
   ("findLast", 1, fun given => do
      return ((← findLast? given).map (·.2)).getD .undefined),
   ("findLastIndex", 1, fun given => do return positionValue ((← findLast? given).map (·.1))),
   ("indexOf", 1, fun given => do
      return positionValue (← positionOf? given strictlyEqual false)),
   ("lastIndexOf", 1, fun given => do return positionValue (← lastPositionOf? given)),
   ("includes", 1, fun given => do
      return .boolean (← positionOf? given sameValueZero true).isSome),
   ("reduce", 1, fun given => reduce given false),
   ("reduceRight", 1, fun given => reduce given true),
   ("join", 1, fun given => do
      let place ← toObject given.self
      let between ← match given.first with
        | .undefined => pure (Units.ofString ",")
        | value => toText given.machine value
      return .text (← joinedOnce given place between)),
   ("toString", 0, fun given => do
      let place ← toObject given.self
      let method ← getOf given.machine place "join"
      if ← isCallable method then given.machine.call method (.object place) []
      else kindText given.machine given.self),
   ("toLocaleString", 0, fun given => do
      let place ← toObject given.self
      return .text (← joinedOnce given place ",")),
   ("concat", 1, concat),
   ("slice", 2, fun given => do
      let (place, length) ← selfList given
      let start ← toPosition given.machine given.first length 0
      let stop ← toPosition given.machine given.second length length
      let target ← newLike given place (stop - start)
      forPositions (stop - start) () fun _ offset => do
        if ← hasAt given place (start + offset) then
          put given.machine target (.index offset) (← valueAt given place (start + offset))
      write given target "length" (countValue (stop - start))
      return .object target),
   ("at", 1, fun given => do
      let (place, length) ← selfList given
      let position ← toWholeNumber given.machine given.first
      let position := if position < 0 then Float.ofNat length + position else position
      if position < 0 || Float.ofNat length ≤ position then nothing
      else valueAt given place position.toUInt64.toNat),
   ("flat", 0, fun given => do
      let place ← toObject given.self
      let depth ← match given.first with
        | .undefined => pure 1
        | value => toWholeNumber given.machine value
      filled given place (← flattened given 1000 place depth)),
   ("flatMap", 1, fun given => do
      let place ← toObject given.self
      let values ← each given [] fun values _ answer => do
        match answer with
        | .object inner =>
          if ← isArrayValue answer then
            return (← flattened given 1 inner 0).reverse ++ values
          else return answer :: values
        | _ => return answer :: values
      filled given place values.reverse),
   ("toReversed", 0, fun given => do
      let place ← toObject given.self
      return .object (← newArray (← listLike given.machine place).reverse)),
   ("toSorted", 1, fun given => do
      checkComparer given.first
      let values ← listLike given.machine (← toObject given.self)
      return .object (← newArray (← sorted given values))),
   ("toSpliced", 2, fun given => do
      let values ← listLike given.machine (← toObject given.self)
      let start ← toPosition given.machine given.first values.length 0
      let count ← removalCount given values.length start
      return .object (← newArray
        (values.take start ++ given.arguments.drop 2 ++ values.drop (start + count)))),
   ("with", 2, fun given => do
      let values ← listLike given.machine (← toObject given.self)
      let position ← toWholeNumber given.machine given.first
      let position := if position < 0 then Float.ofNat values.length + position else position
      if position < 0 || Float.ofNat values.length ≤ position then rangeError "invalid index"
      return .object (← newArray (values.set position.toUInt64.toNat given.second)))]

/-- Makes an iterator over the positions of `this` and the values there. -/
def positionsIterator (wanted : Bool × Bool) (given : Given) : Run Value := do
  let place ← toObject given.self
  return .object (← addObject (.iterator (.positions place 0 wanted))
    (some Intrinsic.arrayIterator.place))

/-! ## Making arrays -/

/-- A new object for values, made by the constructor that a function belongs to. -/
def newFor (given : Given) (arguments : List Value) : Run ObjectId := do
  if ← isConstructor given.self then
    match ← given.machine.create given.self arguments given.self with
    | .object created => return created
    | _ => newArray []
  else newArray []

/-- Makes an array of what can be iterated, or has positions. -/
def arrayFrom (given : Given) : Run Value := do
  let change (value : Value) (position : Nat) : Run Value := do
    match given.second with
    | .undefined => return value
    | function => given.machine.call function (given.argument 2) [value, countValue position]
  match given.second with
  | .undefined => pure ()
  | function => discard <| callbackOf function
  match ← method? given.machine given.first WellKnown.iterator.key with
  | some _ =>
    let target ← newFor given []
    let iterator ← iterator given.machine given.first
    let length ← repeated (fun position => do
      match ← step given.machine iterator with
      | some value =>
        closingOnFailure given.machine iterator (do
          put given.machine target (.index position) (← change value position))
        return .inl (position + 1)
      | none => return .inr position) 0
    write given target "length" (countValue length)
    return .object target
  | none =>
    let source ← toObject given.first
    let length ← lengthLike given.machine source
    let target ← newFor given [countValue length]
    forPositions length () fun _ position => do
      put given.machine target (.index position) (← change (← valueAt given source position) position)
    write given target "length" (countValue length)
    return .object target

def makeArray (given : Given) : Run Value := do
  let parent ← prototypeFor given.machine given.newTarget .array
  let array ← match given.arguments with
    | [.number length] =>
      if length < 0 || 4294967295 < length || Number.truncate length != length then
        rangeError "invalid array length"
      let array ← newArray []
      setLength array length.toUInt64.toNat
      pure array
    | values => newArray values
  modifyObject array fun object => { object with parent := some parent }
  return .object array

def arrays : List Entry :=
  let maker := Intrinsic.array.constructor
  let prototype := Intrinsic.array.place
  [.constructor .array "Array" 1 makeArray] ++
  Entry.methods maker
    [("isArray", 1, fun given => do return .boolean (← isArrayValue given.first)),
     ("of", 0, fun given => do
        let target ← newFor given [countValue given.arguments.length]
        for (value, position) in given.arguments.zipIdx do put given.machine target (.index position) value
        write given target "length" (countValue given.arguments.length)
        return .object target),
     ("from", 1, arrayFrom)] ++
  [.accessor maker WellKnown.species.key (fun given => return given.self) none] ++
  Entry.methods prototype (changingMethods ++ readingMethods) ++
  Entry.methods prototype
    [("keys", 0, positionsIterator (true, false)), ("values", 0, positionsIterator (false, true)),
     ("entries", 0, positionsIterator (true, true))] ++
  [.also prototype WellKnown.iterator.key prototype "values"]

end PageWatch.Script.Library
