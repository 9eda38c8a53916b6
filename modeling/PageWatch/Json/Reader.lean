import PageWatch.Json.Fault
import PageWatch.Text.CharRanges

/-!
# Reading JSON

A reader takes what it needs from the front of a text, or fails with a cause and a
place. The rest of the text is kept also after a failure, since an enclosing array or
object still looks for its end before it reports the failure of a member.
-/

namespace PageWatch.Json

/-- The text still to be read and the place where it starts. -/
structure Cursor where
  rest : List Char
  place : Position
  deriving Repr, Inhabited

/-- The start of a text. -/
def Cursor.start (text : String) : Cursor :=
  ⟨text.toList, ⟨1, 0⟩⟩

/-- A computation that reads from the front of a text. -/
abbrev Reader := ExceptT Failure (StateM Cursor)

namespace Reader

def fail {α : Type} (fault : Fault) : Reader α := fun cursor =>
  (.error ⟨fault, some cursor.place⟩, cursor)

/-- Fails so many bytes behind the place reached, and leaves those bytes. -/
def failAfter {α : Type} (bytes : Nat) (fault : Fault) : Reader α := fun cursor =>
  (.error ⟨fault, some (cursor.place.skipBytes bytes cursor.rest)⟩, cursor)

/-- Fails behind the next byte, or at the end of the text if there is none. -/
def failAtNext {α : Type} (fault : Fault) : Reader α :=
  failAfter 1 fault

/-- Fails with a place that an enclosing value sets. -/
def failUnplaced {α : Type} (fault : Fault) : Reader α := fun cursor =>
  (.error ⟨fault, none⟩, cursor)

/-- The next character, which stays. -/
def peek : Reader (Option Char) := do
  let cursor ← get
  return cursor.rest.head?

/-- Takes the next character, if there is one. -/
def skip : Reader Unit :=
  modify fun cursor =>
    match cursor.rest with
    | [] => cursor
    | c :: rest => ⟨rest, cursor.place.next c⟩

/-- The rest of a text behind its leading white space. -/
def dropSpace : List Char → Position → Cursor
  | c :: rest, place =>
    if c = ' ' ∨ c = '\n' ∨ c = '\t' ∨ c = '\r' then dropSpace rest (place.next c)
    else ⟨c :: rest, place⟩
  | [], place => ⟨[], place⟩

/-- Skips white space and looks at what follows. -/
def peekToken : Reader (Option Char) := do
  modify fun cursor => dropSpace cursor.rest cursor.place
  peek

/-- The digits at the front of a text, and what follows them. -/
def splitDigits (text : List Char) : List Char × List Char :=
  (text.takeWhile Char.isDigit, text.dropWhile Char.isDigit)

def digits : Reader (List Char) := do
  let cursor ← get
  let (front, rest) := splitDigits cursor.rest
  set (Cursor.mk rest ⟨cursor.place.line, cursor.place.column + front.length⟩)
  return front

/-- Takes the characters of a word one after the other. -/
def word : List Char → Reader Unit
  | [] => pure ()
  | expected :: more => do
    match ← peek with
    | none => fail .endInValue
    | some c =>
      if c = expected then
        skip
        word more
      else failAfter 1 .expectedWord

/-- Sets the place of a failure that has none to the place reached. -/
def located {α : Type} (reader : Reader α) : Reader α := fun cursor =>
  match reader cursor with
  | (.error ⟨fault, none⟩, after) => (.error ⟨fault, some after.place⟩, after)
  | result => result

/-- Reads with the first reader and then with the second, also if the first failed;
the first failure counts. -/
def thenClose {α : Type} (body : Reader α) (close : Reader Unit) : Reader α := fun cursor =>
  match body cursor with
  | (.error failure, after) => (.error failure, (close after).2)
  | (.ok value, after) =>
    match close after with
    | (.error failure, last) => (.error failure, last)
    | (.ok (), last) => (.ok value, last)

/-! ### Strings -/

/-- The value of four hexadecimal digits. -/
def hexValue4? (a b c d : Char) : Option Nat := do
  let a ← Text.hexValue? a
  let b ← Text.hexValue? b
  let c ← Text.hexValue? c
  let d ← Text.hexValue? d
  return ((a * 16 + b) * 16 + c) * 16 + d

/-- The number of bytes of a text, counted up to four. -/
def bytesUpTo4 : List Char → Nat
  | [] => 0
  | c :: rest => if c.utf8Size ≥ 4 then 4 else min 4 (c.utf8Size + bytesUpTo4 rest)

/-- Takes the four digits of an escape. -/
def hexEscape : Reader Nat := do
  let cursor ← get
  match cursor.rest with
  | a :: b :: c :: d :: rest =>
    match hexValue4? a b c d with
    | some value =>
      set (Cursor.mk rest ⟨cursor.place.line, cursor.place.column + 4⟩)
      return value
    | none => failAfter 4 .invalidEscape
  | short =>
    if bytesUpTo4 short < 4 then failAfter 4 .endInString else failAfter 4 .invalidEscape

/-- The character of a code point outside the surrogates. -/
def ofCode (code : Nat) : Char :=
  Char.ofNat code

/-- The code point that a pair of surrogates stands for. -/
def pairCode (high low : Nat) : Nat :=
  (high - 0xD800) * 0x400 + (low - 0xDC00) + 0x10000

/-- What follows `\u` in a string: one code point, or both halves of a pair. -/
def unicodeEscape : Reader Char := do
  let first ← hexEscape
  if 0xDC00 ≤ first ∧ first ≤ 0xDFFF then fail .loneSurrogate
  else if first < 0xD800 ∨ 0xDBFF < first then return ofCode first
  else
    match ← peek with
    | none => fail .endInString
    | some '\\' =>
      skip
      match ← peek with
      | none => fail .endInString
      | some 'u' =>
        skip
        let second ← hexEscape
        if second < 0xDC00 ∨ 0xDFFF < second then fail .loneSurrogate
        else return ofCode (pairCode first second)
      | some _ => failAfter 1 .endOfSurrogatePair
    | some _ => failAfter 1 .endOfSurrogatePair

def shortEscape? : Char → Option Char
  | '"' => some '"'
  | '\\' => some '\\'
  | '/' => some '/'
  | 'b' => some '\x08'
  | 'f' => some '\x0c'
  | 'n' => some '\n'
  | 'r' => some '\r'
  | 't' => some '\t'
  | _ => none

/-- What follows the backslash of an escape. -/
def escape : Reader Char := do
  match ← peek with
  | none => fail .endInString
  | some 'u' =>
    skip
    unicodeEscape
  | some c =>
    match shortEscape? c with
    | some meant =>
      skip
      return meant
    | none => failAfter 1 .invalidEscape

/-- The string behind its opening quote; `steps` bounds its length. -/
def stringBody (escape : Reader Char) (controlBytes : Nat) :
    Nat → List Char → Reader (List Char)
  | 0, _ => fail .endInString
  | steps + 1, seen => do
    match ← peek with
    | none => fail .endInString
    | some '"' =>
      skip
      return seen.reverse
    | some '\\' =>
      skip
      let c ← escape
      stringBody escape controlBytes steps (c :: seen)
    | some c =>
      if c.toNat < 32 then failAfter controlBytes .controlCharacter
      else
        skip
        stringBody escape controlBytes steps (c :: seen)

def string : Reader String := do
  skip
  let cursor ← get
  let text ← stringBody escape 1 (cursor.rest.length + 1) []
  return String.ofList text

/-- Passes an escape whose character nobody needs; surrogates need no partner. -/
def skipEscape : Reader Char := do
  match ← peek with
  | none => fail .endInString
  | some 'u' =>
    skip
    let _ ← hexEscape
    return 'u'
  | some c =>
    if (shortEscape? c).isSome then
      skip
      return c
    else failAfter 1 .invalidEscape

/-- Passes a string from its opening quote on. -/
def skipString : Reader Unit := do
  skip
  let cursor ← get
  let _ ← stringBody skipEscape 0 (cursor.rest.length + 1) []

/-! ### Numbers -/

/-- The value of decimal digits that follow a number. -/
def appendDigits (value : Nat) (digits : List Char) : Nat :=
  digits.foldl (fun sum c => sum * 10 + (c.toNat - 48)) value

/-- The digits that still fit into 64 bits behind a number, and those that do not. -/
def fitting (value : Nat) : List Char → Nat × Nat × List Char
  | [] => (value, 0, [])
  | c :: rest =>
    let next := value * 10 + (c.toNat - 48)
    if next < Nat.pow 2 64 then
      let (value, used, left) := fitting next rest
      (value, used + 1, left)
    else (value, 0, c :: rest)

/-- A power of ten as a double. -/
def power (exponent : Nat) : Float :=
  Float.ofScientific 1 false exponent

/-- Scales a number by a power of ten, in steps that a double can hold. None is too
large a number. -/
def scale (steps : Nat) (value : Float) (exponent : Int) : Option Float :=
  if exponent.natAbs ≤ 308 then
    if exponent ≥ 0 then
      let scaled := value * power exponent.natAbs
      if scaled.isInf then none else some scaled
    else some (value / power exponent.natAbs)
  else if value == 0 then some value
  else if exponent ≥ 0 then none
  else
    match steps with
    | 0 => some 0
    | steps + 1 => scale steps (value / power 308) (exponent + 308)

/-- A floating point number from its leading digits and its exponent. -/
def float (negative : Bool) (significand : Nat) (exponent : Int) : Reader Number :=
  match scale 16 (Float.ofNat significand) exponent with
  | none => fail .numberOutOfRange
  | some value => return .float (if negative then -value else value)

/-- The greatest exponent that is told apart from larger ones. -/
def greatestExponent : Nat := 2147483647

/-- How many of some digits it takes until their value is past the greatest exponent. -/
def digitsPastGreatest (value : Nat) : List Char → Nat
  | [] => 0
  | c :: rest =>
    let next := value * 10 + (c.toNat - 48)
    if next > greatestExponent then 1 else digitsPastGreatest next rest + 1

/-- The exponent of a number, from its `e` on. -/
def exponentPart (negative : Bool) (significand : Nat) (exponent : Int) : Reader Number := do
  skip
  let sign ← peek
  if sign = some '+' ∨ sign = some '-' then skip
  let cursor ← get
  match cursor.rest.head? with
  | none => fail .endInValue
  | some c =>
    if c.isDigit then
      let text := (splitDigits cursor.rest).1
      let value := appendDigits 0 text
      let down := sign = some '-'
      if value > greatestExponent then
        if significand ≠ 0 ∧ ¬ down then
          failAfter (digitsPastGreatest 0 text) .numberOutOfRange
        else
          discard digits
          return .float (if negative then -0.0 else 0.0)
      else
        discard digits
        float negative significand (if down then exponent - value else exponent + value)
    else failAfter 1 .invalidNumber

/-- What may follow the digits of a floating point number. -/
def floatEnd (negative : Bool) (significand : Nat) (exponent : Int) : Reader Number := do
  match ← peek with
  | some 'e' | some 'E' => exponentPart negative significand exponent
  | _ => float negative significand exponent

/-- The places behind the point of a number, from the point on. Digits that no longer
fit into 64 bits are dropped. -/
def fractionPart (negative : Bool) (significand : Nat) (exponent : Int) : Reader Number := do
  skip
  let places ← digits
  if places.isEmpty then
    match ← peek with
    | none => failAtNext .endInValue
    | some _ => failAtNext .invalidNumber
  else
    let (value, used, _) := fitting significand places
    floatEnd negative value (exponent - used)

/-- The number whose whole part has been read; `dropped` digits of it did not fit into
64 bits. -/
def numberEnd (negative : Bool) (significand dropped : Nat) : Reader Number := do
  match ← peek with
  | some '.' => fractionPart negative significand dropped
  | some 'e' | some 'E' => exponentPart negative significand dropped
  | _ =>
    if dropped > 0 then float negative significand dropped
    else if ¬ negative then return .integer significand
    else if 0 < significand ∧ significand ≤ Nat.pow 2 63 then return .integer (-significand)
    else return .float (-(Float.ofNat significand))

/-- Reads a number from its sign or first digit on. -/
def number : Reader Number := do
  let negative := (← peek) = some '-'
  if negative then skip
  match ← peek with
  | none => fail .endInValue
  | some '0' =>
    skip
    match ← peek with
    | some c => if c.isDigit then failAtNext .invalidNumber else numberEnd negative 0 0
    | none => numberEnd negative 0 0
  | some c =>
    if c.isDigit then
      let (value, _, left) := fitting 0 (← digits)
      numberEnd negative value left.length
    else failAfter 1 .invalidNumber

/-- Passes the exponent of a number, from its `e` on. -/
def skipExponent : Reader Unit := do
  skip
  let sign ← peek
  if sign = some '+' ∨ sign = some '-' then skip
  match ← peek with
  | some c => if c.isDigit then discard digits else failAfter 1 .invalidNumber
  | none => fail .invalidNumber

/-- Passes the places behind the point of a number, from the point on. -/
def skipFraction : Reader Unit := do
  skip
  let places ← digits
  if places.isEmpty then failAtNext .invalidNumber
  else
    match ← peek with
    | some 'e' | some 'E' => skipExponent
    | _ => return ()

/-- Passes a number from its sign or first digit on. -/
def skipNumber : Reader Unit := do
  if (← peek) = some '-' then skip
  match ← peek with
  | none => fail .invalidNumber
  | some first =>
    if first.isDigit then
      if first = '0' then
        skip
        match ← peek with
        | some c => if c.isDigit then failAtNext .invalidNumber
        | none => pure ()
      else discard digits
      match ← peek with
      | some '.' => skipFraction
      | some 'e' | some 'E' => skipExponent
      | _ => return ()
    else failAfter 1 .invalidNumber

/-! ### Arrays and objects -/

/-- Whether another item follows in an array; its comma is taken. -/
def moreItems (first : Bool) : Reader Bool := do
  match ← peekToken with
  | none => failAtNext .endInArray
  | some ']' => return false
  | some c =>
    if first then return true
    else if c = ',' then
      skip
      match ← peekToken with
      | none => failAtNext .endInValue
      | some ']' => failAtNext .trailingComma
      | some _ => return true
    else failAtNext .expectedArrayCommaOrEnd

/-- Whether another member follows in an object; its comma is taken. -/
def moreMembers (first : Bool) : Reader Bool := do
  match ← peekToken with
  | none => failAtNext .endInObject
  | some '\x7d' => return false
  | some c =>
    if first then
      if c = '"' then return true else failAtNext .keyNotString
    else if c = ',' then
      skip
      match ← peekToken with
      | none => failAtNext .endInValue
      | some '"' => return true
      | some '\x7d' => failAtNext .trailingComma
      | some _ => failAtNext .keyNotString
    else failAtNext .expectedObjectCommaOrEnd

def closeArray : Reader Unit := do
  match ← peekToken with
  | none => failAtNext .endInArray
  | some ']' => skip
  | some ',' =>
    skip
    match ← peekToken with
    | some ']' => failAtNext .trailingComma
    | _ => failAtNext .trailingCharacters
  | some _ => failAtNext .trailingCharacters

def closeObject : Reader Unit := do
  match ← peekToken with
  | none => failAtNext .endInObject
  | some '\x7d' => skip
  | some ',' => failAtNext .trailingComma
  | some _ => failAtNext .trailingCharacters

/-- Takes the colon between a key and its value. -/
def colon : Reader Unit := do
  match ← peekToken with
  | none => failAtNext .endInObject
  | some ':' => skip
  | some _ => failAtNext .expectedColon

/-- The key of a member that is passed. -/
def skipKey : Reader Unit := do
  match ← peekToken with
  | none => failAtNext .endInObject
  | some '"' => skipString
  | some _ => failAtNext .keyNotString
  colon

/-- What follows an item that is passed: the closing bracket, or a comma and another
item. -/
def skipComma (close : Char) (atEnd other : Fault) : Reader Bool := do
  match ← peekToken with
  | none => failAtNext atEnd
  | some c =>
    if c = close then
      skip
      return false
    else if c = ',' then
      skip
      return true
    else failAtNext other

mutual

/-- Passes a value of any kind; `steps` bounds the characters of it. -/
def skipValueWithin : Nat → Reader Unit
  | 0 => failAtNext .expectedValue
  | steps + 1 => do
    match ← peekToken with
    | none => failAtNext .endInValue
    | some 'n' =>
      skip
      word ['u', 'l', 'l']
    | some 't' =>
      skip
      word ['r', 'u', 'e']
    | some 'f' =>
      skip
      word ['a', 'l', 's', 'e']
    | some '"' => skipString
    | some '[' =>
      skip
      match ← peekToken with
      | none => failAtNext .endInArray
      | some ']' => skip
      | some _ => skipItems steps
    | some '\x7b' =>
      skip
      match ← peekToken with
      | none => failAtNext .endInObject
      | some '\x7d' => skip
      | some _ => skipMembers steps
    | some c => if c = '-' ∨ c.isDigit then skipNumber else failAtNext .expectedValue

/-- Passes the items of an array and its end. -/
def skipItems : Nat → Reader Unit
  | 0 => failAtNext .expectedValue
  | steps + 1 => do
    skipValueWithin steps
    if ← skipComma ']' .endInArray .expectedArrayCommaOrEnd then skipItems steps

/-- Passes the members of an object and its end. -/
def skipMembers : Nat → Reader Unit
  | 0 => failAtNext .expectedValue
  | steps + 1 => do
    skipKey
    skipValueWithin steps
    if ← skipComma '\x7d' .endInObject .expectedObjectCommaOrEnd then skipMembers steps

end

/-- Passes a value of any kind. -/
def skipValue : Reader Unit := do
  let cursor ← get
  skipValueWithin (2 * cursor.rest.length + 2)

/-! ### Values of a wanted kind -/

/-- Reads the value at hand and fails because it is of the wrong kind. -/
def wrongType {α : Type} (expected : String) : Reader α := located do
  match ← peek with
  | some 'n' =>
    skip
    word ['u', 'l', 'l']
    failUnplaced (.wrongType .null expected)
  | some 't' =>
    skip
    word ['r', 'u', 'e']
    failUnplaced (.wrongType (.boolean true) expected)
  | some 'f' =>
    skip
    word ['a', 'l', 's', 'e']
    failUnplaced (.wrongType (.boolean false) expected)
  | some '"' =>
    let text ← string
    failUnplaced (.wrongType (.string text) expected)
  | some '[' => failUnplaced (.wrongType .array expected)
  | some '\x7b' => failUnplaced (.wrongType .object expected)
  | some c =>
    if c = '-' ∨ c.isDigit then
      let value ← number
      failUnplaced (.wrongType (.number value) expected)
    else failAtNext .expectedValue
  | none => failAtNext .expectedValue

/-- Reads a whole number of 64 bits. -/
def natural : Reader Nat := located do
  match ← peekToken with
  | none => failAtNext .endInValue
  | some c =>
    if c = '-' ∨ c.isDigit then
      match ← number with
      | .integer value =>
        if value ≥ 0 then return value.toNat
        else failUnplaced (.wrongValue (.number (.integer value)) "u64")
      | found => failUnplaced (.wrongType (.number found) "u64")
    else wrongType "u64"

def boolean : Reader Bool := do
  match ← peekToken with
  | none => failAtNext .endInValue
  | some 't' =>
    skip
    word ['r', 'u', 'e']
    return true
  | some 'f' =>
    skip
    word ['a', 'l', 's', 'e']
    return false
  | some _ => wrongType "a boolean"

def text : Reader String := do
  match ← peekToken with
  | none => failAtNext .endInValue
  | some '"' => string
  | some _ => wrongType "a string"

/-- Reads a text or `null`. -/
def textOrNull : Reader (Option String) := do
  match ← peekToken with
  | some 'n' =>
    skip
    word ['u', 'l', 'l']
    return none
  | _ => some <$> text

/-- The members of an object behind its brace, folded into a state by `member`. -/
def members {σ : Type} (member : String → σ → Reader σ) : Nat → Bool → σ → Reader σ
  | 0, _, state => return state
  | steps + 1, first, state => do
    if ← moreMembers first then
      let key ← string
      members member steps false (← member key state)
    else return state

/-- The items of an array behind its bracket, read by `item`. -/
def items {α : Type} (item : Reader α) : Nat → Bool → List α → Reader (List α)
  | 0, _, seen => return seen.reverse
  | steps + 1, first, seen => do
    if ← moreItems first then
      items item steps false ((← item) :: seen)
    else return seen.reverse

/-- Reads an array of values of one kind. -/
def list {α : Type} (item : Reader α) : Reader (List α) := located do
  match ← peekToken with
  | none => failAtNext .endInValue
  | some '[' =>
    skip
    let cursor ← get
    thenClose (items item (cursor.rest.length + 1) true []) closeArray
  | some _ => wrongType "a sequence"

/-- Reads a record that is written as an object or as an array of its fields. -/
def record {α σ : Type} (expected : String) (start : σ)
    (member : String → σ → Reader σ) (finish : σ → Reader α) (fields : Reader α) :
    Reader α := located do
  match ← peekToken with
  | none => failAtNext .endInValue
  | some '[' =>
    skip
    thenClose fields closeArray
  | some '\x7b' =>
    skip
    let cursor ← get
    let body : Reader α := do
      finish (← members member (cursor.rest.length + 1) true start)
    thenClose body closeObject
  | some _ => wrongType expected

/-- Reads a value that makes up the whole text. -/
def whole {α : Type} (reader : Reader α) (text : String) : Except Failure α :=
  let all : Reader α := do
    let value ← reader
    match ← peekToken with
    | none => return value
    | some _ => failAtNext .trailingCharacters
  (all (Cursor.start text)).1

end Reader

end PageWatch.Json
