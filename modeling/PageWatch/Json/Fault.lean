import PageWatch.Decimal.Layout
import PageWatch.Text.Printable

/-!
# What can be wrong with a JSON text

The causes for which a text is refused, and their wording. A cause that concerns the
text itself is found at a place; one that concerns the value read is put at the place
where the value ends.
-/

namespace PageWatch.Json

/-- How floating point numbers are written in messages. -/
def floatLayout : Decimal.Layout where
  leastFixed := -5
  greatestFixed := 15
  wholePoint := true
  signedZero := true
  nan := "NaN"
  infinity := "inf"

/-- A number that was read. -/
inductive Number where
  | integer (value : Int)
  | float (value : Float)
  deriving Repr, Inhabited

/-- A value of the wrong kind. -/
inductive Found where
  | null
  | boolean (value : Bool)
  | number (value : Number)
  | string (text : String)
  | array
  | object
  deriving Repr, Inhabited

/-- The wording of a value of the wrong kind. -/
def Found.describe : Found → String
  | .null => "null"
  | .boolean value => s!"boolean `{value}`"
  | .number (.integer value) => s!"integer `{value}`"
  | .number (.float value) =>
    let text := floatLayout.write value
    s!"floating point `{text}`"
  | .string text => "string " ++ Text.inspect text
  | .array => "sequence"
  | .object => "map"

/-- Why a text is refused. -/
inductive Fault where
  | endInArray
  | endInObject
  | endInString
  | endInValue
  | expectedColon
  | expectedArrayCommaOrEnd
  | expectedObjectCommaOrEnd
  | expectedWord
  | expectedValue
  | invalidEscape
  | invalidNumber
  | numberOutOfRange
  | controlCharacter
  | keyNotString
  | loneSurrogate
  | endOfSurrogatePair
  | trailingComma
  | trailingCharacters
  | wrongType (found : Found) (expected : String)
  | wrongValue (found : Found) (expected : String)
  | wrongLength (length : Nat) (expected : String)
  | duplicateField (name : String)
  | missingField (name : String)
  deriving Repr, Inhabited

def Fault.message : Fault → String
  | .endInArray => "EOF while parsing a list"
  | .endInObject => "EOF while parsing an object"
  | .endInString => "EOF while parsing a string"
  | .endInValue => "EOF while parsing a value"
  | .expectedColon => "expected `:`"
  | .expectedArrayCommaOrEnd => "expected `,` or `]`"
  | .expectedObjectCommaOrEnd => "expected `,` or `\x7d`"
  | .expectedWord => "expected ident"
  | .expectedValue => "expected value"
  | .invalidEscape => "invalid escape"
  | .invalidNumber => "invalid number"
  | .numberOutOfRange => "number out of range"
  | .controlCharacter => "control character (\\u0000-\\u001F) found while parsing a string"
  | .keyNotString => "key must be a string"
  | .loneSurrogate => "lone leading surrogate in hex escape"
  | .endOfSurrogatePair => "unexpected end of hex escape"
  | .trailingComma => "trailing comma"
  | .trailingCharacters => "trailing characters"
  | .wrongType found expected => "invalid type: " ++ found.describe ++ ", expected " ++ expected
  | .wrongValue found expected => "invalid value: " ++ found.describe ++ ", expected " ++ expected
  | .wrongLength length expected => s!"invalid length {length}, expected {expected}"
  | .duplicateField name => s!"duplicate field `{name}`"
  | .missingField name => s!"missing field `{name}`"

/-- A place in a text: its line, counted from one, and the number of bytes before it
on that line. -/
structure Position where
  line : Nat
  column : Nat
  deriving DecidableEq, Repr, Inhabited

namespace Position

/-- The place behind a character that stands at this place. -/
def next (place : Position) (c : Char) : Position :=
  if c = '\n' then ⟨place.line + 1, 0⟩ else ⟨place.line, place.column + c.utf8Size⟩

/-- The place so many bytes further into a text that starts at this place. -/
def skipBytes (place : Position) : Nat → List Char → Position
  | _, [] => place
  | 0, _ => place
  | bytes, c :: rest =>
    if c.utf8Size ≤ bytes then (place.next c).skipBytes (bytes - c.utf8Size) rest
    else ⟨place.line, place.column + bytes⟩

end Position

/-- A cause and its place, which is open until an enclosing value sets it. -/
structure Failure where
  fault : Fault
  place : Option Position
  deriving Repr, Inhabited

def Failure.message (failure : Failure) : String :=
  match failure.place with
  | none => failure.fault.message
  | some place => failure.fault.message ++ s!" at line {place.line} column {place.column}"

end PageWatch.Json
