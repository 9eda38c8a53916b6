import PageWatch.Decimal.Layout
import PageWatch.Text.CharRanges
import PageWatch.Text.Printable

/-!
# Tokens of selectors

The words, numbers, strings, signs and brackets that a selector's text consists of.
What stands between brackets belongs to the token that opens them; brackets and
strings that the text's end leaves open are closed there. Comments are left out.
-/

namespace PageWatch.Selector

/-- A pair of brackets. -/
inductive Bracket where
  | round | square | curly
  deriving DecidableEq, Repr, Inhabited

def Bracket.closer : Bracket → Char
  | .round => ')'
  | .square => ']'
  | .curly => '\x7d'

def Bracket.opener : Bracket → Char
  | .round => '('
  | .square => '['
  | .curly => '\x7b'

/-- A number as it is written. -/
structure Numeral where
  /-- Whether it begins with a sign. -/
  signed : Bool
  value : Float
  /-- Its value within 32 bits if it has no point and no exponent. -/
  whole : Option Int
  deriving Repr, Inhabited

/-- A token, with what stands between the brackets that it opens. -/
inductive Token where
  | word (name : String)
  | atWord (name : String)
  /-- A name after `#`, which may begin like a number unless it is an identity. -/
  | hash (name : String) (isIdentity : Bool)
  | string (content : String)
  /-- A string that its line's end cuts off. -/
  | cutString (content : String)
  | url (content : String)
  | cutUrl (content : String)
  | number (numeral : Numeral)
  | percentage (numeral : Numeral)
  | dimension (numeral : Numeral) (unit : String)
  | blank
  /-- A sign of one character or more. -/
  | sign (text : String)
  | function (name : String) (body : List Token)
  | block (bracket : Bracket) (body : List Token)
  /-- A bracket that closes nothing. -/
  | stray (bracket : Bracket)
  deriving Repr, Inhabited

namespace Token

/-! ## What tokens look like in messages -/

/-- The shortest decimal of a number in single precision, without an exponent. -/
def singleText (value : Float) : String :=
  let bits : Nat := value.toFloat32.toBits.toNat
  let fraction : Nat := bits % Nat.pow 2 23
  let exponent : Nat := bits / Nat.pow 2 23 % Nat.pow 2 8
  let layout : Decimal.Layout := ⟨-1000, 1000, false, true, "NaN", "inf"⟩
  let size :=
    if exponent == 255 then "inf"
    else if exponent == 0 && fraction == 0 then "0"
    else
      let (m, q, narrow) : Nat × Int × Bool :=
        if exponent == 0 then (fraction, -149, false)
        else (Nat.pow 2 23 + fraction, (exponent : Int) - 150, fraction == 0 && 1 < exponent)
      String.ofList (layout.scientific (Decimal.shortest m q narrow))
  if bits / Nat.pow 2 31 == 1 then "-" ++ size else size

/-- The text of a number: a sign that was written stands before the number's own. -/
def numeralText (signed : Bool) (value : Float) : String :=
  let sign := if !signed then "" else if 0 < value then "+" else "-"
  sign ++ singleText value

def text : Token → String
  | .word name => name
  | .atWord name => "@" ++ name
  | .hash name _ => "#" ++ name
  | .string content => "\"" ++ content ++ "\""
  | .cutString content => "<Bad String " ++ Text.inspect content ++ ">"
  | .url content => "<URL " ++ Text.inspect content ++ ">"
  | .cutUrl content => "<Bad URL " ++ Text.inspect content ++ ">"
  | .number numeral => numeralText numeral.signed numeral.value
  | .percentage numeral => numeralText numeral.signed (numeral.value / 100) ++ "%"
  | .dimension numeral unit => numeralText numeral.signed numeral.value ++ unit
  | .blank => " "
  | .sign text => text
  | .function name _ => name ++ "()"
  | .block bracket _ => "<" ++ String.singleton bracket.opener
  | .stray bracket => "<" ++ String.singleton bracket.closer

/-! ## Names, strings and numbers -/

def isNewline (c : Char) : Bool := c == '\n' || c == '\r' || c == '\x0c'

def isBlank (c : Char) : Bool := c == ' ' || c == '\t' || isNewline c

def isNameStart (c : Char) : Bool :=
  c.isAlpha || c == '_' || c == '\x00' || 0x80 ≤ c.toNat

def isNameChar (c : Char) : Bool := isNameStart c || c.isDigit || c == '-'

/-- Whether a backslash with this text after it stands for a character. -/
def escapes : List Char → Bool
  | [] => true
  | c :: _ => !isNewline c

def startsName : List Char → Bool
  | '-' :: '\\' :: rest => escapes rest
  | '-' :: c :: _ => isNameStart c || c == '-'
  | '\\' :: rest => escapes rest
  | c :: _ => isNameStart c
  | [] => false

def startsNumber : List Char → Bool
  | '.' :: c :: _ => c.isDigit
  | c :: _ => c.isDigit
  | [] => false

/-- Stands for what is no character. -/
def replacement : Char := '\ufffd'

/-- Leaves out one blank after an escape. -/
def skipBlank : List Char → List Char
  | '\r' :: '\n' :: rest => rest
  | c :: rest => if isBlank c then rest else c :: rest
  | [] => []

/-- The character that a backslash stands for together with the text after it. -/
def readEscape : List Char → Char × List Char
  | [] => (replacement, [])
  | c :: rest =>
    let digits := ((c :: rest).take 6).takeWhile fun c => (Text.hexValue? c).isSome
    if digits.isEmpty then (if c == '\x00' then replacement else c, rest)
    else
      let number := digits.foldl (fun value c => value * 16 + (Text.hexValue? c).getD 0) 0
      let valid := 0 < number && (number < 0xD800 || (0xDFFF < number && number ≤ 0x10FFFF))
      (if valid then Char.ofNat number else replacement,
        skipBlank ((c :: rest).drop digits.length))

/-- Reads the characters of a name. The first argument bounds their number. -/
def readName : Nat → List Char → List Char × List Char
  | 0, text => ([], text)
  | _, [] => ([], [])
  | steps + 1, c :: rest =>
    if c == '\\' && escapes rest then
      let (c, rest) := readEscape rest
      let (name, rest) := readName steps rest
      (c :: name, rest)
    else if isNameChar c then
      let (name, rest) := readName steps rest
      ((if c == '\x00' then replacement else c) :: name, rest)
    else ([], c :: rest)

def name (text : List Char) : String × List Char :=
  let (name, rest) := readName text.length text
  (String.ofList name, rest)

/-- Reads a string up to its quote. The flag tells whether it is whole. The first
argument bounds the number of characters. -/
def readString (quote : Char) : Nat → List Char → List Char × Bool × List Char
  | 0, text => ([], true, text)
  | _, [] => ([], true, [])
  | steps + 1, c :: rest =>
    if c == quote then ([], true, rest)
    else if isNewline c then ([], false, c :: rest)
    else if c == '\\' then
      match rest with
      | [] => ([], true, [])
      | '\r' :: '\n' :: rest => readString quote steps rest
      | next :: others =>
        if isNewline next then readString quote steps others
        else
          let (c, rest) := readEscape rest
          let (content, whole, rest) := readString quote steps rest
          (c :: content, whole, rest)
    else
      let (content, whole, rest) := readString quote steps rest
      ((if c == '\x00' then replacement else c) :: content, whole, rest)

/-- The number that decimal digits write. -/
def digitsValue (digits : List Char) : Nat :=
  digits.foldl (fun value c => value * 10 + (c.toNat - 48)) 0

def readExponent : List Char → Option (Int × List Char)
  | c :: rest =>
    if c == 'e' || c == 'E' then
      let (negative, rest) := match rest with
        | '-' :: rest => (true, rest)
        | '+' :: rest => (false, rest)
        | _ => (false, rest)
      let digits := rest.takeWhile Char.isDigit
      if digits.isEmpty then none
      else
        let size : Int := digitsValue digits
        some (if negative then -size else size, rest.drop digits.length)
    else none
  | [] => none

/-- Reads a number and what belongs to it: a percent sign or a unit. -/
def readNumber (text : List Char) : Token × List Char :=
  let (signed, negative, text) := match text with
    | '-' :: rest => (true, true, rest)
    | '+' :: rest => (true, false, rest)
    | _ => (false, false, text)
  let whole := text.takeWhile Char.isDigit
  let text := text.drop whole.length
  let places := match text with
    | '.' :: rest => rest.takeWhile Char.isDigit
    | _ => []
  let text := if places.isEmpty then text else text.drop (places.length + 1)
  let (exponent, text, plain) := match readExponent text with
    | some (exponent, rest) => (exponent, rest, false)
    | none => (0, text, places.isEmpty)
  let digits := whole ++ places
  -- beyond these bounds the value is zero or infinite anyway
  let scale : Int := max (-400 - (digits.length : Int)) (min 400 (exponent - places.length))
  let size := Float.ofScientific (digitsValue digits) (scale < 0) scale.natAbs
  let integer : Int := if negative then -(digitsValue whole : Int) else digitsValue whole
  let numeral : Numeral :=
    { signed
      value := if negative then -size else size
      whole := if plain then some (max (-2147483648) (min 2147483647 integer)) else none }
  match text with
  | '%' :: rest => (.percentage numeral, rest)
  | _ =>
    if startsName text then
      let (unit, rest) := name text
      (.dimension numeral unit, rest)
    else (.number numeral, text)

/-- Reads an address without quotes, after `url(`. -/
def readUrl (text : List Char) : Token × List Char :=
  let content := text.takeWhile (· != ')')
  let rest := text.drop (content.length + 1)
  let content := (content.dropWhile isBlank).reverse.dropWhile isBlank |>.reverse
  let broken := content.any fun c => isBlank c || c == '"' || c == '\'' || c == '('
  (if broken then .cutUrl (String.ofList content) else .url (String.ofList content), rest)

def afterComment : List Char → List Char
  | [] => []
  | '*' :: '/' :: rest => rest
  | _ :: rest => afterComment rest

/-- The signs of more than one character. -/
def longSigns : List String := ["$=", "*=", "^=", "|=", "~=", "<!--", "-->"]

def readSign (c : Char) (rest : List Char) : Token × List Char :=
  match longSigns.find? fun long => long.toList.isPrefixOf (c :: rest) with
  | some long => (.sign long, rest.drop (long.length - 1))
  | none => (.sign (String.singleton c), rest)

/-! ## Sequences of tokens -/

/-- What a text begins with. -/
inductive First where
  | one (token : Token)
  | nothing
  | opens (bracket : Bracket)
  | calls (called : String)
  | closes (bracket : Bracket)
  deriving Inhabited

/-- Reads a name and finds out whether it calls a function. -/
def readWord (text : List Char) : First × List Char :=
  let (name, rest) := name text
  match rest with
  | '(' :: rest =>
    let quoted := match rest.dropWhile isBlank with
      | c :: _ => c == '"' || c == '\''
      | [] => false
    if name.map Char.toLower == "url" && !quoted then
      let (token, rest) := readUrl rest
      (.one token, rest)
    else (.calls name, rest)
  | _ => (.one (.word name), rest)

/-- Reads what a text that is not empty begins with. -/
def readFirst (c : Char) (rest : List Char) : First × List Char :=
  let one (found : Token × List Char) : First × List Char := (.one found.1, found.2)
  if isBlank c then (.one .blank, rest.dropWhile isBlank)
  else if c == '"' || c == '\'' then
    let (content, whole, rest) := readString c (rest.length + 1) rest
    let content := String.ofList content
    (.one (if whole then .string content else .cutString content), rest)
  else if c == '#' then
    if startsName rest then
      let (name, rest) := name rest
      (.one (.hash name true), rest)
    else if rest.head?.any fun c => c.isDigit || c == '-' then
      let (name, rest) := name rest
      (.one (.hash name false), rest)
    else (.one (.sign "#"), rest)
  else if c == '@' && startsName rest then
    let (name, rest) := name rest
    (.one (.atWord name), rest)
  else if c == '/' && rest.head? == some '*' then (.nothing, afterComment (rest.drop 1))
  else if c == '(' then (.opens .round, rest)
  else if c == '[' then (.opens .square, rest)
  else if c == '\x7b' then (.opens .curly, rest)
  else if c == ')' then (.closes .round, rest)
  else if c == ']' then (.closes .square, rest)
  else if c == '\x7d' then (.closes .curly, rest)
  else if startsNumber (c :: rest) || ((c == '+' || c == '-') && startsNumber rest) then
    one (readNumber (c :: rest))
  else if "-->".toList.isPrefixOf (c :: rest) then one (readSign c rest)
  else if startsName (c :: rest) then readWord (c :: rest)
  else one (readSign c rest)

/-- Reads the tokens up to a closing bracket, or to the end of the text. The first
argument bounds the number of steps; one more than the length of the text is enough. -/
def readAll : Nat → Option Bracket → List Char → List Token × List Char
  | 0, _, text => ([], text)
  | _, _, [] => ([], [])
  | steps + 1, closer, c :: rest =>
    let (first, rest) := readFirst c rest
    let add (token : Token) (rest : List Char) : List Token × List Char :=
      let (tokens, rest) := readAll steps closer rest
      (token :: tokens, rest)
    match first with
    | .one token => add token rest
    | .nothing => readAll steps closer rest
    | .opens bracket =>
      let (body, rest) := readAll steps (some bracket) rest
      add (.block bracket body) rest
    | .calls called =>
      let (body, rest) := readAll steps (some .round) rest
      add (.function called body) rest
    | .closes bracket =>
      if closer == some bracket then ([], rest) else add (.stray bracket) rest

def ofText (text : String) : List Token :=
  (readAll (text.toList.length + 1) none text.toList).1

mutual

/-- The first token that can stand nowhere, here or between the brackets opened. -/
def fault? : Token → Option Token
  | .cutString content => some (.cutString content)
  | .cutUrl content => some (.cutUrl content)
  | .stray bracket => some (.stray bracket)
  | .function _ body => faultIn? body
  | .block _ body => faultIn? body
  | _ => none

/-- The first token of several that can stand nowhere. -/
def faultIn? : List Token → Option Token
  | [] => none
  | token :: tokens =>
    match fault? token with
    | some fault => some fault
    | none => faultIn? tokens

end

end Token

end PageWatch.Selector
