import PageWatch.Script.Number

/-!
# Words of scripts

The words that a script's text consists of: names, numbers, texts, templates and signs.
Blanks and comments between them matter only where a line ends. Whether a slash divides
or begins a pattern of characters depends on the word before it.
-/

namespace PageWatch.Script

open Text

inductive Word where
  /-- A name or a keyword. A name with escapes in it is never a keyword. -/
  | name (text : String) (escaped : Bool)
  | hiddenName (text : String)
  | number (value : Float)
  | whole (value : Int)
  | text (value : Units)
  /-- A piece of a template. Its text is missing if it has an escape that means nothing. -/
  | template (cooked : Option Units) (raw : Units) (first last : Bool)
  | regular (body flags : String)
  | sign (text : String)
  | finish
  deriving Repr, Inhabited, BEq

/-- Where a word stands: the text from its beginning on, and the text after it. -/
structure Spot where
  text : List Char
  rest : List Char
  deriving Repr, Inhabited

/-- A word at its place. -/
structure Lexeme where
  word : Word
  /-- Whether a line ends before it. -/
  afterLine : Bool
  spot : Spot
  deriving Repr, Inhabited

namespace Lexeme

/-- The signs, longer ones before those that they begin with. -/
def signs : List (List Char) :=
  [">>>=", "...", "===", "!==", "**=", "<<=", ">>=", ">>>", "&&=", "||=", "??=", "=>", "==",
   "!=", "<=", ">=", "&&", "||", "??", "?.", "++", "--", "+=", "-=", "*=", "/=", "%=", "&=",
   "|=", "^=", "<<", ">>", "**", "\x7b", "\x7d", "(", ")", "[", "]", ";", ",", "<", ">", "+",
   "-", "*", "/", "%", "&", "|", "^", "!", "~", "?", ":", "=", ".", "@", "#"].map
    String.toList

def isLineEnd (c : Char) : Bool := c == '\n' || c == '\r' || c == '\u2028' || c == '\u2029'

/-- Whether a character is a blank within a line. -/
def isSpace (c : Char) : Bool :=
  c == '\ufeff' || (c != '\u0085' && isBlank c && !isLineEnd c)

def isNameStart (c : Char) : Bool :=
  c.isAlpha || c == '$' || c == '_' || (0x80 ≤ c.toNat && !isSpace c && !isLineEnd c)

def isNameChar (c : Char) : Bool :=
  isNameStart c || c.isDigit || c == '\u200c' || c == '\u200d'

/-- Reads hexadecimal digits, exactly `count` of them. -/
def readHex (count : Nat) (text : List Char) : Option (Nat × List Char) :=
  let digits := text.take count
  if digits.length == count && digits.all (Number.isDigitOf 16) then
    some (Number.ofDigits 16 digits, text.drop count)
  else none

/-- Reads the code point of an escape, after `\u`. -/
def readUnicode : List Char → Option (Nat × List Char)
  | '\x7b' :: rest =>
    let digits := rest.takeWhile (Number.isDigitOf 16)
    let code := Number.ofDigits 16 digits
    match rest.drop digits.length with
    | '\x7d' :: rest => if digits.isEmpty || 0x10FFFF < code then none else some (code, rest)
    | _ => none
  | text => readHex 4 text

/-- Reads the rest of a name. The flag tells whether it has escapes. The first argument
bounds the number of characters. -/
def readName : Nat → List Char → Option (List Char × Bool × List Char)
  | 0, text => some ([], false, text)
  | _, [] => some ([], false, [])
  | steps + 1, '\\' :: 'u' :: rest => do
    let (code, rest) ← readUnicode rest
    let (name, _, rest) ← readName steps rest
    return (Char.ofNat code :: name, true, rest)
  | steps + 1, c :: rest =>
    if isNameChar c then do
      let (name, escaped, rest) ← readName steps rest
      return (c :: name, escaped, rest)
    else some ([], false, c :: rest)

/-- Leaves out the second character of a line's end. -/
def skipLineFeed : Char → List Char → List Char
  | '\r', '\n' :: rest => rest
  | _, rest => rest

/-- Reads an escape, after its backslash: what it stands for and the rest. Nothing if it
stands for nothing. -/
def readEscape (inTemplate : Bool) : List Char → Option (Units × List Char)
  | [] => none
  | c :: rest =>
    match c with
    | 'n' => some ("\n", rest)
    | 't' => some ("\t", rest)
    | 'r' => some ("\r", rest)
    | 'b' => some ("\x08", rest)
    | 'v' => some ("\x0b", rest)
    | 'f' => some ("\x0c", rest)
    | 'x' => (readHex 2 rest).map fun (code, rest) => (Units.ofCodePoint code, rest)
    | 'u' => (readUnicode rest).map fun (code, rest) => (Units.ofCodePoint code, rest)
    | _ =>
      if isLineEnd c then some (Units.empty, skipLineFeed c rest)
      else if c.isDigit then
        let isOctal (c : Char) : Bool := '0' ≤ c && c ≤ '7'
        if c == '0' && !(rest.head?.any Char.isDigit) then
          some (Units.ofCodePoint 0, rest)
        else if inTemplate then none
        else if isOctal c then
          let most := if c ≤ '3' then 2 else 1
          let more := (rest.take most).takeWhile isOctal
          some (Units.ofCodePoint (Number.ofDigits 8 (c :: more)), rest.drop more.length)
        else some (Units.ofList [c], rest)
      else some (Units.ofList [c], rest)

/-- Reads a text up to its quote. The first argument bounds the number of characters. -/
def readText (quote : Char) : Nat → List Char → List Units → Option (Units × List Char)
  | 0, _, _ | _, [], _ => none
  | steps + 1, c :: rest, pieces =>
    if c == quote then some (Units.concat pieces.reverse, rest)
    else if c == '\n' || c == '\r' then none
    else if c == '\\' then
      match readEscape false rest with
      | some (piece, rest) => readText quote steps rest (piece :: pieces)
      | none => none
    else readText quote steps rest (Units.ofList [c] :: pieces)

/-- A piece of a template while it is being read: its text, if it has one, as pieces,
latest first, and what was written. -/
structure Piece where
  cooked : Option (List Units)
  raw : List Char

/-- The piece with more text. -/
def Piece.add (piece : Piece) (cooked : Option Units) (raw : List Char) : Piece where
  cooked := do return (← cooked) :: (← piece.cooked)
  raw := piece.raw ++ raw

/-- The word that a piece of a template is. -/
def Piece.word (piece : Piece) (first last : Bool) : Word :=
  .template (piece.cooked.map fun pieces => Units.concat pieces.reverse)
    (Units.ofList piece.raw) first last

/-- Reads a piece of a template up to the next value or to the end of the template. The
first of the numbers bounds the number of characters. -/
def readTemplate (first : Bool) : Nat → List Char → Piece → Option (Word × List Char)
  | 0, _, _ | _, [], _ => none
  | _ + 1, '`' :: rest, piece => some (piece.word first true, rest)
  | _ + 1, '$' :: '\x7b' :: rest, piece => some (piece.word first false, rest)
  | steps + 1, '\\' :: rest, piece =>
    match readEscape true rest with
    | some (cooked, after) =>
      let raw := '\\' :: rest.take (rest.length - after.length)
      readTemplate first steps after (piece.add (some cooked) raw)
    | none =>
      match rest with
      | [] => none
      | c :: rest => readTemplate first steps rest (piece.add none ['\\', c])
  | steps + 1, c :: rest, piece =>
    if c == '\r' then
      readTemplate first steps (skipLineFeed c rest) (piece.add (some "\n") ['\n'])
    else readTemplate first steps rest (piece.add (some (Units.ofList [c])) [c])

/-- Reads digits with single underscores between them. -/
def readDigits (isDigit : Char → Bool) : List Char → Option (List Char × List Char)
  | '_' :: _ => none
  | text => go text
where
  /-- Reads digits after a first one. -/
  go : List Char → Option (List Char × List Char)
    | [] => some ([], [])
    | '_' :: c :: rest =>
      if isDigit c then (go rest).map fun (digits, rest) => (c :: digits, rest) else none
    | c :: rest =>
      if isDigit c then (go rest).map fun (digits, rest) => (c :: digits, rest)
      else if c == '_' then none
      else some ([], c :: rest)

/-- Reads a number. No name and no digit follows it. -/
def readNumber (text : List Char) : Option (Word × List Char) := do
  let ends (word : Word) (rest : List Char) : Option (Word × List Char) :=
    if rest.head?.any isNameChar then none else some (word, rest)
  let based? := match text with
    | '0' :: c :: rest => (Number.baseOf? c).map fun base => (base, rest)
    | _ => none
  match based? with
  | some (base, rest) =>
    let (digits, rest) ← readDigits (Number.isDigitOf base) rest
    if digits.isEmpty then none
    else
      let value := Number.ofDigits base digits
      match rest with
      | 'n' :: rest => ends (.whole value) rest
      | _ => ends (.number (Float.ofNat value)) rest
  | none =>
    let (whole, rest) ← readDigits Char.isDigit text
    match whole, rest with
    | '0' :: second :: more, _ =>
      let digits := second :: more
      if digits.all fun c => c ≤ '7' then
        ends (.number (Float.ofNat (Number.ofDigits 8 digits))) rest
      else ends (.number (Number.ofDecimal (whole) 0)) rest
    | _, 'n' :: rest =>
      if whole.isEmpty then none else ends (.whole (Number.ofDigits 10 whole)) rest
    | _, _ =>
      let (places, rest) ← match rest with
        | '.' :: rest => readDigits Char.isDigit rest
        | _ => some ([], rest)
      let (exponent, rest) := (Number.readExponent rest).getD (0, rest)
      ends (.number (Number.ofDecimal (whole ++ places) (exponent - places.length))) rest

/-- Reads a pattern of characters, after its first slash. -/
def readRegular (inClass : Bool) : List Char → Option (List Char × List Char)
  | [] => none
  | '\\' :: c :: rest =>
    if isLineEnd c then none
    else (readRegular inClass rest).map fun (body, rest) => ('\\' :: c :: body, rest)
  | c :: rest =>
    if isLineEnd c then none
    else if c == '/' && !inClass then some ([], rest)
    else
      let inClass := if c == '[' then true else if c == ']' then false else inClass
      (readRegular inClass rest).map fun (body, rest) => (c :: body, rest)

/-- What follows a comment that ends with a line. -/
def afterLineComment (text : List Char) : List Char := text.dropWhile fun c => !isLineEnd c

/-- What follows a comment between signs, and whether a line ends in it. -/
def afterComment (line : Bool) : List Char → Option (Bool × List Char)
  | [] => none
  | '*' :: '/' :: rest => some (line, rest)
  | c :: rest => afterComment (line || isLineEnd c) rest

/-- Whether a value can end with a word, so that a slash after it divides. -/
def endsValue : Word → Bool
  | .name text escaped =>
    escaped || !(["return", "typeof", "case", "in", "of", "delete", "void", "throw", "new",
      "else", "do", "instanceof", "yield", "await"].contains text)
  | .sign text => text == ")" || text == "]" || text == "\x7d"
  | .template _ _ _ last => last
  | .finish => false
  | _ => true

/-- Reads the word that a text begins with. A brace closes the value of a template if
`inTemplate`. -/
def readWord (before : Word) (inTemplate : Bool) (c : Char) (rest : List Char) :
    Option (Word × List Char) := do
  let text := c :: rest
  if isNameStart c || c == '\\' then
    let (name, escaped, rest) ← readName text.length text
    if name.isEmpty then none else return (.name (String.ofList name) escaped, rest)
  else if c == '#' && rest.head?.any (fun c => isNameStart c || c == '\\') then
    let (name, _, rest) ← readName rest.length rest
    return (.hiddenName (String.ofList name), rest)
  else if c.isDigit || (c == '.' && rest.head?.any Char.isDigit) then readNumber text
  else if c == '"' || c == '\'' then
    let (value, rest) ← readText c text.length rest []
    return (.text value, rest)
  else if c == '`' then readTemplate true text.length rest ⟨some [], []⟩
  else if c == '\x7d' && inTemplate then readTemplate false text.length rest ⟨some [], []⟩
  else if c == '/' && !endsValue before then
    let (body, rest) ← readRegular false rest
    let flags := rest.takeWhile isNameChar
    return (.regular (String.ofList body) (String.ofList flags), rest.drop flags.length)
  else if c == '?' && rest.head? == some '.' && (rest.drop 1).head?.any Char.isDigit then
    return (.sign "?", rest)
  else
    let sign ← signs.find? (·.isPrefixOf text)
    return (.sign (String.ofList sign), text.drop sign.length)

/-- The braces that are open: whether each is that of a template. -/
def nextBraces (braces : List Bool) : Word → List Bool
  | .sign "\x7b" => false :: braces
  | .sign "\x7d" => braces.drop 1
  | .template _ _ true false => true :: braces
  | .template _ _ false true => braces.drop 1
  | _ => braces

/-- Reads all words of a text. The first argument bounds the number of steps; one more
than the length of the text is enough. -/
def readAll : Nat → Word → List Bool → Bool → List Char → Option (List Lexeme)
  | 0, _, _, _, _ => none
  | _ + 1, _, _, line, [] => some [⟨.finish, line, default⟩]
  | steps + 1, before, braces, line, c :: rest =>
    if isLineEnd c then readAll steps before braces true rest
    else if isSpace c then readAll steps before braces line rest
    else if c == '/' && rest.head? == some '/' then
      readAll steps before braces line (afterLineComment rest)
    else if c == '/' && rest.head? == some '*' then do
      let (line', rest) ← afterComment false (rest.drop 1)
      readAll steps before braces (line || line') rest
    else do
      let (word, after) ← readWord before (braces.head? == some true) c rest
      let others ← readAll steps word (nextBraces braces word) false after
      return ⟨word, line, c :: rest, after⟩ :: others

/-- The words of a script, or nothing if some of its text is no word. -/
def ofText (text : String) : Option (List Lexeme) :=
  let text := match text.toList with
    | '#' :: '!' :: rest => afterLineComment rest
    | text => text
  readAll (text.length + 1) .finish [] false text

end Lexeme

end PageWatch.Script
