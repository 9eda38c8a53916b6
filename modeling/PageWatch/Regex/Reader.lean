import PageWatch.Regex.Basic
import PageWatch.Text.CharRanges

/-!
# Reading regular expressions

Regular expressions are read strictly where surrogate pairs count as characters.
Otherwise signs without a meaning where they stand are read as themselves, and a number
after a backslash that is the number of no group is the octal code of a character.
-/

namespace PageWatch.Regex

open Text

/-- What has been read of a regular expression, and what is left. -/
structure Reading where
  rest : List Nat
  /-- The number of the next group. -/
  nextGroup : Nat
  deriving Inhabited

/-- What is known of a regular expression before it is read. -/
structure Outlook where
  unicode : Bool
  /-- The number of groups in all of it. -/
  groups : Nat
  names : List (String × Nat)

/-- A reader of characters. There is only one way for it to fail. -/
abbrev Reader := StateT Reading Option

namespace Reader

/-- Characters that mean nothing. -/
def fail {α : Type} : Reader α := fun _ => none

def rest : Reader (List Nat) := do return (← get).rest

/-- Goes on with what is left. -/
def setRest (rest : List Nat) : Reader Unit :=
  modify fun reading => { reading with rest }

/-- The next character, which is not taken. -/
def peek : Reader (Option Nat) := do return (← rest).head?

def take : Reader Nat := do
  match ← rest with
  | [] => fail
  | code :: rest =>
    setRest rest
    return code

def skipText (text : String) : Reader Bool := do
  let codes := text.toList.map Char.toNat
  let rest ← rest
  if codes.isPrefixOf rest then
    setRest (rest.drop codes.length)
    return true
  else return false

def expect (text : String) : Reader Unit := do
  unless ← skipText text do fail

/-- Tries a reader, and goes back if it fails. -/
def attempt {α : Type} (reader : Reader α) : Reader (Option α) := fun reading =>
  match reader reading with
  | some (result, reading) => some (some result, reading)
  | none => some (none, reading)

end Reader

open Reader

def isCode (code : Nat) (c : Char) : Bool := code == c.toNat

def isOneOf (code : Nat) (characters : String) : Bool :=
  characters.toList.any fun c => code == c.toNat

def leadingDigits (codes : List Nat) : List Nat :=
  codes.takeWhile fun code => 48 ≤ code && code ≤ 57

def ofDigits (base : Nat) (digits : List Nat) : Nat :=
  digits.foldl (fun value code => value * base + ((hexValue? (Char.ofNat code)).getD 0)) 0

def isHex (code : Nat) : Bool := code < 128 && (hexValue? (Char.ofNat code)).isSome

/-! ## Numbers of groups -/

/-- The name in angle brackets that codes begin with, and what follows it. -/
def bracketName? (codes : List Nat) : Option (String × List Nat) :=
  match codes with
  | [] => none
  | first :: rest =>
    if !isCode first '<' then none
    else
      let name := rest.takeWhile fun code => !isCode code '>'
      let after := rest.dropWhile fun code => !isCode code '>'
      if name.isEmpty || after.isEmpty then none
      else some (String.ofList (name.map Char.ofNat), after.drop 1)

/-- The groups of an expression: how many there are, and the names of those that have one,
the latest first. -/
def countGroups (inSet : Bool) (found : Nat × List (String × Nat)) :
    List Nat → Nat × List (String × Nat)
  | [] => found
  | code :: rest =>
    if isCode code '\\' then
      match rest with
      | [] => found
      | _ :: rest => countGroups inSet found rest
    else if inSet then countGroups (!isCode code ']') found rest
    else if isCode code '[' then countGroups true found rest
    else if isCode code '(' then
      let number := found.1 + 1
      match rest with
      | mark :: sign :: _ =>
        if isCode mark '?' then
          if isCode sign '<' then
            match bracketName? (rest.drop 1) with
            | some (name, _) =>
              if name.startsWith "=" || name.startsWith "!" then countGroups false found rest
              else countGroups false (number, (name, number) :: found.2) rest
            | none => countGroups false found rest
          else countGroups false found rest
        else countGroups false (number, found.2) rest
      | _ => countGroups false (number, found.2) rest
    else countGroups false found rest

/-! ## Escapes -/

/-- Reads hexadecimal digits, exactly so many. -/
def hexDigits (count : Nat) : Reader Nat := do
  let rest ← rest
  let digits := rest.take count
  if digits.length == count && digits.all isHex then
    setRest (rest.drop count)
    return ofDigits 16 digits
  else fail

/-- Reads a code point after `\u`. -/
def unicodeEscape (unicode : Bool) : Reader Nat := do
  if unicode && (← peek).any (isCode · '\x7b') then
    let rest ← rest
    let digits := (rest.drop 1).takeWhile isHex
    let value := ofDigits 16 digits
    setRest (rest.drop (1 + digits.length))
    expect "\x7d"
    if digits.isEmpty || 0x10FFFF < value then fail
    return value
  else
    let high ← hexDigits 4
    if unicode && 0xD800 ≤ high && high ≤ 0xDBFF then
      let low? ← attempt (do
        expect "\\u"
        let low ← hexDigits 4
        if 0xDC00 ≤ low && low ≤ 0xDFFF then return low else fail)
      match low? with
      | some low => return joinPair high.toUInt16 low.toUInt16
      | none => return high
    else return high
where
  /-- What a pair of surrogates stands for. -/
  joinPair (high low : UInt16) : Nat := Units.joinPair high low

/-- Reads an octal number after its first digit. -/
def octalRest (first : Nat) : Reader Nat := do
  let most := if first ≤ 51 then 2 else 1
  let rest ← rest
  let more := (rest.take most).takeWhile fun code => 48 ≤ code && code ≤ 55
  setRest (rest.drop more.length)
  return ofDigits 8 (first :: more)

/-- The item that a letter stands for after a backslash. -/
def letterItem? (code : Nat) : Option Item :=
  if isCode code 'd' then some (.digit false)
  else if isCode code 'D' then some (.digit true)
  else if isCode code 's' then some (.space false)
  else if isCode code 'S' then some (.space true)
  else if isCode code 'w' then some (.word false)
  else if isCode code 'W' then some (.word true)
  else none

/-- The signs with a meaning of their own, which a backslash takes from them. -/
def signs : String := "^$\\.*+?()[]\x7b\x7d|/"

/-- Reads a single character after a backslash. -/
def characterEscape (outlook : Outlook) (inSet : Bool) : Reader Nat := do
  let code ← take
  if isCode code 'f' then return 12
  else if isCode code 'n' then return 10
  else if isCode code 'r' then return 13
  else if isCode code 't' then return 9
  else if isCode code 'v' then return 11
  else if isCode code 'x' then
    match ← attempt (hexDigits 2) with
    | some value => return value
    | none => if outlook.unicode then fail else return code
  else if isCode code 'u' then
    match ← attempt (unicodeEscape outlook.unicode) with
    | some value => return value
    | none => if outlook.unicode then fail else return code
  else if isCode code 'c' then
    let letter := (← peek).getD 0
    let isLetter := (65 ≤ letter && letter ≤ 90) || (97 ≤ letter && letter ≤ 122)
    let isMore := inSet && ((48 ≤ letter && letter ≤ 57) || isCode letter '_')
    if isLetter || (isMore && !outlook.unicode) then
      setRest ((← rest).drop 1)
      return letter % 32
    else if outlook.unicode then fail
    else
      setRest (code :: (← rest))
      return 92
  else if 48 ≤ code && code ≤ 57 then
    if outlook.unicode then
      if code == 48 && !(← peek).any (fun next => 48 ≤ next && next ≤ 57) then return 0
      else fail
    else if code ≤ 55 then octalRest code
    else return code
  else if outlook.unicode then
    if isOneOf code signs || (inSet && isCode code '-') then return code else fail
  else return code

/-! ## Sets -/

/-- An item of a set while it is read: a character, or several. -/
inductive Member where
  | one (code : Nat)
  | several (item : Item)

def Member.item : Member → Item
  | one code => .range code code
  | several item => item

def member (outlook : Outlook) : Reader Member := do
  let code ← take
  if !isCode code '\\' then return .one code
  let next := (← peek).getD 0
  match letterItem? next with
  | some item =>
    setRest ((← rest).drop 1)
    return .several item
  | none =>
    if isCode next 'b' then
      setRest ((← rest).drop 1)
      return .one 8
    else return .one (← characterEscape outlook true)

/-- Reads the items of a set up to its bracket. The number bounds the items. -/
def setItems (outlook : Outlook) : Nat → Reader (List Item)
  | 0 => fail
  | bound + 1 => do
    if ← skipText "]" then return []
    let first ← member outlook
    let dash := (← rest).head?.any (isCode · '-') && !(← rest)[1]?.any (isCode · ']') &&
      1 < (← rest).length
    if !dash then return first.item :: (← setItems outlook bound)
    else
      setRest ((← rest).drop 1)
      let last ← member outlook
      match first, last with
      | .one first, .one last =>
        if last < first then fail
        return .range first last :: (← setItems outlook bound)
      | _, _ =>
        if outlook.unicode then fail
        return first.item :: .range 45 45 :: last.item :: (← setItems outlook bound)

/-! ## Terms -/

/-- How often something is repeated. -/
structure Count where
  least : Nat
  most : Option Nat

def bracedCount : Reader Count := do
  expect "\x7b"
  let digits := leadingDigits (← rest)
  if digits.isEmpty then fail
  setRest ((← rest).drop digits.length)
  let least := ofDigits 10 digits
  if ← skipText "\x7d" then return ⟨least, some least⟩
  expect ","
  if ← skipText "\x7d" then return ⟨least, none⟩
  let digits := leadingDigits (← rest)
  if digits.isEmpty then fail
  setRest ((← rest).drop digits.length)
  expect "\x7d"
  return ⟨least, some (ofDigits 10 digits)⟩

def count? (unicode : Bool) : Reader (Option Count) := do
  if ← skipText "*" then return some ⟨0, none⟩
  else if ← skipText "+" then return some ⟨1, none⟩
  else if ← skipText "?" then return some ⟨0, some 1⟩
  else if (← peek).any (isCode · '\x7b') then
    match ← attempt bracedCount with
    | some count => return some count
    | none => if unicode then fail else return none
  else return none

/-- Reads what a backslash begins outside of sets. -/
def escape (outlook : Outlook) : Reader Regex := do
  let code := (← peek).getD 0
  match letterItem? code with
  | some item =>
    setRest ((← rest).drop 1)
    return .set false [item]
  | none =>
    let digits := leadingDigits (← rest)
    let number := ofDigits 10 digits
    if 49 ≤ code && code ≤ 57 && (outlook.unicode || number ≤ outlook.groups) then
      if outlook.groups < number then fail
      setRest ((← rest).drop digits.length)
      return .again number
    else if isCode code 'k' && (outlook.unicode || !outlook.names.isEmpty) then
      match bracketName? ((← rest).drop 1) with
      | some (name, after) =>
        match outlook.names.lookup name with
        | some number =>
          setRest after
          return .again number
        | none => fail
      | none => fail
    else return .one (← characterEscape outlook false)

/-- The parts of an expression one after the other. -/
def inSequence : List Regex → Regex
  | [] => .empty
  | [only] => only
  | first :: rest => .sequence first (inSequence rest)

/-- A part of an expression as it is read, and whether it can be repeated. -/
structure Part where
  regex : Regex
  repeatable : Bool

/-- Reads a part in parentheses, after the first of them. `inner` reads what is in
it. -/
def parenthesis (outlook : Outlook) (inner : Reader Regex) : Reader Part := do
  let look (ahead negated : Bool) : Reader Part := do
    let body ← inner
    expect ")"
    return ⟨.look ahead negated body, ahead && !outlook.unicode⟩
  let group : Reader Part := do
    let number := (← get).nextGroup
    modify fun reading => { reading with nextGroup := number + 1 }
    let body ← inner
    expect ")"
    return ⟨.group number body, true⟩
  if ← skipText "?=" then look true false
  else if ← skipText "?!" then look true true
  else if ← skipText "?<=" then look false false
  else if ← skipText "?<!" then look false true
  else if ← skipText "?:" then
    let body ← inner
    expect ")"
    return ⟨body, true⟩
  else if ← skipText "?" then
    match bracketName? (← rest) with
    | some (_, after) =>
      setRest after
      group
    | none => fail
  else group

/-- Reads a part of an expression without its count. -/
def part (outlook : Outlook) (inner : Reader Regex) : Reader Part := do
  let code ← take
  if isCode code '^' then return ⟨.lineStart, false⟩
  else if isCode code '$' then return ⟨.lineEnd, false⟩
  else if isCode code '.' then return ⟨.any, true⟩
  else if isCode code '(' then parenthesis outlook inner
  else if isCode code '[' then
    let negated ← skipText "^"
    return ⟨.set negated (← setItems outlook ((← rest).length + 1)), true⟩
  else if isCode code '\\' then
    if ← skipText "b" then return ⟨.wordEdge false, false⟩
    else if ← skipText "B" then return ⟨.wordEdge true, false⟩
    else return ⟨← escape outlook, true⟩
  else if isOneOf code "*+?" then fail
  else if isCode code '\x7b' then
    if outlook.unicode then fail
    setRest (code :: (← rest))
    match ← attempt bracedCount with
    | some _ => fail
    | none =>
      setRest ((← rest).drop 1)
      return ⟨.one code, true⟩
  else if outlook.unicode && isOneOf code "]\x7d" then fail
  else return ⟨.one code, true⟩

/-- Reads a part of an expression with its count. -/
def term (outlook : Outlook) (inner : Reader Regex) : Reader Regex := do
  let firstGroup := (← get).nextGroup
  let part ← part outlook inner
  match ← count? outlook.unicode with
  | none => return part.regex
  | some count =>
    if !part.repeatable then fail
    if count.most.any (· < count.least) then fail
    let greedy := !(← skipText "?")
    return .times part.regex count.least count.most greedy firstGroup (← get).nextGroup

/-- Reads parts up to a bar, a parenthesis or the end. The number bounds the parts. -/
def terms (outlook : Outlook) (inner : Reader Regex) : Nat → Reader (List Regex)
  | 0 => fail
  | bound + 1 => do
    match ← peek with
    | none => return []
    | some code =>
      if isCode code '|' || isCode code ')' then return []
      let first ← term outlook inner
      return first :: (← terms outlook inner bound)

/-- Reads alternatives. The first number bounds them, the second how deeply parentheses
nest. -/
def alternatives (outlook : Outlook) (inner : Reader Regex) : Nat → Reader Regex
  | 0 => fail
  | bound + 1 => do
    let first := inSequence (← terms outlook inner ((← rest).length + 1))
    if ← skipText "|" then return .either first (← alternatives outlook inner bound)
    else return first

/-- Reads an expression in which parentheses nest at most so deeply. -/
def expression (outlook : Outlook) : Nat → Reader Regex
  | 0 => fail
  | depth + 1 => do
    alternatives outlook (expression outlook depth) ((← rest).length + 1)

/-- Whether names are different from each other. -/
def distinct : List (String × Nat) → Bool
  | [] => true
  | (name, _) :: rest => (rest.lookup name).isNone && distinct rest

/-- The regular expression that a text is, under flags. -/
def Rule.read? (source : Units) (flags : Flags) : Option Rule := do
  let codes := if flags.unicode then source.codePoints else source.units.toList.map UInt16.toNat
  let (groups, names) := countGroups false (0, []) codes
  if !distinct names then none
  let outlook : Outlook := ⟨flags.unicode, groups, names⟩
  let (body, reading) ← (expression outlook (codes.length + 1)).run ⟨codes, 1⟩
  if reading.rest.isEmpty then some ⟨body, groups, names.reverse, flags⟩ else none

end PageWatch.Regex
