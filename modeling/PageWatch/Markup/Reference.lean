import PageWatch.Markup.Reference.Names
import PageWatch.Text.CharRanges

/-!
# References to characters

Markup can write a character by its number, `&#233;` or `&#xE9;`, or by a name,
`&eacute;`. What is no reference stands for itself.
-/

namespace PageWatch.Markup.Reference

/-- A name and the characters that it stands for. A `bare` name needs no semicolon. -/
structure Named where
  name : List Char
  bare : Bool
  meaning : List Char
  deriving Repr, Inhabited

/-- Stands for a number that is no character. -/
def replacement : Char := '\ufffd'

def hexNumber (digits : List Char) : Nat :=
  digits.foldl (fun value digit => value * 16 + (Text.hexValue? digit).getD 0) 0

def Named.ofEntry (entry : List Char) : Named :=
  let name := entry.takeWhile fun c => c != '!' && c != ':'
  let rest := entry.drop name.length
  { name
    bare := rest.head? == some '!'
    meaning := (rest.drop 1).splitOn '+' |>.map fun digits => Char.ofNat (hexNumber digits) }

def named : List Named :=
  (nameTable.toList.splitOnP fun c => c == ' ' || c == '\n').map Named.ofEntry

/-- How many characters of the text a name covers, if the text begins with it. -/
def Named.covers? (entry : Named) (text : List Char) : Option Nat :=
  if entry.name.isPrefixOf text then
    if text[entry.name.length]? == some ';' then some (entry.name.length + 1)
    else if entry.bare then some entry.name.length
    else none
  else none

/-- The longest name that the text begins with, and how many characters it covers. -/
def longest (entries : List Named) (text : List Char) : Option (Nat × Named) :=
  entries.foldl (fun best entry =>
    match entry.covers? text with
    | none => best
    | some count =>
      match best with
      | none => some (count, entry)
      | some (most, _) => if most < count then some (count, entry) else best) none

/-- The characters at the numbers 128 to 159, where old pages count as if the text
were in a one-byte encoding; zero where that encoding has none. -/
def oldNumbers : List Nat :=
  [0x20AC, 0, 0x201A, 0x0192, 0x201E, 0x2026, 0x2020, 0x2021,
   0x02C6, 0x2030, 0x0160, 0x2039, 0x0152, 0, 0x017D, 0,
   0, 0x2018, 0x2019, 0x201C, 0x201D, 0x2022, 0x2013, 0x2014,
   0x02DC, 0x2122, 0x0161, 0x203A, 0x0153, 0, 0x017E, 0x0178]

def ofNumber (number : Nat) : Char :=
  if number == 0 || 0x10FFFF < number || (0xD800 ≤ number && number ≤ 0xDFFF) then replacement
  else
    match oldNumbers[number - 0x80]? with
    | some old => if 0x80 ≤ number && old != 0 then Char.ofNat old else Char.ofNat number
    | none => Char.ofNat number

def skipSemicolon : List Char → List Char
  | ';' :: rest => rest
  | text => text

/-- Reads digits of a base and the semicolon after them. -/
def readDigits (isDigit : Char → Bool) (base : Nat) (text : List Char) :
    Option (List Char × List Char) :=
  let digits := text.takeWhile isDigit
  if digits.isEmpty then none
  else
    let number := digits.foldl (fun value c => value * base + (Text.hexValue? c).getD 0) 0
    some ([ofNumber number], skipSemicolon (text.drop digits.length))

/-- Reads a name. Inside an attribute a name without a semicolon is no reference if a
letter, a digit or an equals sign follows, since old pages write addresses there. -/
def readName (inAttribute : Bool) (text : List Char) : Option (List Char × List Char) :=
  match longest named text with
  | none => none
  | some (count, entry) =>
    let rest := text.drop count
    let joined := match rest with
      | c :: _ => c == '=' || c.isAlphanum
      | [] => false
    if inAttribute && count == entry.name.length && joined then none
    else some (entry.meaning, rest)

/-- Reads what follows an ampersand: the characters referred to and the rest of the
text, or nothing if this is no reference. -/
def read (inAttribute : Bool) : List Char → Option (List Char × List Char)
  | '#' :: 'x' :: rest | '#' :: 'X' :: rest =>
    readDigits (fun c => (Text.hexValue? c).isSome) 16 rest
  | '#' :: rest => readDigits Char.isDigit 10 rest
  | text => readName inAttribute text

/-- A text with its references replaced by the characters that they refer to. The
first argument bounds the number of steps; the length of the text is enough. -/
def resolveWithin (inAttribute : Bool) : Nat → List Char → List Char
  | 0, text => text
  | _, [] => []
  | steps + 1, '&' :: rest =>
    match read inAttribute rest with
    | some (meaning, rest) => meaning ++ resolveWithin inAttribute steps rest
    | none => '&' :: resolveWithin inAttribute steps rest
  | steps + 1, c :: rest => c :: resolveWithin inAttribute steps rest

/-- A text with its references replaced by the characters that they refer to. -/
def resolve (inAttribute : Bool) (text : List Char) : List Char :=
  resolveWithin inAttribute text.length text

end PageWatch.Markup.Reference
