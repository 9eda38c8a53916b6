import PageWatch.Text.Blank

/-!
# Texts of sixteen-bit units

Texts as sequences of UTF-16 code units, in which a character beyond the first 65536 is
a pair of surrogates. Such a text can hold a surrogate without its partner, which is no
character; written out it shows as `\uD83D`.
-/

namespace PageWatch.Text

/-- A text of sixteen-bit units. -/
structure Units where
  units : Array UInt16
  deriving BEq, DecidableEq, Hashable, Inhabited, Repr

namespace Units

def ofChar (c : Char) : List UInt16 :=
  let code := c.toNat
  if code < 0x10000 then [code.toUInt16]
  else
    let offset := code - 0x10000
    [(0xD800 + offset / 0x400).toUInt16, (0xDC00 + offset % 0x400).toUInt16]

def ofList (text : List Char) : Units := ⟨(text.flatMap ofChar).toArray⟩

def ofString (text : String) : Units := ofList text.toList

instance : Coe String Units := ⟨ofString⟩

/-- The text without units. -/
def empty : Units := ⟨#[]⟩

def size (text : Units) : Nat := text.units.size

/-- One text after the other. -/
def append (first second : Units) : Units := ⟨first.units ++ second.units⟩

instance : Append Units := ⟨append⟩

def slice (text : Units) (start stop : Nat) : Units := ⟨text.units.extract start stop⟩

/-- Whether a unit is the first of a pair. -/
def isHigh (unit : UInt16) : Bool := 0xD800 ≤ unit && unit ≤ 0xDBFF

/-- Whether a unit is the second of a pair. -/
def isLow (unit : UInt16) : Bool := 0xDC00 ≤ unit && unit ≤ 0xDFFF

/-- What a pair of surrogates stands for. -/
def joinPair (high low : UInt16) : Nat :=
  0x10000 + (high.toNat - 0xD800) * 0x400 + (low.toNat - 0xDC00)

/-- The code points of a text. A surrogate without its partner counts as one. -/
def codePointsOf : List UInt16 → List Nat
  | [] => []
  | [unit] => [unit.toNat]
  | high :: low :: rest =>
    if isHigh high && isLow low then joinPair high low :: codePointsOf rest
    else high.toNat :: codePointsOf (low :: rest)

def codePoints (text : Units) : List Nat := codePointsOf text.units.toList

def ofCodePoint (code : Nat) : Units :=
  if code < 0x10000 then ⟨#[code.toUInt16]⟩
  else
    let offset := code - 0x10000
    ⟨#[(0xD800 + offset / 0x400).toUInt16, (0xDC00 + offset % 0x400).toUInt16]⟩

/-- The digits of a number in base sixteen, in upper case. -/
def upperHex (code : Nat) : List Char := (Nat.toDigits 16 code).map Char.toUpper

def writeCodePoint (code : Nat) : List Char :=
  if 0xD800 ≤ code && code ≤ 0xDFFF then '\\' :: 'u' :: upperHex code else [Char.ofNat code]

/-- The text as characters, with surrogates that have no partner spelt out. -/
def write (text : Units) : String := String.ofList (text.codePoints.flatMap writeCodePoint)

/-- The text as characters, with surrogates that have no partner replaced. -/
def writeLossy (text : Units) : String :=
  String.ofList <| text.codePoints.map fun code =>
    if 0xD800 ≤ code && code ≤ 0xDFFF then '\ufffd' else Char.ofNat code

def before : List UInt16 → List UInt16 → Bool
  | _, [] => false
  | [], _ :: _ => true
  | a :: first, b :: second => a < b || (a == b && before first second)

/-- Whether a text comes before another: unit by unit. -/
def lt (first second : Units) : Bool := before first.units.toList second.units.toList

def standsAt (part text : Units) (position : Nat) : Bool :=
  text.slice position (position + part.size) == part

/-- The first position, not before `start`, at which a text stands in another. -/
def findFrom (part text : Units) (start : Nat) : Option Nat :=
  (List.range' start (text.size + 1 - start)).find? (part.standsAt text)

/-- The last position, not after `stop`, at which a text stands in another. -/
def findBefore (part text : Units) (stop : Nat) : Option Nat :=
  (List.range (min stop (text.size - part.size) + 1)).reverse.find? fun position =>
    part.size ≤ text.size && part.standsAt text position

/-- The text several times. -/
def repeated (text : Units) (count : Nat) : Units :=
  ⟨(List.replicate count text.units.toList).flatten.toArray⟩

/-- Several texts with one between each two. -/
def intercalate (between : Units) (texts : List Units) : Units :=
  ⟨(List.intercalate between.units.toList (texts.map (·.units.toList))).toArray⟩

/-- Texts one after the other. -/
def concat (texts : List Units) : Units :=
  ⟨texts.foldl (fun all text => all ++ text.units) #[]⟩

/-- Whether a unit is a blank or ends a line, in scripts. -/
def isBlankUnit (unit : UInt16) : Bool :=
  unit == 0xFEFF || (unit != 0x85 && !isHigh unit && !isLow unit && isBlank (Char.ofNat unit.toNat))

/-- The text without the blanks that it begins with. -/
def trimLeft (text : Units) : Units := ⟨(text.units.toList.dropWhile isBlankUnit).toArray⟩

/-- The text without the blanks that it ends with. -/
def trimRight (text : Units) : Units :=
  ⟨(text.units.toList.reverse.dropWhile isBlankUnit).reverse.toArray⟩

end Units

end PageWatch.Text
