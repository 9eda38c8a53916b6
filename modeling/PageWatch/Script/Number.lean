import PageWatch.Decimal.Layout
import PageWatch.Text.CharRanges
import PageWatch.Text.Units

/-!
# Numbers of scripts

Scripts count in doubles. This module holds how they are written and read, their whole
parts, and the operations that are not those of the processor.
-/

namespace PageWatch.Script

open Text

namespace Number

/-- How scripts write numbers: the shortest digits that read back, positional from
`0.000001` up to twenty-one digits. -/
def layout : Decimal.Layout where
  leastFixed := -6
  greatestFixed := 20
  wholePoint := false
  signedZero := false
  nan := "NaN"
  infinity := "Infinity"

def text (x : Float) : Units := layout.write x

def nan : Float := 0.0 / 0.0

/-- The number beyond all others. -/
def infinity : Float := 1.0 / 0.0

/-- Whether a number is zero with a sign. -/
def isNegativeZero (x : Float) : Bool := x.toBits == 0x8000000000000000

/-- The number `mantissa * 2 ^ exponent`, for a mantissa below `2 ^ 53`. -/
def ofParts (negative : Bool) (mantissa : Nat) (exponent : Int) : Float :=
  let size := Float.scaleB (Float.ofNat mantissa) exponent
  if negative then -size else size

/-- The number next to an integer. -/
def ofInt (n : Int) : Float := Float.ofInt n

/-- The whole part of a number, if it has one. -/
def truncate? (x : Float) : Option Int :=
  match Decimal.decode x with
  | (negative, .finite m q _) =>
    let size : Int := Int.ofNat (m * Nat.pow 2 q.toNat / Nat.pow 2 (-q).toNat)
    some (if negative then -size else size)
  | _ => none

/-- The whole part of a number. -/
def truncate (x : Float) : Float :=
  if x < 0 then x.ceil else x.floor

/-- The whole part of a number within 32 bits, without a sign. -/
def toWord (x : Float) : UInt32 :=
  UInt32.ofNat (((truncate? x).getD 0).emod (Nat.pow 2 32)).toNat

def ofSignedWord (word : UInt32) : Float :=
  ofInt ((word.toNat : Int).bmod (Nat.pow 2 32))

/-- A word as a number without a sign. -/
def ofWord (word : UInt32) : Float := Float.ofNat word.toNat

def isWhole (x : Float) : Bool := x.isFinite && truncate x == x

/-- The remainder of a division whose quotient is rounded toward zero. -/
def remainder (x y : Float) : Float :=
  match Decimal.decode x, Decimal.decode y with
  | (_, .nan), _ | _, (_, .nan) | (_, .infinity), _ | _, (_, .finite 0 _ _) => nan
  | _, (_, .infinity) => x
  | (negative, .finite m q _), (_, .finite n r _) =>
    let low := min q r
    ofParts negative ((m * Nat.pow 2 (q - low).toNat) % (n * Nat.pow 2 (r - low).toNat)) low

/-- One number to the power of another. -/
def power (x y : Float) : Float :=
  if y.isNaN then nan
  else if y == 0 then 1
  else if (x == 1 || x == -1) && y.isInf then nan
  else x.pow y

def ofDigits (base : Nat) (digits : List Char) : Nat :=
  digits.foldl (fun value c => value * base + (hexValue? c).getD 0) 0

/-- The number `digits * 10 ^ exponent`. -/
def ofDecimal (digits : List Char) (exponent : Int) : Float :=
  let value := ofDigits 10 digits
  -- beyond these bounds the number is zero or infinite anyway
  let exponent : Int := max (-400 - (digits.length : Int)) (min 400 exponent)
  if value == 0 then 0 else Float.ofScientific value (exponent < 0) exponent.natAbs

def readExponent : List Char → Option (Int × List Char)
  | c :: rest =>
    if c == 'e' || c == 'E' then
      let (negative, rest) := match rest with
        | '-' :: rest => (true, rest)
        | '+' :: rest => (false, rest)
        | _ => (false, rest)
      let digits := rest.takeWhile Char.isDigit
      if digits.isEmpty then none
      else
        let size : Int := Int.ofNat (ofDigits 10 digits)
        some (if negative then -size else size, rest.drop digits.length)
    else none
  | [] => none

/-- Reads a decimal without a sign, as far as it goes. -/
def readDecimal (text : List Char) : Option (Float × List Char) :=
  let whole := text.takeWhile Char.isDigit
  let rest := text.drop whole.length
  let (places, rest) := match rest with
    | '.' :: rest =>
      let places := rest.takeWhile Char.isDigit
      (places, rest.drop places.length)
    | _ => ([], rest)
  if whole.isEmpty && places.isEmpty then none
  else
    let (exponent, rest) := (readExponent rest).getD (0, rest)
    some (ofDecimal (whole ++ places) (exponent - places.length), rest)

/-- Reads a decimal with a sign, or infinity, as far as it goes. -/
def readSigned (text : List Char) : Option (Float × List Char) :=
  let (negative, text) := match text with
    | '-' :: rest => (true, rest)
    | '+' :: rest => (false, rest)
    | _ => (false, text)
  let size? :=
    if "Infinity".toList.isPrefixOf text then some (infinity, text.drop 8)
    else readDecimal text
  size?.map fun (size, rest) => (if negative then -size else size, rest)

/-- Whether a character is a digit of a base up to sixteen. -/
def isDigitOf (base : Nat) (c : Char) : Bool := (hexValue? c).any (· < base)

/-- The base that a letter after a zero stands for. -/
def baseOf? (c : Char) : Option Nat :=
  match c.toLower with
  | 'x' => some 16
  | 'o' => some 8
  | 'b' => some 2
  | _ => none

/-- The number that a text writes: blanks around it do not matter, and the empty text
writes zero. -/
def read (text : Units) : Float :=
  let text := text.trimLeft.trimRight.writeLossy.toList
  let decimal : Float :=
    match readSigned text with
    | some (x, []) => x
    | _ => nan
  match text with
  | [] => 0
  | '0' :: c :: digits =>
    match baseOf? c with
    | some base =>
      if !digits.isEmpty && digits.all (isDigitOf base) then Float.ofNat (ofDigits base digits)
      else nan
    | none => decimal
  | _ => decimal

def readWhole? (text : Units) : Option Int :=
  let text := text.trimLeft.trimRight.writeLossy.toList
  let whole (digits : List Char) : Option Int :=
    if !digits.isEmpty && digits.all Char.isDigit then some (ofDigits 10 digits) else none
  match text with
  | [] => some 0
  | '-' :: digits => (whole digits).map (- ·)
  | '+' :: digits => whole digits
  | '0' :: c :: digits =>
    match baseOf? c with
    | some base =>
      if !digits.isEmpty && digits.all (isDigitOf base) then some (ofDigits base digits)
      else none
    | none => whole ('0' :: c :: digits)
  | digits => whole digits

/-! ## Other bases -/

/-- The digit of a number below thirty-six. -/
def digitOf (n : Nat) : Char := if n < 10 then Char.ofNat (48 + n) else Char.ofNat (87 + n)

/-- The value of a digit of a base up to thirty-six. -/
def digitValue? (c : Char) : Option Nat :=
  let c := c.toLower
  if c.isDigit then some (c.toNat - 48)
  else if 'a' ≤ c && c ≤ 'z' then some (c.toNat - 87)
  else none

def digitsOf (base n : Nat) : List Char :=
  if n == 0 then ['0']
  else (go 1100 n []).map digitOf
where
  /-- Puts the digits of `n` before others. -/
  go : Nat → Nat → List Nat → List Nat
    | 0, _, digits => digits
    | steps + 1, n, digits => if n == 0 then digits else go steps (n / base) (n % base :: digits)

def digitText (base : Nat) (n : Nat) : List Char := digitsOf base n

/-- Adds one to the last of some digits, least digit first. A carry over the first of
them is the flag. -/
def carry (base : Nat) : List Nat → List Nat × Bool
  | [] => ([], true)
  | digit :: rest =>
    if digit + 1 < base then ((digit + 1) :: rest, false) else carry base rest

/-- The places of a fraction in a base, least place first, as many as are needed to tell
the number from its neighbours, and whether they round up to one. -/
def places (base : Nat) : Nat → Float → Float → List Nat → List Nat × Bool
  | 0, _, _, digits => (digits, false)
  | steps + 1, fraction, delta, digits =>
    let fraction := fraction * Float.ofNat base
    let delta := delta * Float.ofNat base
    let digit := fraction.floor.toUInt64.toNat
    let fraction := fraction - Float.ofNat digit
    let digits := digit :: digits
    let up := 0.5 < fraction || (fraction == 0.5 && digit % 2 == 1)
    if up && 1 < fraction + delta then carry base digits
    else if fraction < delta then (digits, false)
    else places base steps fraction delta digits

def baseText (base : Nat) (x : Float) : Units :=
  if x.isNaN then "NaN"
  else
    let negative := x < 0
    let size := x.abs
    let text :=
      if size.isInf then "Infinity".toList
      else
        let whole : Nat := ((truncate? size).getD 0).toNat
        let fraction := size - size.floor
        let above := Float.ofBits (size.toBits + 1)
        let delta := max (0.5 * (above - size)) (Float.ofBits 1)
        if fraction < delta then digitText base whole
        else
          let (digits, up) := places base 1100 fraction delta []
          let digits := digits.dropWhile (· == 0)
          let whole := if up then whole + 1 else whole
          digitText base whole ++
            (if digits.isEmpty then [] else '.' :: digits.reverse.map digitOf)
    Units.ofList (if negative then '-' :: text else text)

/-- The number with a sign and its size as a fraction. -/
def fraction (x : Float) : Bool × Nat × Nat :=
  match Decimal.decode x with
  | (negative, .finite m q _) => (negative, m * Nat.pow 2 q.toNat, Nat.pow 2 (-q).toNat)
  | (negative, _) => (negative, 0, 1)

/-- The quotient rounded to the nearest number, half a unit upwards. -/
def roundHalfUp (numerator denominator : Nat) : Nat :=
  (2 * numerator + denominator) / (2 * denominator)

/-- The text of a number with a fixed number of places. -/
def fixedText (count : Nat) (x : Float) : Units :=
  let (negative, numerator, denominator) := fraction x
  let scaled := roundHalfUp (numerator * Nat.pow 10 count) denominator
  let digits := Nat.toDigits 10 scaled
  let digits := List.replicate (count + 1 - digits.length) '0' ++ digits
  let whole := digits.take (digits.length - count)
  let text := if count == 0 then whole else whole ++ '.' :: digits.drop (digits.length - count)
  Units.ofList (if negative && x < 0 then '-' :: text else text)

/-- The digits of a positive number, `count` of them, and the exponent of the first. -/
def significant (count : Nat) (x : Float) : List Char × Int :=
  let (_, numerator, denominator) := fraction x
  if numerator == 0 then (List.replicate count '0', 0)
  else
    let guess : Int :=
      if denominator ≤ numerator then (Nat.toDigits 10 (numerator / denominator)).length - 1
      else -((Nat.toDigits 10 (denominator / numerator)).length : Int)
    let scaled (exponent : Int) : Nat :=
      let shift := (count : Int) - 1 - exponent
      roundHalfUp (numerator * Nat.pow 10 shift.toNat) (denominator * Nat.pow 10 (-shift).toNat)
    let first := scaled guess
    if first < Nat.pow 10 (count - 1) then (Nat.toDigits 10 (scaled (guess - 1)), guess - 1)
    else if Nat.pow 10 count ≤ first then (Nat.toDigits 10 (scaled (guess + 1)), guess + 1)
    else (Nat.toDigits 10 first, guess)

/-- The text of a number with a point behind its first digit and with an exponent. -/
def exponentText (digits : List Char) (exponent : Int) : List Char :=
  Decimal.Layout.exponential digits exponent

/-- The text of a number with a number of digits that count. -/
def precisionText (count : Nat) (x : Float) : Units :=
  let (digits, exponent) := significant count x
  let text :=
    if exponent < -6 || (count : Int) ≤ exponent then exponentText digits exponent
    else if exponent < 0 then
      '0' :: '.' :: List.replicate (-exponent - 1).toNat '0' ++ digits
    else if digits.length ≤ exponent.toNat + 1 then digits
    else digits.take (exponent.toNat + 1) ++ '.' :: digits.drop (exponent.toNat + 1)
  Units.ofList (if x < 0 then '-' :: text else text)

end Number

end PageWatch.Script
