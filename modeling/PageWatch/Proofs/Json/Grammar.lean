import Mathlib.Data.List.Basic
import PageWatch.Text.CharRanges

/-!
# The grammar of JSON

Texts of JSON values, as they may be written: with any white space, any spelling of strings, any
number, and arrays and objects nested to any depth.  Nothing is said here of how they are read.

White space may follow every bracket, comma, colon, name and value.  So a list of items, or of
members, begins with its first item or member itself.
-/

namespace PageWatch.Json

/-! ## White space and numbers -/

/-- The characters that JSON has for white space. -/
def IsSpace (c : Char) : Prop := c = ' ' ∨ c = '\n' ∨ c = '\t' ∨ c = '\r'

instance : DecidablePred IsSpace := fun _ => inferInstanceAs (Decidable (_ ∨ _))

/-- A text of white space, which may be empty. -/
def Space (text : List Char) : Prop := ∀ c ∈ text, IsSpace c

instance : DecidablePred Space := List.decidableBAll IsSpace

theorem space_nil : Space [] := List.forall_mem_nil _

/-- One digit or more. -/
def Digits (text : List Char) : Prop := text ≠ [] ∧ ∀ c ∈ text, c.isDigit

/-- Only zero itself begins with a zero. -/
def Whole (text : List Char) : Prop := text = ['0'] ∨ Digits text ∧ text.head? ≠ some '0'

/-- The places behind the point of a number, if it has one. -/
def Fraction (text : List Char) : Prop := text = [] ∨ ∃ digits, Digits digits ∧ text = '.' :: digits

/-- The exponent of a number, if it has one. -/
def Exponent (text : List Char) : Prop :=
  text = [] ∨ ∃ mark sign digits, (mark = 'e' ∨ mark = 'E') ∧
    (sign = [] ∨ sign = ['+'] ∨ sign = ['-']) ∧ Digits digits ∧ text = mark :: (sign ++ digits)

/-- A number. -/
def Numeral (text : List Char) : Prop :=
  ∃ sign whole fraction exponent, (sign = [] ∨ sign = ['-']) ∧ Whole whole ∧ Fraction fraction ∧
    Exponent exponent ∧ text = sign ++ (whole ++ (fraction ++ exponent))

/-! ## Strings -/

/-- The escapes of one letter and the characters that they stand for. -/
def shortEscapes : List (Char × Char) :=
  [('"', '"'), ('\\', '\\'), ('/', '/'), ('b', '\x08'), ('f', '\x0c'), ('n', '\n'), ('r', '\r'),
    ('t', '\t')]

/-- A hexadecimal digit, in either case. -/
def HexDigit : Type := { c : Char // (Text.hexValue? c).isSome }

namespace HexDigit

/-- What a digit counts. -/
def value (digit : HexDigit) : Nat := (Text.hexValue? digit.1).get digit.2

end HexDigit

/-- A character may stand for itself if it is neither for control nor marks the end of a string or
an escape. -/
def IsOrdinary (c : Char) : Prop := 32 ≤ c.toNat ∧ c ≠ '"' ∧ c ≠ '\\'

instance : DecidablePred IsOrdinary := fun _ => inferInstanceAs (Decidable (_ ∧ _))

/-- A piece of a string. -/
inductive Glyph where
  /-- A character that stands for itself. -/
  | plain (c : Char) (ordinary : IsOrdinary c)
  | short (letter meant : Char) (escape : (letter, meant) ∈ shortEscapes)
  /-- A unit of sixteen bits. -/
  | code (a b c d : HexDigit)

namespace Glyph

/-- How a piece is written. -/
def text : Glyph → List Char
  | plain c _ => [c]
  | short letter _ _ => ['\\', letter]
  | code a b c d => ['\\', 'u', a.1, b.1, c.1, d.1]

/-- The value of four digits. -/
def unit (a b c d : HexDigit) : Nat :=
  a.value * 4096 + b.value * 256 + c.value * 16 + d.value

/-- The first half of a pair of surrogates. -/
def IsHigh (unit : Nat) : Prop := 0xD800 ≤ unit ∧ unit ≤ 0xDBFF

/-- The second half of a pair of surrogates. -/
def IsLow (unit : Nat) : Prop := 0xDC00 ≤ unit ∧ unit ≤ 0xDFFF

instance (unit : Nat) : Decidable (IsHigh unit) := inferInstanceAs (Decidable (_ ∧ _))

instance (unit : Nat) : Decidable (IsLow unit) := inferInstanceAs (Decidable (_ ∧ _))

/-- The characters that a string stands for; none if it spells a surrogate without its other
half. -/
def meaning : List Glyph → Option (List Char)
  | [] => some []
  | plain c _ :: rest => (meaning rest).map (c :: ·)
  | short _ meant _ :: rest => (meaning rest).map (meant :: ·)
  | code a b c d :: code e f g h :: rest =>
    if IsHigh (unit a b c d) then
      if IsLow (unit e f g h) then
        let offset := (unit a b c d - 0xD800) * 0x400 + (unit e f g h - 0xDC00)
        (meaning rest).map (Char.ofNat (0x10000 + offset) :: ·)
      else none
    else if IsLow (unit a b c d) then none
    else (meaning (code e f g h :: rest)).map (Char.ofNat (unit a b c d) :: ·)
  | code a b c d :: rest =>
    if IsHigh (unit a b c d) ∨ IsLow (unit a b c d) then none
    else (meaning rest).map (Char.ofNat (unit a b c d) :: ·)

end Glyph

/-- A string between its quotes. -/
def spelt (string : List Glyph) : List Char := '"' :: (string.flatMap Glyph.text ++ ['"'])

/-! ## Values -/

/-- A member of an object: its name, and its value as it is written. -/
structure Member where
  name : List Glyph
  value : List Char

/-- The name that the program knows a member by; none if its spelling means nothing. -/
def Member.key (one : Member) : Option String := (Glyph.meaning one.name).map String.ofList

/-- What a text can be. -/
inductive Phrase where
  | value
  /-- The items of an array. -/
  | items
  /-- The members of an object, which are these. -/
  | members (all : List Member)

/-- Texts of JSON. -/
inductive Written : Phrase → List Char → Prop
  | null : Written .value ['n', 'u', 'l', 'l']
  | true : Written .value ['t', 'r', 'u', 'e']
  | false : Written .value ['f', 'a', 'l', 's', 'e']
  | number {text : List Char} : Numeral text → Written .value text
  | string (string : List Glyph) : Written .value (spelt string)
  | emptyArray {space : List Char} : Space space → Written .value ('[' :: (space ++ [']']))
  | array {space items : List Char} :
      Space space → Written .items items → Written .value ('[' :: (space ++ (items ++ [']'])))
  | emptyObject {space : List Char} :
      Space space → Written .value ('\x7b' :: (space ++ ['\x7d']))
  | object {space members : List Char} {all : List Member} :
      Space space → Written (.members all) members →
      Written .value ('\x7b' :: (space ++ (members ++ ['\x7d'])))
  | lastItem {item space : List Char} :
      Written .value item → Space space → Written .items (item ++ space)
  | nextItem {item space next items : List Char} :
      Written .value item → Space space → Space next → Written .items items →
      Written .items (item ++ (space ++ ',' :: (next ++ items)))
  | lastMember (name : List Glyph) {behind before value space : List Char} :
      Space behind → Space before → Written .value value → Space space →
      Written (.members [⟨name, value⟩])
        (spelt name ++ (behind ++ ':' :: (before ++ (value ++ space))))
  | nextMember (name : List Glyph) {behind before value space next members : List Char}
      {all : List Member} :
      Space behind → Space before → Written .value value → Space space → Space next →
      Written (.members all) members →
      Written (.members (⟨name, value⟩ :: all))
        (spelt name ++
          (behind ++ ':' :: (before ++ (value ++ (space ++ ',' :: (next ++ members))))))

/-- The text of an object with these members, and white space around it. -/
inductive ObjectText : List Member → List Char → Prop
  | empty {before space after : List Char} :
      Space before → Space space → Space after →
      ObjectText [] (before ++ '\x7b' :: (space ++ '\x7d' :: after))
  | full {before space members after : List Char} {all : List Member} :
      Space before → Space space → Written (.members all) members → Space after →
      ObjectText all (before ++ '\x7b' :: (space ++ (members ++ '\x7d' :: after)))

end PageWatch.Json
