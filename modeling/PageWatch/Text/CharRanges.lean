/-!
# Ranges of characters

Sets of characters written as a text: hexadecimal code points and ranges of them, in
ascending order, with one space between two.
-/

namespace PageWatch.Text

def hexValue? (c : Char) : Option Nat :=
  if '0' ≤ c ∧ c ≤ '9' then some (c.toNat - 48)
  else if 'a' ≤ c ∧ c ≤ 'f' then some (c.toNat - 87)
  else if 'A' ≤ c ∧ c ≤ 'F' then some (c.toNat - 55)
  else none

/-- Code points from the first to the last, both included. -/
structure CharRange where
  first : Nat
  last : Nat
  deriving DecidableEq, Repr, Inhabited

namespace CharRange

/-- Reads ranges: `low` is the first end of the range that is being read, once its
second end has begun, and `value` the number read so far. -/
def read (low : Option Nat) (value : Nat) : List Char → List CharRange
  | [] => [⟨low.getD value, value⟩]
  | ' ' :: rest => ⟨low.getD value, value⟩ :: read none 0 rest
  | '-' :: rest => read (some value) 0 rest
  | c :: rest => read low (value * 16 + (hexValue? c).getD 0) rest

def ofText (text : String) : Array CharRange :=
  (read none 0 text.toList).toArray

/-- Whether one of the ranges between the positions `low` and `high` holds a code
point. The ranges ascend, so half of them are put aside at each look. -/
def search (ranges : Array CharRange) (code : Nat) : Nat → Nat → Nat → Bool
  | 0, _, _ => false
  | steps + 1, low, high =>
    if low < high then
      let middle := (low + high) / 2
      match ranges[middle]? with
      | none => false
      | some range =>
        if code < range.first then search ranges code steps low middle
        else if range.last < code then search ranges code steps (middle + 1) high
        else true
    else false

/-- Whether a code point lies in one of the ranges. -/
def covers (ranges : Array CharRange) (code : Nat) : Bool :=
  search ranges code (ranges.size + 1) 0 ranges.size

end CharRange

end PageWatch.Text
