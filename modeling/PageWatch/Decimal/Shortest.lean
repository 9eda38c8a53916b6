/-!
# The shortest decimal of a binary fraction

A finite double is `m * 2 ^ q`. The reals that round to it form an interval around it,
whose ends belong to it exactly when `m` is even. Its shortest decimal is the number
with the fewest digits in that interval, and among those the one nearest to it. All
comparisons are made on naturals, by multiplying out the powers of two and ten.
-/

namespace PageWatch.Decimal

/-- The digits of a positive decimal and its exponent: the value is
`digits * 10 ^ exponent`. -/
structure Scientific where
  digits : Nat
  exponent : Int
  deriving DecidableEq, Repr, Inhabited

/-- A double without its sign. -/
inductive Magnitude where
  | nan
  | infinity
  /-- The value `m * 2 ^ q`; `narrow` says that the double below is only half as far
  away as the one above. -/
  | finite (m : Nat) (q : Int) (narrow : Bool)
  deriving DecidableEq, Repr, Inhabited

/-- The parts of a double: whether its sign bit is set, and its magnitude. -/
def decode (x : Float) : Bool × Magnitude :=
  let bits : Nat := x.toBits.toNat
  let fraction : Nat := bits % Nat.pow 2 52
  let exponent : Nat := bits / Nat.pow 2 52 % Nat.pow 2 11
  let magnitude :=
    if exponent = 2047 then
      if fraction = 0 then .infinity else .nan
    else if exponent = 0 then .finite fraction (-1074) false
    else .finite (Nat.pow 2 52 + fraction) ((exponent : Int) - 1075) (fraction == 0 && exponent > 1)
  (bits / Nat.pow 2 63 = 1, magnitude)

/-- The interval of reals that round to a double, as multiples of `1 / scale`. -/
structure Interval where
  low : Nat
  value : Nat
  high : Nat
  scale : Nat
  closed : Bool
  deriving DecidableEq, Repr, Inhabited

namespace Interval

/-- The interval of `m * 2 ^ q`, in quarters of its last binary place. -/
def ofParts (m : Nat) (q : Int) (narrow : Bool) : Interval :=
  let up := Nat.pow 2 (q - 2).toNat
  let below := if narrow then 1 else 2
  ⟨(4 * m - below) * up, 4 * m * up, (4 * m + 2) * up, Nat.pow 2 (2 - q).toNat, m % 2 = 0⟩

def contains (interval : Interval) (number : Scientific) : Bool :=
  let left := number.digits * Nat.pow 10 number.exponent.toNat * interval.scale
  let unit := Nat.pow 10 (-number.exponent).toNat
  if interval.closed then interval.low * unit ≤ left && left ≤ interval.high * unit
  else interval.low * unit < left && left < interval.high * unit

/-- How far a decimal is from the interval's value, as a multiple of
`1 / (scale * 10 ^ places)`. -/
def distance (interval : Interval) (number : Scientific) : Nat :=
  let left := number.digits * Nat.pow 10 number.exponent.toNat * interval.scale
  let right := interval.value * Nat.pow 10 (-number.exponent).toNat
  (left - right) + (right - left)

/-- The digits of the value cut off at the decimal place `exponent`. -/
def cut (interval : Interval) (exponent : Int) : Nat :=
  interval.value * Nat.pow 10 (-exponent).toNat / (interval.scale * Nat.pow 10 exponent.toNat)

end Interval

/-- The least `k` such that the value is below `10 ^ k`, for a value below one, looked
for from `10 ^ -j` downwards. -/
def leadingPlaceBelowOne (interval : Interval) : Nat → Nat → Int
  | 0, j => -j
  | steps + 1, j =>
    if interval.value * Nat.pow 10 (j + 1) < interval.scale then
      leadingPlaceBelowOne interval steps (j + 1)
    else -j

/-- The least `k` such that the value is below `10 ^ k`. -/
def leadingPlace (interval : Interval) : Int :=
  let whole := interval.value / interval.scale
  if whole = 0 then leadingPlaceBelowOne interval 400 0
  else (Nat.toDigits 10 whole).length

/-- The decimal with `count` digits next to the interval's value that lies in the
interval: of its two neighbours on that grid the nearer, and of two equally near ones
the even one. -/
def neighbour? (interval : Interval) (place : Int) (count : Nat) : Option Scientific :=
  let exponent := place - count
  let below : Scientific := ⟨interval.cut exponent, exponent⟩
  let above : Scientific := ⟨below.digits + 1, exponent⟩
  match interval.contains below, interval.contains above with
  | true, true =>
    if interval.distance below < interval.distance above then some below
    else if interval.distance above < interval.distance below then some above
    else if below.digits % 2 = 0 then some below else some above
  | true, false => some below
  | false, true => some above
  | false, false => none

/-- The first hit among the grids with `count`, `count + 1`, ... digits. -/
def shortestFrom (interval : Interval) (place : Int) : Nat → Nat → Scientific
  | 0, count => ⟨interval.cut (place - count), place - count⟩
  | steps + 1, count =>
    match neighbour? interval place count with
    | some number => number
    | none => shortestFrom interval place steps (count + 1)

/-- The number without the zeros at the end of its digits. -/
def dropZeros : Nat → Scientific → Scientific
  | 0, number => number
  | steps + 1, number =>
    if number.digits % 10 = 0 ∧ number.digits ≠ 0 then
      dropZeros steps ⟨number.digits / 10, number.exponent + 1⟩
    else number

/-- The shortest decimal that rounds to `m * 2 ^ q`; of those, the nearest. -/
def shortest (m : Nat) (q : Int) (narrow : Bool) : Scientific :=
  let interval := Interval.ofParts m q narrow
  dropZeros 20 (shortestFrom interval (leadingPlace interval) 17 1)

end PageWatch.Decimal
