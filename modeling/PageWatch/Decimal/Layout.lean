import PageWatch.Decimal.Shortest

/-!
# The text of a decimal

A format decides which decimals are written out in positional notation and how the
others show their exponent. The digits themselves are the shortest ones.
-/

namespace PageWatch.Decimal

/-- The choices a format makes. -/
structure Layout where
  /-- The least exponent of the leading digit that is written out. -/
  leastFixed : Int
  /-- The greatest exponent of the leading digit that is written out. -/
  greatestFixed : Int
  /-- Whether a whole number is written with one zero behind the point. -/
  wholePoint : Bool
  /-- Whether negative zero shows its sign. -/
  signedZero : Bool
  nan : String
  infinity : String
  deriving Repr, Inhabited

namespace Layout

/-- The digits with a point behind the first `place` of them, filled with zeros on
either side where the digits do not reach. -/
def positional (layout : Layout) (digits : List Char) (place : Int) : List Char :=
  if place ≤ 0 then
    '0' :: '.' :: List.replicate (-place).toNat '0' ++ digits
  else if digits.length ≤ place.toNat then
    digits ++ List.replicate (place.toNat - digits.length) '0' ++
      (if layout.wholePoint then ['.', '0'] else [])
  else digits.take place.toNat ++ '.' :: digits.drop place.toNat

/-- The digits with a point behind the first and the exponent of the first. -/
def exponential (digits : List Char) (exponent : Int) : List Char :=
  let mantissa := match digits with
    | [] => ['0']
    | [d] => [d]
    | d :: more => d :: '.' :: more
  let sign := if exponent < 0 then '-' else '+'
  mantissa ++ 'e' :: sign :: Nat.toDigits 10 exponent.natAbs

def scientific (layout : Layout) (number : Scientific) : List Char :=
  let digits := Nat.toDigits 10 number.digits
  let place := number.exponent + digits.length
  if layout.leastFixed ≤ place - 1 ∧ place - 1 ≤ layout.greatestFixed then
    layout.positional digits place
  else exponential digits (place - 1)

def write (layout : Layout) (x : Float) : String :=
  match decode x with
  | (_, .nan) => layout.nan
  | (negative, .infinity) => if negative then "-" ++ layout.infinity else layout.infinity
  | (negative, .finite 0 _ _) =>
    let zero := if layout.wholePoint then "0.0" else "0"
    if negative && layout.signedZero then "-" ++ zero else zero
  | (negative, .finite m q narrow) =>
    let text := String.ofList (layout.scientific (shortest m q narrow))
    if negative then "-" ++ text else text

end Layout

end PageWatch.Decimal
