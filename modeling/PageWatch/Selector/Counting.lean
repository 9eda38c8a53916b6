import PageWatch.Selector.Basic

/-!
# Counting formulas

The formulas by which a selector counts siblings: `odd`, `even`, a number, or a
multiple of `n` and a number, `2n+1`. Most of them are several tokens, and where a
formula is divided into tokens depends on its blanks and signs.
-/

namespace PageWatch.Selector.Counting

/-- The tokens without the blanks that they begin with. -/
def skipBlanks : List Token → List Token
  | .blank :: rest => skipBlanks rest
  | tokens => tokens

def next (tokens : List Token) : Except Fault (Token × List Token) :=
  match skipBlanks tokens with
  | [] => .error .ended
  | token :: rest => .ok (token, rest)

def lower (name : String) : String := name.map Char.toLower

/-- The number that `n-3` takes away. -/
def dashed? (name : String) : Option Int :=
  match (lower name).toList with
  | 'n' :: '-' :: digits =>
    if !digits.isEmpty && digits.all Char.isDigit then
      some (max (-2147483648) (-(Token.digitsValue digits : Int)))
    else none
  | _ => none

def readUnsigned (step sign : Int) (tokens : List Token) :
    Except Fault ((Int × Int) × List Token) := do
  match ← next tokens with
  | (.number ⟨false, _, some number⟩, rest) => return ((step, sign * number), rest)
  | (token, _) => .error (.unexpected token)

/-- Reads the number after `n`, if there is one. -/
def readOffset (step : Int) (tokens : List Token) :
    Except Fault ((Int × Int) × List Token) :=
  match skipBlanks tokens with
  | .sign "+" :: rest => readUnsigned step 1 rest
  | .sign "-" :: rest => readUnsigned step (-1) rest
  | .number ⟨true, _, some number⟩ :: rest => .ok ((step, number), rest)
  | _ => .ok ((step, 0), tokens)

/-- Reads what follows a step, of which `name` is the part from its `n` on. -/
def readFromN (step : Int) (name : String) (tokens : List Token) :
    Except Fault ((Int × Int) × List Token) :=
  if lower name == "n" then readOffset step tokens
  else if lower name == "n-" then readUnsigned step (-1) tokens
  else
    match dashed? name with
    | some number => .ok ((step, number), tokens)
    | none => .error (.unexpected (.word name))

/-- Reads a formula: its step and its offset. -/
def read (tokens : List Token) : Except Fault ((Int × Int) × List Token) := do
  match ← next tokens with
  | (.number ⟨_, _, some number⟩, rest) => return ((0, number), rest)
  | (.dimension ⟨_, _, some step⟩ unit, rest) => readFromN step unit rest
  | (.word name, rest) =>
    if lower name == "even" then return ((2, 0), rest)
    else if lower name == "odd" then return ((2, 1), rest)
    else
      match name.toList with
      | '-' :: positive =>
        match readFromN (-1) (String.ofList positive) rest with
        | .error (.unexpected (.word other)) =>
          .error (.unexpected (.word (if other == String.ofList positive then name else other)))
        | result => result
      | _ => readFromN 1 name rest
  | (.sign "+", rest) =>
    match rest with
    | [] => .error .ended
    | .word name :: rest => readFromN 1 name rest
    | token :: _ => .error (.unexpected token)
  | (token, _) => .error (.unexpected token)

end PageWatch.Selector.Counting
