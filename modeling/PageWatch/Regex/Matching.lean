import PageWatch.Regex.Basic
import PageWatch.Text.Case

/-!
# Matching regular expressions

What a regular expression matches at a position of a text. A part is tried with
everything that comes after it, so that a choice which fails later is taken back. The
expression itself bounds the nesting; repetitions are bounded by the length of the text,
because one that may stop does not go on without getting further.
-/

namespace PageWatch.Regex

open Text

/-- What a match has come to: a position, and what the groups have matched. -/
structure Place where
  position : Nat
  groups : Array (Option (Nat × Nat))
  deriving Repr, Inhabited

/-- A text that is searched. -/
structure Subject where
  units : Array UInt16
  flags : Flags

namespace Subject

/-- The character after a position, and the position after it. -/
def after? (subject : Subject) (position : Nat) : Option (Nat × Nat) :=
  match subject.units[position]? with
  | none => none
  | some unit =>
    if subject.flags.unicode && Units.isHigh unit then
      match subject.units[position + 1]? with
      | some low =>
        if Units.isLow low then some (Units.joinPair unit low, position + 2)
        else some (unit.toNat, position + 1)
      | none => some (unit.toNat, position + 1)
    else some (unit.toNat, position + 1)

/-- The character before a position, and the position before it. -/
def before? (subject : Subject) (position : Nat) : Option (Nat × Nat) :=
  if position = 0 then none
  else
    match subject.units[position - 1]? with
    | none => none
    | some unit =>
      if subject.flags.unicode && Units.isLow unit && 2 ≤ position then
        match subject.units[position - 2]? with
        | some high =>
          if Units.isHigh high then some (Units.joinPair high unit, position - 2)
          else some (unit.toNat, position - 1)
        | none => some (unit.toNat, position - 1)
      else some (unit.toNat, position - 1)

/-- The next character in a direction, and the position behind it. -/
def next? (subject : Subject) (forward : Bool) (position : Nat) : Option (Nat × Nat) :=
  if forward then subject.after? position else subject.before? position

/-- The form of a character in which it is compared. -/
def canonical (subject : Subject) (code : Nat) : Nat :=
  if !subject.flags.ignoreCase then code
  else
    match upperCase code with
    | [upper] =>
      if subject.flags.unicode then
        match lowerCase upper with
        | [lower] => lower
        | _ => code
      else if 128 ≤ code && upper < 128 then code
      else upper
    | _ => code

def isLineEnd (code : Nat) : Bool :=
  code = 10 || code = 13 || code = 0x2028 || code = 0x2029

def isDigit (code : Nat) : Bool := 48 ≤ code && code ≤ 57

/-- Whether a code is that of a blank or of a line's end. -/
def isSpace (code : Nat) : Bool := code < 65536 && Units.isBlankUnit code.toUInt16

def isWord (code : Nat) : Bool :=
  isDigit code || (65 ≤ code && code ≤ 90) || (97 ≤ code && code ≤ 122) || code = 95

/-- Whether an item of a set holds a character. -/
def holds (code : Nat) : Item → Bool
  | .range first last => first ≤ code && code ≤ last
  | .digit negated => isDigit code != negated
  | .space negated => isSpace code != negated
  | .word negated => isWord code != negated

/-- The characters that are compared as the same one. -/
def variants (subject : Subject) (code : Nat) : List Nat :=
  if !subject.flags.ignoreCase then [code]
  else
    let upper := upperCase code
    let all := code :: (upper ++ lowerCase code ++ (upper.flatMap lowerCase))
    all.filter fun other => subject.canonical other = subject.canonical code

def inSet (subject : Subject) (negated : Bool) (items : List Item) (code : Nat) : Bool :=
  ((subject.variants code).any fun code => items.any (holds code)) != negated

/-- Whether a character of words stands after a position. -/
def isWordAt (subject : Subject) (position : Nat) : Bool :=
  (subject.units[position]?).any fun unit => isWord unit.toNat

/-- Whether a word begins or ends at a position. -/
def isWordEdge (subject : Subject) (position : Nat) : Bool :=
  (position ≠ 0 && subject.isWordAt (position - 1)) != subject.isWordAt position

def isLineStart (subject : Subject) (position : Nat) : Bool :=
  position = 0 || (subject.flags.multiline &&
    (subject.units[position - 1]?).any fun unit => isLineEnd unit.toNat)

def endsLine (subject : Subject) (position : Nat) : Bool :=
  subject.units.size ≤ position || (subject.flags.multiline &&
    (subject.units[position]?).any fun unit => isLineEnd unit.toNat)

/-- Whether a part of the text stands in it at another position too. -/
def repeats (subject : Subject) (start position : Nat) : Nat → Bool
  | 0 => true
  | length + 1 =>
    match subject.units[start + length]?, subject.units[position + length]? with
    | some first, some second =>
      subject.canonical first.toNat = subject.canonical second.toNat &&
        subject.repeats start position length
    | _, _ => false

end Subject

/-- Goes on from a place, if that leads to a match. -/
abbrev Next := Place → Option Place

/-- A way of matching, given what comes after it. -/
abbrev Step := Place → Next → Option Place

namespace Step

def ofTest (subject : Subject) (forward : Bool) (test : Nat → Bool) : Step :=
  fun place next =>
    match subject.next? forward place.position with
    | some (code, position) => if test code then next { place with position } else none
    | none => none

def ofCondition (test : Nat → Bool) : Step :=
  fun place next => if test place.position then next place else none

/-- The first of two results, the second if there is no first. -/
def orElse (first : Option Place) (second : Unit → Option Place) : Option Place :=
  match first with
  | some place => some place
  | none => second ()

/-- The place, where groups have forgotten what they matched. -/
def forget (firstGroup groupsEnd : Nat) (place : Place) : Place :=
  { place with
    groups := (List.range' firstGroup (groupsEnd - firstGroup)).foldl
      (fun groups number => groups.setIfInBounds number none) place.groups }

/-- Repeats a step. The number bounds the repetitions. -/
def repeated (one : Step) (forgetting : Place → Place) (greedy : Bool) :
    Nat → Nat → Option Nat → Step
  | 0, _, _ => fun _ _ => none
  | bound + 1, least, most => fun place next =>
    if most = some 0 then next place
    else
      let more := fun (_ : Unit) =>
        one (forgetting place) fun later =>
          if least = 0 && later.position = place.position then none
          else
            repeated one forgetting greedy bound (least - 1) (most.map (· - 1)) later next
      if 0 < least then more ()
      else if greedy then orElse (more ()) fun _ => next place
      else orElse (next place) more

/-- Matches what a group has matched once more. A group without a match is empty. -/
def again (subject : Subject) (forward : Bool) (number : Nat) : Step :=
  fun place next =>
    match (place.groups[number]?).getD none with
    | none => next place
    | some (start, stop) =>
      let length := stop - start
      if forward then
        if subject.repeats start place.position length then
          next { place with position := place.position + length }
        else none
      else if length ≤ place.position &&
          subject.repeats start (place.position - length) length then
        next { place with position := place.position - length }
      else none

end Step

def step (subject : Subject) (forward : Bool) : Regex → Step
  | .empty => fun place next => next place
  | .one code =>
    Step.ofTest subject forward fun other => subject.canonical other = subject.canonical code
  | .any =>
    Step.ofTest subject forward fun code => subject.flags.dotAll || !Subject.isLineEnd code
  | .set negated items => Step.ofTest subject forward (subject.inSet negated items)
  | .lineStart => Step.ofCondition subject.isLineStart
  | .lineEnd => Step.ofCondition subject.endsLine
  | .wordEdge negated => Step.ofCondition fun position => subject.isWordEdge position != negated
  | .group number body => fun place next =>
    step subject forward body place fun later =>
      let span := if forward then (place.position, later.position)
        else (later.position, place.position)
      next { later with groups := later.groups.setIfInBounds number (some span) }
  | .again number => Step.again subject forward number
  | .sequence first second => fun place next =>
    if forward then
      step subject forward first place fun later => step subject forward second later next
    else step subject forward second place fun later => step subject forward first later next
  | .either first second => fun place next =>
    Step.orElse (step subject forward first place next) fun _ =>
      step subject forward second place next
  | .times body least most greedy firstGroup groupsEnd =>
    Step.repeated (step subject forward body) (Step.forget firstGroup groupsEnd) greedy
      (least + subject.units.size + 2) least most
  | .look ahead negated body => fun place next =>
    match step subject ahead body place some with
    | some later =>
      if negated then none else next { later with position := place.position }
    | none => if negated then next place else none

/-- What a rule matches at a position of a text: the whole, which is group zero, and its
groups. -/
def Rule.matchAt? (rule : Rule) (units : Array UInt16) (position : Nat) :
    Option (Array (Option (Nat × Nat))) :=
  let subject : Subject := ⟨units, rule.flags⟩
  let start : Place := ⟨position, Array.replicate (rule.groups + 1) none⟩
  (step subject true rule.body start some).map fun place =>
    place.groups.setIfInBounds 0 (some (position, place.position))

/-- What a rule matches first, from a position of a text on. -/
def Rule.search? (rule : Rule) (units : Array UInt16) (start : Nat) :
    Option (Array (Option (Nat × Nat))) :=
  (List.range' start (units.size + 1 - start)).findSome? fun position =>
    rule.matchAt? units position

end PageWatch.Regex
