import PageWatch.Text.Units

/-!
# Regular expressions

The structure of regular expressions as scripts write them: characters, sets of
characters, groups that remember what they matched, repetitions, and looks ahead and
behind.
-/

namespace PageWatch

open Text

namespace Regex

/-- An item of a set of characters. -/
inductive Item where
  | range (first last : Nat)
  | digit (negated : Bool)
  | space (negated : Bool)
  | word (negated : Bool)
  deriving DecidableEq, Repr, Inhabited

/-- The switches of a regular expression. -/
structure Flags where
  /-- Whether a match tells where its groups are. -/
  indices : Bool := false
  /-- Whether a search begins where the last one ended. -/
  global : Bool := false
  ignoreCase : Bool := false
  /-- Whether lines within the text have a beginning and an end. -/
  multiline : Bool := false
  /-- Whether a dot stands for line ends too. -/
  dotAll : Bool := false
  /-- Whether pairs of surrogates count as one character. -/
  unicode : Bool := false
  /-- Whether a match must begin where the last one ended. -/
  sticky : Bool := false
  deriving DecidableEq, Repr, Inhabited

namespace Flags

/-- The flags with one more, which must not be there yet. -/
def add? (flags : Flags) : Char → Option Flags
  | 'd' => if flags.indices then none else some { flags with indices := true }
  | 'g' => if flags.global then none else some { flags with global := true }
  | 'i' => if flags.ignoreCase then none else some { flags with ignoreCase := true }
  | 'm' => if flags.multiline then none else some { flags with multiline := true }
  | 's' => if flags.dotAll then none else some { flags with dotAll := true }
  | 'u' => if flags.unicode then none else some { flags with unicode := true }
  | 'y' => if flags.sticky then none else some { flags with sticky := true }
  | _ => none

def read? (text : List Char) : Option Flags := text.foldlM add? {}

end Flags

end Regex

/-- A regular expression. -/
inductive Regex where
  | empty
  | one (code : Nat)
  /-- Any character, except a line's end unless the flags say otherwise. -/
  | any
  | set (negated : Bool) (items : List Regex.Item)
  | lineStart
  | lineEnd
  /-- A place where a word begins or ends. -/
  | wordEdge (negated : Bool)
  /-- A part whose match is remembered under a number. -/
  | group (number : Nat) (body : Regex)
  /-- What a group has matched, once more. -/
  | again (number : Nat)
  | sequence (first second : Regex)
  | either (first second : Regex)
  /-- A part several times, as often as possible or as seldom. The groups from one number
  up to another are in the part, and forget what they matched each time. -/
  | times (body : Regex) (least : Nat) (most : Option Nat) (greedy : Bool)
      (firstGroup groupsEnd : Nat)
  /-- Whether a part matches here, forwards or backwards, without going there. -/
  | look (ahead negated : Bool) (body : Regex)
  deriving Repr, Inhabited

/-- A regular expression that can be searched for. -/
structure Regex.Rule where
  body : Regex
  /-- The number of groups. -/
  groups : Nat
  /-- The groups that have names. -/
  names : List (String × Nat)
  flags : Flags
  deriving Repr, Inhabited

end PageWatch
