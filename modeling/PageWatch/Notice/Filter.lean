import PageWatch.Notice

/-!
# Which notices are shown

A filter is a list of directives, separated by commas. A directive is a level, a topic,
or a topic with its own level; a topic by itself shows everything. Of the directives
whose topic begins the topic of a notice, the longest one decides.
-/

namespace PageWatch.Notice

/-- How much is shown: nothing at `0`, then errors, warnings, information, details and
traces, each with all before it. -/
abbrev Threshold := Nat

/-- The threshold from which on notices of a level are shown. -/
def threshold : Level → Threshold
  | .warn => 2
  | .info => 3
  | .debug => 4

def everything : Threshold := 5

/-- The thresholds by name. Letters may be of either case. -/
def thresholdNames : List (String × Threshold) :=
  [("off", 0), ("error", 1), ("warn", 2), ("info", 3), ("debug", 4), ("trace", 5)]

/-- The threshold that a text stands for, by name or by number. -/
def threshold? (text : String) : Option Threshold :=
  let lower := String.ofList (text.toList.map Char.toLower)
  match thresholdNames.lookup lower with
  | some value => some value
  | none =>
    let digits := match text.toList with
      | '+' :: rest => rest
      | all => all
    if digits.isEmpty || !digits.all Char.isDigit then none
    else
      let value := Nat.ofDigitChars 10 digits 0
      if value ≤ everything then some value else none

/-- One directive of a filter. -/
structure Directive where
  /-- What the topics it decides about begin with. -/
  topic : String
  threshold : Threshold
  deriving DecidableEq, Repr, Inhabited

def beginsDirective (c : Char) : Bool :=
  c = '-' || c = ':' || c = '_' || c.isAlphanum || 127 < c.toNat

/-- Reads one directive. It is refused where its level is unknown or where it begins with
none of the characters of a topic. -/
def directive? (text : String) : Option Directive :=
  let chars := text.toList
  match chars with
  | [] => none
  | first :: _ =>
    if !beginsDirective first then none
    else
      let topic := String.ofList (chars.takeWhile (· ≠ '='))
      match chars.dropWhile (· ≠ '=') with
      | [] =>
        match threshold? topic with
        | some level => some ⟨"", level⟩
        | none => some ⟨topic, everything⟩
      | [_] => some ⟨topic, everything⟩
      | _ :: level => (threshold? (String.ofList level)).map fun level => ⟨topic, level⟩

/-- The directives of a filter. -/
abbrev Filter := List Directive

namespace Filter

/-- The filter that holds where none is given, or one that cannot be read. -/
def standard : Filter := [⟨"", 3⟩]

/-- The filter of a text without directives: errors only. -/
def errorsOnly : Filter := [⟨"", 1⟩]

/-- The filter that a text is, if every directive can be read. -/
def read? (text : String) : Option Filter :=
  match (text.splitOn ",").filter (· ≠ "") with
  | [] => some errorsOnly
  | parts => parts.mapM directive?

/-- The filter for what the environment says about it. -/
def ofSetting (setting : Option String) : Filter :=
  (setting.bind read?).getD standard

/-- The directive that decides about a topic: the longest that begins it, of two of one
length the later. -/
def deciding? (filter : Filter) (topic : String) : Option Directive :=
  filter.foldl
    (fun best directive =>
      if directive.topic.toList.isPrefixOf topic.toList then
        match best with
        | none => some directive
        | some other =>
          if other.topic.length ≤ directive.topic.length then some directive else best
      else best)
    none

def shows (filter : Filter) (notice : Notice) : Bool :=
  match filter.deciding? notice.topic with
  | none => false
  | some directive => Notice.threshold notice.level ≤ directive.threshold

end Filter

/-- The name of a level, aligned to the right. -/
def levelLabel : Level → String
  | .debug => "DEBUG"
  | .info => " INFO"
  | .warn => " WARN"

/-- The spelling of a character in a log line. Characters that could steer a terminal are
spelt out. -/
def spell (c : Char) : List Char :=
  let code := c.toNat
  if code = 0x1b || code = 0x07 || code = 0x08 || code = 0x0c || code = 0x7f then
    let digits := Nat.toDigits 16 code
    ['\\', 'x'] ++ List.replicate (2 - digits.length) '0' ++ digits
  else if 0x80 ≤ code && code ≤ 0x9f then
    ['\\', 'u', '\x7b'] ++ Nat.toDigits 16 code ++ ['\x7d']
  else [c]

/-- A notice as it stands in the log. -/
def line (notice : Notice) : String :=
  levelLabel notice.level ++ " " ++
    String.ofList (notice.message.toList.flatMap spell) ++ "\n"

def log (filter : Filter) (notices : List Notice) : String :=
  String.join ((notices.filter filter.shows).map line)

end PageWatch.Notice
