import PageWatch.Markup.Reference

/-!
# Tokens of markup

A page's source is a sequence of tags, comments, document types and texts. Every
source is one: what is no tag is text or a comment that nobody wrote on purpose.
Which tokens a source begins with depends on how it is being read, since inside a
script or a title a `<` opens no tag.
-/

namespace PageWatch.Markup

/-- An attribute of a tag. `spaced` attributes belong to a name space of their own. -/
structure Attribute where
  name : String
  value : String
  spaced : Bool := false
  deriving DecidableEq, Repr, Inhabited

/-- An opening tag. No two attributes have one name. -/
structure Tag where
  name : String
  attributes : List Attribute
  selfClosing : Bool
  deriving DecidableEq, Repr, Inhabited

def Tag.attribute? (tag : Tag) (name : String) : Option String :=
  (tag.attributes.find? (·.name == name)).map (·.value)

/-- A piece of a page's source. -/
inductive Token where
  /-- A document type, which can ask for the layout of old pages. -/
  | doctype (old : Bool)
  | opening (tag : Tag)
  | closing (name : String)
  | text (content : List Char)
  /-- The character with number zero, which some places drop and others replace. -/
  | null
  | comment
  /-- The end of the source. -/
  | finish
  deriving Repr, Inhabited

/-- How a source is being read. -/
inductive Reading where
  /-- Tags, comments and texts. -/
  | markup
  /-- Text with references up to the closing tag. -/
  | title (closedBy : String)
  /-- Text without references up to the closing tag. -/
  | raw (closedBy : String)
  /-- A script, which may hold `</script>` within a comment. -/
  | script
  /-- Text up to the end of the source. -/
  | plain
  deriving DecidableEq, Repr, Inhabited

namespace Token

def isBlank (c : Char) : Bool :=
  c == '\t' || c == '\n' || c == '\x0c' || c == '\r' || c == ' '

/-- Every line of the source ends in a line feed. -/
def unifyLines : List Char → List Char
  | [] => []
  | '\r' :: '\n' :: rest => '\n' :: unifyLines rest
  | '\r' :: rest => '\n' :: unifyLines rest
  | c :: rest => c :: unifyLines rest

/-- The source without a mark of its byte order and with uniform lines. -/
def prepare (source : List Char) : List Char :=
  unifyLines <|
    match source with
    | '\ufeff' :: rest => rest
    | _ => source

/-- The text with every zero character replaced. -/
def replaceNull (text : List Char) : List Char :=
  text.map fun c => if c == '\x00' then Reference.replacement else c

/-- The lower-case name that the characters write. -/
def nameOf (text : List Char) : String :=
  String.ofList ((replaceNull text).map Char.toLower)

def splitAtFirst (stops : Char → Bool) (text : List Char) : List Char × List Char :=
  (text.takeWhile fun c => !stops c, text.dropWhile fun c => !stops c)

/-- What stands before and after the first `]]>`. -/
def splitSection : List Char → List Char × List Char
  | [] => ([], [])
  | ']' :: ']' :: '>' :: rest => ([], rest)
  | c :: rest =>
    let (before, after) := splitSection rest
    (c :: before, after)

/-- Whether the text begins with a word, in letters of either case. -/
def startsWith (word : String) (text : List Char) : Bool :=
  word.toList.isPrefixOf (text.map Char.toLower |>.take word.length)

/-- Whether the text begins with a whole tag name. -/
def startsWithName (name : String) (text : List Char) : Bool :=
  startsWith name text &&
    match text[name.length]? with
    | some c => isBlank c || c == '/' || c == '>'
    | none => false

/-! ## Tags -/

def addAttribute (attributes : List Attribute) (name value : List Char) : List Attribute :=
  let name := nameOf name
  if attributes.any (·.name == name) then attributes
  else
    let value := String.ofList (Reference.resolve true (replaceNull value))
    attributes ++ [⟨name, value, false⟩]

/-- Reads an attribute's value, after its equals sign. Nothing if the source ends. -/
def readValue (text : List Char) : Option (List Char × List Char) :=
  match text.dropWhile isBlank with
  | [] => none
  | quote :: rest =>
    if quote == '"' || quote == '\'' then
      match splitAtFirst (· == quote) rest with
      | (_, []) => none
      | (value, _ :: rest) => some (value, rest)
    else some (splitAtFirst (fun c => isBlank c || c == '>') (quote :: rest))

/-- Reads what follows a tag's name: its attributes, whether it closes itself, and the
rest of the source. A tag that the source's end cuts off is none. The first argument
bounds the number of steps; one more than the length of the text is enough. -/
def readAttributes (attributes : List Attribute) :
    Nat → List Char → Option (List Attribute × Bool × List Char)
  | 0, _ | _, [] => none
  | _ + 1, '>' :: rest => some (attributes, false, rest)
  | _ + 1, '/' :: '>' :: rest => some (attributes, true, rest)
  | steps + 1, '/' :: rest => readAttributes attributes steps rest
  | steps + 1, c :: rest =>
    if isBlank c then readAttributes attributes steps rest
    else
      let (name, rest) :=
        splitAtFirst (fun c => isBlank c || c == '/' || c == '>' || c == '=') rest
      match rest.dropWhile isBlank with
      | '=' :: rest =>
        match readValue rest with
        | none => none
        | some (value, rest) =>
          readAttributes (addAttribute attributes (c :: name) value) steps rest
      | rest => readAttributes (addAttribute attributes (c :: name) []) steps rest

def readTag (text : List Char) : Option (Tag × List Char) :=
  let (name, rest) := splitAtFirst (fun c => isBlank c || c == '/' || c == '>') text
  (readAttributes [] (rest.length + 1) rest).map fun (attributes, selfClosing, rest) =>
    (⟨nameOf name, attributes, selfClosing⟩, rest)

/-! ## Comments and document types -/

def afterCommentText : List Char → List Char
  | [] => []
  | '-' :: '-' :: '>' :: rest => rest
  | '-' :: '-' :: '!' :: '>' :: rest => rest
  | _ :: rest => afterCommentText rest

/-- What follows a comment, read from the end of its `<!--`. -/
def afterComment : List Char → List Char
  | '>' :: rest => rest
  | '-' :: '>' :: rest => rest
  | rest => afterCommentText rest

/-- What follows the next `>`. -/
def afterBracket (text : List Char) : List Char :=
  (text.dropWhile (· != '>')).drop 1

/-- The beginnings of the public identifiers, after their owner, of document types
whose pages were written for the layout of old browsers. -/
def oldTypes : List String :=
  ["dtd html 2.0 level 1//", "dtd html 2.0 level 2//", "dtd html 2.0 strict level 1//",
   "dtd html 2.0 strict level 2//", "dtd html 2.0 strict//", "dtd html 2.0//",
   "dtd html 2.1e//", "dtd html 3.0//", "dtd html 3.2 final//", "dtd html 3.2//",
   "dtd html 3//", "dtd html level 0//", "dtd html level 1//", "dtd html level 2//",
   "dtd html level 3//", "dtd html strict level 0//", "dtd html strict level 1//",
   "dtd html strict level 2//", "dtd html strict level 3//", "dtd html strict//",
   "dtd html//", "dtd html 3 1995-03-24//", "dtd html 3.2 draft//", "dtd html 3.2s draft//",
   "dtd html 4.0 frameset//", "dtd html 4.0 transitional//",
   "dtd html experimental 19960712//", "dtd html experimental 970421//",
   "dtd w3 html//", "dtd html 3.0 aswedit + extensions//"]

/-- The beginnings of those that count as old only without a system identifier. -/
def looselyOldTypes : List String :=
  ["dtd html 4.01 frameset//", "dtd html 4.01 transitional//"]

/-- Whether a document type asks for the layout of old pages. -/
def isOldType (name : List Char) (public? system? : Option (List Char)) : Bool :=
  let lower (text : List Char) : String := String.ofList (text.map Char.toLower)
  let owned :=
    match public? with
    | some ('-' :: '/' :: '/' :: rest) =>
      lower ((rest.dropWhile (· != '/')).drop 2)
    | some whole => lower whole
    | none => ""
  nameOf name != "html" || owned == "html" ||
    oldTypes.any (fun first => first.toList.isPrefixOf owned.toList) ||
    (system?.isNone && looselyOldTypes.any fun first => first.toList.isPrefixOf owned.toList)

/-- Reads a quoted identifier. The flag tells whether it is whole. -/
def readIdentifier : List Char → Option (List Char × Bool × List Char)
  | quote :: rest =>
    if quote == '"' || quote == '\'' then
      match splitAtFirst (fun c => c == quote || c == '>') rest with
      | (value, []) => some (value, false, [])
      | (value, stop :: rest) =>
        if stop == quote then some (value, true, rest) else some (value, false, '>' :: rest)
    else none
  | [] => none

/-- Reads a document type, after the word `doctype`. -/
def readDoctype (text : List Char) : Token × List Char :=
  let (name, rest) := splitAtFirst (fun c => isBlank c || c == '>') (text.dropWhile isBlank)
  let rest := rest.dropWhile isBlank
  let system (public? : Option (List Char)) (text : List Char) : Token × List Char :=
    let text := text.dropWhile isBlank
    match readIdentifier text with
    | some (value, whole, rest) =>
      (.doctype (!whole || isOldType name public? (some value)), afterBracket rest)
    | none =>
      match text with
      | '>' :: rest => (.doctype (public?.isNone || isOldType name public? none), rest)
      | _ => (.doctype true, afterBracket text)
  match rest with
  | [] => (.doctype true, [])
  | '>' :: rest => (.doctype (isOldType name none none), rest)
  | _ =>
    if startsWith "public" rest then
      match readIdentifier ((rest.drop 6).dropWhile isBlank) with
      | some (value, true, rest) => system (some value) rest
      | some (_, false, rest) => (.doctype true, afterBracket rest)
      | none => (.doctype true, afterBracket rest)
    else if startsWith "system" rest then system none (rest.drop 6)
    else (.doctype true, afterBracket rest)

/-- Reads what follows `<!`. In foreign content a text can stand between `<![CDATA[`
and `]]>`. -/
def readDeclaration (foreign : Bool) (text : List Char) : Token × List Char :=
  match text with
  | '-' :: '-' :: rest => (.comment, afterComment rest)
  | _ =>
    if startsWith "doctype" text then readDoctype (text.drop 7)
    else if foreign && "[CDATA[".toList.isPrefixOf text then
      let (content, rest) := splitSection (text.drop 7)
      (.text (replaceNull content), rest)
    else (.comment, afterBracket text)

/-! ## Whole tokens -/

/-- Reads what follows `</`, or says that it is text. -/
def readClosing : List Char → Option (Token × List Char)
  | [] => none
  | '>' :: rest => some (.text [], rest)
  | c :: rest =>
    if c.isAlpha then
      match readTag (c :: rest) with
      | some (tag, rest) => some (.closing tag.name, rest)
      | none => some (.finish, [])
    else some (.comment, afterBracket (c :: rest))

/-- Reads what follows `<`, or says that it is text. -/
def readAngle (foreign : Bool) : List Char → Option (Token × List Char)
  | '!' :: rest => some (readDeclaration foreign rest)
  | '/' :: rest => readClosing rest
  | '?' :: rest => some (.comment, afterBracket rest)
  | c :: rest =>
    if c.isAlpha then
      match readTag (c :: rest) with
      | some (tag, rest) => some (.opening tag, rest)
      | none => some (.finish, [])
    else none
  | [] => none

/-- Splits a text before the closing tag of a name. -/
def splitAtClosing (name : String) : List Char → List Char × List Char
  | [] => ([], [])
  | c :: rest =>
    if c == '<' && rest.head? == some '/' && startsWithName name (rest.drop 1) then
      ([], c :: rest)
    else
      let (before, after) := splitAtClosing name rest
      (c :: before, after)

/-- Whether a script is inside a comment, and in a script inside that. -/
inductive ScriptDepth where
  | outside | comment | nested
  deriving DecidableEq, Repr, Inhabited

/-- The depth and the number of dashes just read, after one character more. -/
def ScriptDepth.step (depth : ScriptDepth) (dashes : Nat) (c : Char) (rest : List Char) :
    ScriptDepth × Nat :=
  if c == '-' then (depth, dashes + 1)
  else if c == '>' && 2 ≤ dashes then (.outside, 0)
  else if c != '<' then (depth, 0)
  else
    match depth with
    | .outside => (if "!--".toList.isPrefixOf rest then .comment else .outside, 0)
    | .comment => (if startsWithName "script" rest then .nested else .comment, 0)
    | .nested =>
      (if rest.head? == some '/' && startsWithName "script" (rest.drop 1) then .comment
       else .nested, 0)

/-- Splits a script before its closing tag. -/
def splitScript (depth : ScriptDepth) (dashes : Nat) : List Char → List Char × List Char
  | [] => ([], [])
  | c :: rest =>
    if depth != .nested && c == '<' && rest.head? == some '/' &&
        startsWithName "script" (rest.drop 1) then
      ([], c :: rest)
    else
      let (depth, dashes) := depth.step dashes c rest
      let (before, after) := splitScript depth dashes rest
      (c :: before, after)

/-- A text, unless it is empty and its closing tag comes first. -/
def textOrClosing (content rest : List Char) : Token × List Char :=
  if content.isEmpty then
    match readClosing (rest.drop 2) with
    | some (token, rest) => (token, rest)
    | none => (.finish, [])
  else (.text content, rest)

def read (reading : Reading) (foreign : Bool) (source : List Char) : Token × List Char :=
  match source with
  | [] => (.finish, [])
  | first :: others =>
    match reading with
    | .markup =>
      if first == '\x00' then (.null, others)
      else if first == '<' then
        (readAngle foreign others).getD (.text ['<'], others)
      else
        let (content, rest) := splitAtFirst (fun c => c == '<' || c == '\x00') source
        (.text (Reference.resolve false content), rest)
    | .title closedBy =>
      let (content, rest) := splitAtClosing closedBy source
      textOrClosing (Reference.resolve false (replaceNull content)) rest
    | .raw closedBy =>
      let (content, rest) := splitAtClosing closedBy source
      textOrClosing (replaceNull content) rest
    | .script =>
      let (content, rest) := splitScript .outside 0 source
      textOrClosing (replaceNull content) rest
    | .plain => (.text (replaceNull source), [])

end Token

end PageWatch.Markup
