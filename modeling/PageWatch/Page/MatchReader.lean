import PageWatch.Json.Reader
import PageWatch.Page.Match

/-!
# Reading matched nodes

The list of nodes that a live page answers, as a JSON array of objects or of pairs.
-/

namespace PageWatch.Match

open Json

/-- The fields of a node read so far. -/
structure Given where
  tag : Option String := none
  value : Option (Option String) := none
  deriving DecidableEq, Repr, Inhabited

def Given.member (key : String) (given : Given) : Reader Given :=
  if key = "tag" then
    if given.tag.isSome then Reader.failUnplaced (.duplicateField key)
    else do
      Reader.colon
      return { given with tag := some (← Reader.text) }
  else if key = "value" then
    if given.value.isSome then Reader.failUnplaced (.duplicateField key)
    else do
      Reader.colon
      return { given with value := some (← Reader.textOrNull) }
  else do
    Reader.colon
    Reader.skipValue
    return given

/-- A node needs a tag; without a value it has none. -/
def Given.finish (given : Given) : Reader Match :=
  match given.tag with
  | none => Reader.failUnplaced (.missingField "tag")
  | some tag => return ⟨tag, given.value.getD none⟩

/-- What a node written as an array has to be. -/
def pairExpected : String := "struct NodeMatch with 2 elements"

/-- Reads a node that is written as a pair. -/
def inOrder : Reader Match := do
  let more ← Reader.moreItems true
  if !more then Reader.failUnplaced (.wrongLength 0 pairExpected)
  else
    let tag ← Reader.text
    let more ← Reader.moreItems false
    if !more then Reader.failUnplaced (.wrongLength 1 pairExpected)
    else return ⟨tag, ← Reader.textOrNull⟩

def reader : Reader Match :=
  Reader.record "struct NodeMatch" ({} : Given) Given.member Given.finish inOrder

/-- Reads a list of nodes that makes up a whole text. -/
def listOfJson (text : String) : Except Failure (List Match) :=
  Reader.whole (Reader.list reader) text

end PageWatch.Match
