/-!
# Files

What a program finds at a path, and what it finds when it opens that path: the bytes of a
file, or the system's reason why there are none.
-/

namespace PageWatch

/-- Why a path cannot be read as a text. -/
inductive ReadFault where
  | missing
  | directory
  | forbidden
  | notDirectory
  | notText
  /-- Any other reason, in the system's words. -/
  | other (reason : String)
  deriving DecidableEq, Repr, Inhabited

/-- The system's wording. -/
def ReadFault.message : ReadFault → String
  | .missing => "No such file or directory (os error 2)"
  | .directory => "Is a directory (os error 21)"
  | .forbidden => "Permission denied (os error 13)"
  | .notDirectory => "Not a directory (os error 20)"
  | .notText => "stream did not contain valid UTF-8"
  | .other reason => reason

/-- What opening a path yields. -/
abbrev FileContent := Except ReadFault ByteArray

def FileContent.text (content : FileContent) : Except ReadFault String := do
  let bytes ← content
  match String.fromUTF8? bytes with
  | some text => return text
  | none => throw .notText

/-- What a path leads to. -/
inductive Entry where
  | file (bytes : ByteArray) (executable : Bool)
  | directory
  | absent (fault : ReadFault)
  deriving Inhabited

namespace Entry

/-- What opening the path yields. -/
def content : Entry → FileContent
  | file bytes _ => .ok bytes
  | directory => .error .directory
  | absent fault => .error fault

/-- Whether the path leads anywhere. -/
def isPresent : Entry → Bool
  | absent _ => false
  | _ => true

/-- Whether the path leads to a program. -/
def isProgram : Entry → Bool
  | file _ executable => executable
  | _ => false

end Entry

end PageWatch
