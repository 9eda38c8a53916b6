import PageWatch.Json.Quoted

/-!
# What a query answers

A query for a selector answers the matching nodes in document order, or the reason
why it could not be answered.
-/

namespace PageWatch

/-- A node that a selector matched. Only form controls have a value. -/
structure Match where
  tag : String
  value : Option String
  deriving DecidableEq, Repr, Inhabited

namespace Match

/-- The node as a JSON object with the fields `tag` and `value`. -/
def toJson (node : Match) : String :=
  let value := match node.value with
    | none => "null"
    | some text => Json.quote text
  "\x7b\"tag\":" ++ Json.quote node.tag ++ ",\"value\":" ++ value ++ "\x7d"

def listToJson (nodes : List Match) : String :=
  "[" ++ String.intercalate "," (nodes.map toJson) ++ "]"

end Match

/-- Why a query has no answer. -/
inductive QueryError where
  /-- The selector is not one. -/
  | invalidSelector (selector reason : String)
  /-- The page did not answer. -/
  | page (text : String)
  deriving DecidableEq, Repr, Inhabited

def QueryError.message : QueryError → String
  | .invalidSelector selector reason => s!"invalid selector `{selector}`: {reason}"
  | .page text => s!"page query failed: {text}"

end PageWatch
