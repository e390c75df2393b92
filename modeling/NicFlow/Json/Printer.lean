import NicFlow.Json.Basic
import NicFlow.Number.Shortest
import NicFlow.Text.Quoted

/-! The compact text of a JSON value. -/

namespace NicFlow

def Number.render : Number → String
  | .integer value => toString value
  | .double value => value.render

namespace Json

mutual

def render : Json → String
  | .null => "null"
  | .bool true => "true"
  | .bool false => "false"
  | .number value => value.render
  | .string value => Text.jsonQuoted value
  | .array elements => "[" ++ ",".intercalate (renderElements elements) ++ "]"
  | .object fields => "\x7b" ++ ",".intercalate (renderFields fields) ++ "\x7d"

def renderElements : List Json → List String
  | [] => []
  | element :: rest => element.render :: renderElements rest

def renderFields : List (String × Json) → List String
  | [] => []
  | (key, value) :: rest => (Text.jsonQuoted key ++ ":" ++ value.render) :: renderFields rest

end

end Json

end NicFlow
