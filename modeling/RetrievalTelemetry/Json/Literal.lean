/-
Values as literals, for people to read in a line of text.

Texts stand in quotes, lists in brackets and objects in braces; the three words begin with a
capital letter.
-/
import RetrievalTelemetry.Json.Value
import RetrievalTelemetry.Text.Quoted

namespace RetrievalTelemetry.Json

mutual

def literal : Json → String
  | null => "None"
  | bool value => if value then "True" else "False"
  | number value => value.render .plain
  | string value => Text.quoted value
  | array items => "[" ++ String.intercalate ", " (literalItems items) ++ "]"
  | object fields => "\x7b" ++ String.intercalate ", " (literalFields fields) ++ "\x7d"

def literalItems : List Json → List String
  | [] => []
  | item :: rest => item.literal :: literalItems rest

/-- The literals of the fields of an object. -/
def literalFields : List (String × Json) → List String
  | [] => []
  | (name, value) :: rest => (Text.quoted name ++ ": " ++ value.literal) :: literalFields rest

end

/-- A value in running text: a text as it is, anything else as a literal. -/
def display : Json → String
  | string value => value
  | other => other.literal

end RetrievalTelemetry.Json
