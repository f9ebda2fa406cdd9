/-
Writing JSON text.

All characters outside printable ASCII are written as escapes, those above U+FFFF as a
surrogate pair.  The layout is a record: what stands between a name and its value and
between two items, and whether every item has a line of its own.
-/
import RetrievalTelemetry.Json.Value

namespace RetrievalTelemetry.Json

/-- How the parts of a value are set. -/
structure Layout where
  /-- Between a name and its value. -/
  colon : String
  /-- Between two items on one line. -/
  comma : String
  /-- The indentation of one level; without one, all stands on one line. -/
  indent : Option Nat

/-- No space at all. -/
def Layout.compact : Layout := ⟨":", ",", none⟩

/-- One line for each item, indented by two spaces. -/
def Layout.lines : Layout := ⟨": ", ",", some 2⟩

/-- One character inside a string. -/
def escapedChar (c : Char) : String :=
  if c = '\x22' then "\\\x22"
  else if c = '\\' then "\\\\"
  else if c = '\n' then "\\n"
  else if c = '\r' then "\\r"
  else if c = '\t' then "\\t"
  else if c = '\x08' then "\\b"
  else if c = '\x0C' then "\\f"
  else if 0x20 ≤ c.toNat && c.toNat ≤ 0x7E then String.singleton c
  else if c.toNat < 0x10000 then "\\u" ++ Text.hexText 4 c.toNat
  else
    let rest := c.toNat - 0x10000
    "\\u" ++ Text.hexText 4 (0xD800 + rest / 0x400) ++ "\\u" ++ Text.hexText 4 (0xDC00 + rest % 0x400)

/-- A string between quotes. -/
def renderString (s : String) : String :=
  "\x22" ++ String.join (s.toList.map escapedChar) ++ "\x22"

/-- The line break before an item at a level, if items have lines of their own. -/
def Layout.newline (layout : Layout) (level : Nat) : String :=
  match layout.indent with
  | none => ""
  | some width => "\n" ++ String.ofList (List.replicate (width * level) ' ')

/-- The parts of an array or object between its brackets. -/
def Layout.wrap (layout : Layout) (level : Nat) (left right : String) (parts : List String) : String :=
  if parts.isEmpty then left ++ right
  else
    left ++ layout.newline (level + 1) ++
      String.intercalate (layout.comma ++ layout.newline (level + 1)) parts ++
      layout.newline level ++ right

mutual

/-- The text of a value that stands at a level of indentation. -/
def renderAt (layout : Layout) (level : Nat) : Json → String
  | null => "null"
  | bool value => if value then "true" else "false"
  | number value => value.render .json
  | string value => renderString value
  | array items => layout.wrap level "[" "]" (renderItems layout (level + 1) items)
  | object fields => layout.wrap level "\x7b" "\x7d" (renderFields layout (level + 1) fields)

/-- The texts of the items of an array. -/
def renderItems (layout : Layout) (level : Nat) : List Json → List String
  | [] => []
  | item :: rest => item.renderAt layout level :: renderItems layout level rest

/-- The texts of the fields of an object. -/
def renderFields (layout : Layout) (level : Nat) : List (String × Json) → List String
  | [] => []
  | (name, value) :: rest =>
    (renderString name ++ layout.colon ++ value.renderAt layout level) :: renderFields layout level rest

end

def render (layout : Layout) (json : Json) : String := json.renderAt layout 0

end RetrievalTelemetry.Json
