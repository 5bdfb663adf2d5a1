import ChainDashboard.Text.Number

/-!
JSON values as response bodies carry them. There are no numbers: everything the dashboard reports
is text, absent, or a structure of these.
-/
namespace ChainDashboard

/-- A value of a response's body. -/
inductive Json where
  | null
  | string (text : String)
  | array (items : List Json)
  | object (members : List (String × Json))
  deriving Inhabited

namespace Json

/-- A text or its absence. -/
def ofOption : Option String → Json
  | some s => .string s
  | none => .null

/-- A character inside a JSON string. -/
def escape (c : Char) : String :=
  if c = '"' then "\\\""
  else if c = '\\' then "\\\\"
  else if c = '\n' then "\\n"
  else if c = '\r' then "\\r"
  else if c = '\t' then "\\t"
  else if c = '\x08' then "\\b"
  else if c = '\x0c' then "\\f"
  else if c.toNat < 0x20 then "\\u" ++ Text.hexText c.toNat 4
  else c.toString

/-- A JSON string with its quotes. -/
def renderString (s : String) : String :=
  "\"" ++ String.join (s.toList.map escape) ++ "\""

mutual

/-- The text of a value, without any white space between its parts. -/
def render : Json → String
  | .null => "null"
  | .string s => renderString s
  | .array items => "[" ++ String.intercalate "," (renderItems items) ++ "]"
  | .object members => "\x7b" ++ String.intercalate "," (renderMembers members) ++ "\x7d"

/-- The texts of an array's items. -/
def renderItems : List Json → List String
  | [] => []
  | v :: rest => render v :: renderItems rest

/-- The texts of an object's members. -/
def renderMembers : List (String × Json) → List String
  | [] => []
  | (name, v) :: rest => (renderString name ++ ":" ++ render v) :: renderMembers rest

end

end Json

end ChainDashboard
