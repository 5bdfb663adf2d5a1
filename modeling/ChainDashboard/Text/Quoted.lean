import ChainDashboard.Text.Number
import ChainDashboard.Text.Unprintable

/-!
Texts and characters as diagnostics quote them. A quoted text is one line of visible characters:
the quote and the backslash are escaped, and a character that would not show is written by its
short escape or by its code point.
-/
namespace ChainDashboard.Text

/-- A character inside quotes made of `quote`. -/
def escapeInside (quote c : Char) : String :=
  if c = '\x00' then "\\0"
  else if c = '\t' then "\\t"
  else if c = '\r' then "\\r"
  else if c = '\n' then "\\n"
  else if c = '\\' then "\\\\"
  else if c = quote then "\\" ++ quote.toString
  else if isUnprintable c then "\\u\x7b" ++ hexText c.toNat 1 ++ "\x7d"
  else c.toString

/-- A text in double quotes. -/
def quoted (s : String) : String :=
  "\"" ++ String.join (s.toList.map (escapeInside '"')) ++ "\""

/-- A character in single quotes. -/
def quotedChar (c : Char) : String := "'" ++ escapeInside '\x27' c ++ "'"

/-- A character that may be missing, as in a list of expected characters. -/
def quotedChar? : Option Char → String
  | some c => "Some(" ++ quotedChar c ++ ")"
  | none => "None"

/-- A list in brackets, its items separated by commas. -/
def bracketed (items : List String) : String := "[" ++ String.intercalate ", " items ++ "]"

end ChainDashboard.Text
