import ChainDashboard.Text.Trim

/-!
Yes-or-no settings as they are written in documents and queries.
-/
namespace ChainDashboard.Flag

/-- A setting is on if it reads `true`, `yes` or `y`, in any mix of ASCII cases and with any white
space around it. Every other text means off. -/
def read (s : String) : Bool :=
  ["true", "yes", "y"].contains (String.ofList ((Text.trim s).toList.map Char.toLower))

/-- The text that a setting is stored as. -/
def text (on : Bool) : String := if on then "true" else "false"

@[simp] theorem read_text (on : Bool) : read (text on) = on := by
  cases on <;> decide

end ChainDashboard.Flag
