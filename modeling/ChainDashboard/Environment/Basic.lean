import ChainDashboard.NameMap
import ChainDashboard.Text.Trim
import ChainDashboard.Text.Utf8

/-!
The environment of the process. A variable holds bytes, and most readers only care about variables
that hold text.
-/
namespace ChainDashboard

/-- The value of a variable. -/
inductive Variable where
  | text (value : String)
  | undecodable (bytes : ByteArray)
  deriving DecidableEq

/-- The variable that holds the given bytes. -/
def Variable.ofBytes (bytes : ByteArray) : Variable :=
  match String.fromUTF8? bytes with
  | some value => .text value
  | none => .undecodable bytes

/-- The variables that are set. -/
abbrev Environment := NameMap Variable

namespace Environment

/-- The variable that an assignment sets, if it has an equals sign behind a name that is text. -/
def assigned? (assignment : List UInt8) : Option (String × Variable) := do
  let (name, rest) := assignment.span (· ≠ 0x3D)
  let value ← rest.tail?
  guard (name ≠ [])
  return (← String.fromUTF8? ⟨name.toArray⟩, .ofBytes ⟨value.toArray⟩)

/-- The environment that assignments make. Of two that set one variable the first stands. -/
def ofAssignments (assignments : List (List UInt8)) : Environment :=
  NameMap.ofList (assignments.filterMap assigned?).reverse

/-- The environment as the system hands it over: assignments, each with a zero byte at its end. -/
def ofBlock (block : ByteArray) : Environment := ofAssignments (block.data.toList.splitOn 0)

/-- The text that a variable holds. A variable that holds no text counts as not set. -/
def held? (env : Environment) (name : String) : Option String :=
  match env.find? name with
  | some (.text value) => some value
  | _ => none

/-- What follows a name and an equals sign at the front of a text. -/
def behind? (name value : List Char) : Option (List Char) :=
  if (name ++ ['=']).isPrefixOf value then some (value.drop (name.length + 1)) else none

/-- The text that a name leads to. Variables are found by the front of their assignment, so a name
with an equals sign in it leads into the text of the variable that is named before the sign. -/
def text? (env : Environment) (name : String) : Option String :=
  match name.toList.dropWhile (· ≠ '=') with
  | [] => env.held? name
  | _ :: rest =>
    (env.held? (String.ofList (name.toList.takeWhile (· ≠ '=')))).bind fun value =>
      (behind? rest value.toList).map String.ofList

/-- The trimmed text of a variable; a blank one counts as not set. -/
def nonBlank? (env : Environment) (name : String) : Option String :=
  (env.text? name).bind Text.nonBlank?

/-- Whether a variable is set to a text already or can be set to this one. No variable can hold a
zero character. -/
def takesDefault (env : Environment) (name value : String) : Bool :=
  (env.held? name).isSome || !value.toList.contains '\x00'

/-- Sets a variable to a text unless it is set to a text already. -/
def setDefault (env : Environment) (name value : String) : Environment :=
  if (env.held? name).isSome then env else env.insert name (.text value)

theorem held?_setDefault (env : Environment) (name other value : String) :
    (env.setDefault name value).held? other =
      if other = name then some ((env.held? name).getD value) else env.held? other := by
  unfold setDefault
  split
  · rename_i held
    obtain ⟨old, h⟩ := Option.isSome_iff_exists.mp held
    by_cases e : other = name <;> simp [e, h]
  · rename_i free
    have h : env.held? name = none := by simpa using free
    by_cases e : other = name
    · subst e
      rw [h]
      simp [held?, NameMap.find?_insert]
    · simp [held?, NameMap.find?_insert, e]

theorem dropWhile_ne_of_notMem {cs : List Char} (h : '=' ∉ cs) :
    cs.dropWhile (· ≠ '=') = [] := by
  induction cs with
  | nil => rfl
  | cons c rest ih =>
    obtain ⟨hc, hrest⟩ := not_or.mp (mt List.mem_cons.mpr h)
    rw [List.dropWhile_cons, if_pos (by simpa using Ne.symm hc), ih hrest]

/-- A name without an equals sign leads to the variable of that name. -/
theorem text?_eq_held? (env : Environment) {name : String} (h : '=' ∉ name.toList) :
    env.text? name = env.held? name := by
  simp only [text?, dropWhile_ne_of_notMem h]

end Environment

end ChainDashboard
