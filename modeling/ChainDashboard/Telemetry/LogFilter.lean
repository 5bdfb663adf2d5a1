import ChainDashboard.Telemetry.Pattern.Check

/-!
The grammar of log filters. A filter is a list of directives between commas; a directive names a
level, a target with an optional level, or a span in brackets with an optional field in braces. Only
whether a filter is valid matters here.
-/
namespace ChainDashboard.LogFilter

/-- Why a filter is not valid. -/
inductive Problem where
  | directive
  | level
  | field (problem : Pattern.Problem)
  deriving DecidableEq, Repr

/-- The report of a problem. -/
def Problem.message : Problem → String
  | .directive => "invalid filter directive"
  | .level =>
    "error parsing level filter: expected one of \"off\", \"error\", \"warn\", \"info\", " ++
      "\"debug\", \"trace\", or a number 0-5"
  | .field problem => "invalid field filter: " ++ problem.message

/-- Whether a text is a level: one of the names in any ASCII case, a number up to five, or empty. -/
def isLevel (cs : List Char) : Bool :=
  let lower := String.ofList (cs.map Char.toLower)
  ["", "off", "error", "warn", "info", "debug", "trace"].contains lower ||
    (Text.natural? 10 cs).any (· ≤ 5)

/-- Checks a field: a name, and behind an equals sign a value that is a number or a pattern. What
follows a second sign does not count. -/
def checkField (cs : List Char) : Except Problem Unit :=
  match cs.splitOn '=' with
  | _ :: value :: _ =>
    if Text.isDecimal value then .ok () else (Pattern.check value).mapError .field
  | _ => .ok ()

/-! ## Places in a directive -/

/-- Characters behind so many bytes. -/
def dropBytes (count : Nat) : List Char → List Char
  | [] => []
  | c :: rest => if count = 0 then c :: rest else dropBytes (count - c.utf8Size) rest

/-- Characters that take up so many bytes. -/
def takeBytes (count : Nat) : List Char → List Char
  | [] => []
  | c :: rest => if count = 0 then [] else c :: takeBytes (count - c.utf8Size) rest

/-- Where in a directive a scan is. Texts start at a number of bytes. -/
inductive State where
  | start
  | levelOrTarget
  | span
  | field (first : Nat)
  | fields
  | target
  | level (first : Nat)
  deriving DecidableEq, Repr

/-- Whether a directive may start with a character, brackets aside. -/
def startsDirective (c : Char) : Bool := Text.isAlphanumeric c || c = '-' || c = ':' || c = '_'

/-- The scan of a directive after a character, given the number of bytes before the character. -/
def State.step (d : List Char) (index : Nat) (c : Char) : State → Except Problem State
  | .start =>
    if c = '[' then .ok .span
    else if startsDirective c then .ok .levelOrTarget
    else .error .directive
  | .levelOrTarget =>
    if c = '=' then .ok (.level (index + 1))
    else if c = '[' then .ok .span
    else .ok .levelOrTarget
  | .span =>
    if c = ']' then .ok .target
    else if c = '\x7b' then .ok (.field (index + 1))
    else .ok .span
  | .field first =>
    if c = '\x7d' then
      if index = first then .error .directive
      else (checkField (takeBytes (index - first) (dropBytes first d))).map fun () => .fields
    else .ok (.field first)
  | .fields => if c = ']' then .ok .target else .error .directive
  | .target => if c = '=' then .ok (.level (index + 1)) else .error .directive
  | .level first => .ok (.level first)

/-- Checks what is left of a directive, given the number of bytes before it. -/
def checkFrom (d : List Char) (index : Nat) (state : State) : List Char → Except Problem Unit
  | [] =>
    match state with
    | .levelOrTarget | .target => .ok ()
    | .level first => if isLevel (dropBytes first d) then .ok () else .error .level
    | _ => .error .directive
  | c :: rest =>
    match state.step d index c with
    | .ok state => checkFrom d (index + c.utf8Size) state rest
    | .error problem => .error problem

/-- Checks one directive. White space around it is not scanned but keeps its place in the texts of
field and level, so that a level has to stand without white space around the directive. -/
def checkDirective (d : List Char) : Except Problem Unit :=
  checkFrom d 0 .start (Text.trimChars d)

/-- Checks a filter: the first directive that is not valid makes the filter invalid. Empty
directives count for nothing. -/
def check (filter : String) : Except Problem Unit :=
  ((filter.toList.splitOn ',').filter (· ≠ [])).forM checkDirective

end ChainDashboard.LogFilter
