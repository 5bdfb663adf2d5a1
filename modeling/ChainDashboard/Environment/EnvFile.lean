import ChainDashboard.Environment.Basic
import ChainDashboard.FileState
import ChainDashboard.Text.Alphanumeric
import ChainDashboard.Text.Quoted

/-!
The `.env` file, which gives defaults for variables. Its lines are gathered first, as a quoted value
may go over several of them, and then taken in order: each sets one variable unless the environment
has it already. The first line that is no assignment ends the loading; what was set before stays
set. Values may refer to variables, and what they are replaced by never decides whether a line is
an assignment. A value with a zero character that a variable would be set to ends not only the
loading but the process.
-/
namespace ChainDashboard.EnvFile

/-- Why loading ended early. -/
inductive Problem where
  /-- A text that is no assignment, and the index at which that shows. -/
  | line (text : String) (index : Nat)
  | notUtf8
  /-- The file cannot be looked for or not be read. -/
  | os (error : OsError)
  /-- The variable of this key cannot be set to this value. Setting it is a panic. -/
  | unsettable (key value : String)
  deriving DecidableEq, Repr

/-- The report of a problem. -/
def Problem.message : Problem → String
  | .line text index =>
    "Error parsing line: '" ++ text ++ "', error at line index: " ++ toString index
  | .notUtf8 => "stream did not contain valid UTF-8"
  | .os error => error.message
  | .unsettable key value =>
    "failed to set environment variable `" ++ Text.quoted key ++ "` to `" ++ Text.quoted value ++
      "`: " ++ OsError.zeroInName.message

/-! ## Gathering lines -/

/-- How far quotes and escapes are open at a place in a line. -/
inductive Openness where
  | complete | blank | escape | weak | weakEscape | strong | strongEscape
  deriving DecidableEq, Repr

/-- What opens outside quotes with a character other than white space. -/
def Openness.opening (c : Char) : Openness :=
  if c = '\\' then .escape else if c = '"' then .weak else if c = '\x27' then .strong else .complete

/-- The state after a character; `none` if a comment starts with it. -/
def Openness.step (c : Char) : Openness → Option Openness
  | .blank => if c = '#' then none else some (opening c)
  | .complete =>
    if Text.isBlank c && c ≠ '\n' && c ≠ '\r' then some .blank else some (opening c)
  | .escape => some .complete
  | .weak => some (if c = '\\' then .weakEscape else if c = '"' then .complete else .weak)
  | .weakEscape => some .weak
  | .strong =>
    some (if c = '\\' then .strongEscape else if c = '\x27' then .complete else .strong)
  | .strongEscape => some .strong

/-- What a line leads to: the state at its end, or the part of it before a comment. -/
inductive LineEnd where
  | opens (state : Openness)
  | comment (before : List Char)

/-- Goes through a line, `passed` being what lies behind in reverse. -/
def scanLine (state : Openness) (passed : List Char) : List Char → LineEnd
  | [] => .opens state
  | c :: rest =>
    match state.step c with
    | none => .comment passed.reverse
    | some state => scanLine state (c :: passed) rest

/-- Characters without the line break at their end. -/
def dropLineBreak (cs : List Char) : List Char :=
  match cs.reverse with
  | '\n' :: '\r' :: rest => rest.reverse
  | '\n' :: rest => rest.reverse
  | _ => cs

/-- Cuts bytes into lines, each with its line break. -/
def physicalLines (bytes : List UInt8) : List (List UInt8) :=
  go [] bytes
where
  go (passed : List UInt8) : List UInt8 → List (List UInt8)
    | [] => if passed = [] then [] else [passed.reverse]
    | b :: rest =>
      if b = 0x0A then (b :: passed).reverse :: go [] rest else go (b :: passed) rest

/-- The text of a line. -/
def decode (line : List UInt8) : Option (List Char) :=
  (String.fromUTF8? ⟨line.toArray⟩).map String.toList

/-- Gathers lines that belong together. `held` is what was gathered so far and is still open. Lines
that are comments as a whole are left empty. -/
def gather (held : List Char) (state : Openness) :
    List (List UInt8) → List (Except Problem (List Char))
  | [] =>
    if state = .complete then []
    else [.error (.line (String.ofList held) (String.ofList held).utf8ByteSize)]
  | line :: rest =>
    match decode line with
    | none => [.error .notUtf8]
    | some cs =>
      let gathered := held ++ cs
      if (Text.trimStart gathered).head? = some '#' then .ok [] :: gather [] .complete rest
      else
        match scanLine state [] cs with
        | .comment before => .ok (held ++ before) :: gather [] .complete rest
        | .opens .complete => .ok (dropLineBreak gathered) :: gather [] .complete rest
        | .opens state => gather gathered state rest

/-- The lines of a file, without the mark that may stand at its start. -/
def lines (content : ByteArray) : List (Except Problem (List Char)) :=
  let bytes := content.data.toList
  let unmarked := if bytes.take 3 = [0xEF, 0xBB, 0xBF] then bytes.drop 3 else bytes
  gather [] .complete (physicalLines unmarked)

/-! ## Values -/

/-- What a name stands for inside a value: the variable, or else an earlier value of the file. -/
abbrev Meaning := String → String

/-- Where in a value a scan is, quotes aside. -/
inductive Mode where
  /-- Between special characters. -/
  | plain
  /-- Behind a backslash. -/
  | escaped
  /-- Inside single quotes. -/
  | strong
  /-- In a name behind a dollar sign, given in reverse. -/
  | name (passed : List Char)
  /-- In a name between braces, given in reverse. -/
  | braced (passed : List Char)
  /-- Behind the value. -/
  | ended
  deriving DecidableEq, Repr

/-- A scan of a value: where it is, whether double quotes are open, and the value so far. -/
structure Scan where
  mode : Mode
  weak : Bool
  value : String

namespace Scan

/-- The start of a value. -/
def start : Scan := ⟨.plain, false, ""⟩

/-- Appends a character to the value. -/
def push (c : Char) (s : Scan) : Scan := { s with mode := .plain, value := s.value.push c }

/-- Appends what a name stands for. -/
def substitute (meaning : Meaning) (passed : List Char) (s : Scan) : Scan :=
  { s with mode := .plain, value := s.value ++ meaning (String.ofList passed.reverse) }

/-- The scan after a character between special ones. -/
def plain (c : Char) (s : Scan) : Scan :=
  if c = '$' then { s with mode := .name [] }
  else if c = '"' then { s with weak := !s.weak }
  else if c = '\\' then { s with mode := .escaped }
  else if s.weak then s.push c
  else if c = '\x27' then { s with mode := .strong }
  else if c = ' ' || c = '\t' then { s with mode := .ended }
  else s.push c

/-- The scan after a character; `none` if the character cannot stand there. A name behind a dollar
sign ends with the first character that cannot be part of it, and that character stands for
itself. -/
def step (meaning : Meaning) (c : Char) (s : Scan) : Option Scan :=
  match s.mode with
  | .plain => some (s.plain c)
  | .escaped =>
    if c = 'n' then some (s.push '\n')
    else if ['\\', '\x27', '"', '$', ' '].contains c then some (s.push c)
    else none
  | .strong =>
    if c = '\x27' then some { s with mode := .plain }
    else some { s.push c with mode := .strong }
  | .name passed =>
    if Text.isAlphanumeric c then some { s with mode := .name (c :: passed) }
    else if c = '\x7b' && passed.isEmpty then some { s with mode := .braced [] }
    else if c = '$' then some { s.substitute meaning passed with mode := .name [] }
    else some ((s.substitute meaning passed).push c)
  | .braced passed =>
    if c = '\x7d' then some (s.substitute meaning passed)
    else some { s with mode := .braced (c :: passed) }
  | .ended => if c = ' ' || c = '\t' then some s else none

/-- The value at the end of its text; `none` if quotes or braces are open. -/
def finish (meaning : Meaning) (s : Scan) : Option String :=
  if s.weak then none
  else
    match s.mode with
    | .strong | .braced _ => none
    | .name passed => some (s.substitute meaning passed).value
    | _ => some s.value

end Scan

/-- Scans what is left of a value; `index` counts the characters before it. A comment may follow
the value. -/
def scanValue (meaning : Meaning) (input : String) (index : Nat) (s : Scan) :
    List Char → Except Problem String
  | [] =>
    match s.finish meaning with
    | some value => .ok value
    | none => .error (.line input (input.utf8ByteSize - 1))
  | c :: rest =>
    if s.mode = .ended && c = '#' then .ok s.value
    else
      match s.step meaning c with
      | some s => scanValue meaning input (index + 1) s rest
      | none => .error (.line input index)

/-- The value that a text stands for. -/
def value (meaning : Meaning) (input : List Char) : Except Problem String :=
  scanValue meaning (String.ofList input) 0 .start input

/-! ## Assignments -/

/-- The part of a line that is still to be read, and the number of bytes before it. -/
structure LineRest where
  rest : List Char
  passed : Nat

namespace LineRest

/-- Moves past some characters. -/
def advance (l : LineRest) (count : Nat) : LineRest :=
  ⟨l.rest.drop count, l.passed + (String.ofList (l.rest.take count)).utf8ByteSize⟩

/-- Moves past white space. -/
def skipBlank (l : LineRest) : LineRest := l.advance (l.rest.takeWhile Text.isBlank).length

/-- Reads a key: an ASCII letter or an underscore, and then also digits and dots. -/
def key? (l : LineRest) : Option (String × LineRest) :=
  match l.rest with
  | [] => none
  | c :: _ =>
    if c.isAlpha || c = '_' then
      let name := l.rest.takeWhile fun c => c.isAlphanum || c = '_' || c = '.'
      some (String.ofList name, l.advance name.length)
    else none

/-- Reads an equals sign. -/
def equals? (l : LineRest) : Option LineRest :=
  if l.rest.head? = some '=' then some (l.advance 1) else none

end LineRest

/-- The key of an assignment and the rest of its line behind the equals sign. The key may have the
word `export` in front, which is a key itself if the sign follows it. -/
def assignedKey (l : LineRest) : Except LineRest (String × LineRest) :=
  match l.key? with
  | none => .error l
  | some (key, l) =>
    let l := l.skipBlank
    match l.equals? with
    | some l => .ok (key, l)
    | none =>
      if key = "export" then
        match l.key? with
        | none => .error l
        | some (key, l) =>
          let l := l.skipBlank
          match l.equals? with
          | some l => .ok (key, l)
          | none => .error l
      else .error l

/-- The assignment that a gathered line makes; `none` if it is empty or a comment. -/
def assignment? (meaning : Meaning) (line : List Char) :
    Except Problem (Option (String × String)) :=
  let l := LineRest.skipBlank ⟨Text.trimEnd line, 0⟩
  if l.rest.isEmpty || l.rest.head? = some '#' then .ok none
  else
    match assignedKey l with
    | .error l => .error (.line (String.ofList line) l.passed)
    | .ok (key, l) =>
      let l := l.skipBlank
      if l.rest.isEmpty || l.rest.head? = some '#' then .ok (some (key, ""))
      else
        match value meaning l.rest with
        | .ok value => .ok (some (key, value))
        | .error problem => .error problem

/-! ## Loading -/

/-- What a name stands for, given the environment and the values the file gave so far. -/
def lookupIn (env : Environment) (given : NameMap String) (name : String) : String :=
  ((env.text? name).orElse fun _ => given.find? name).getD ""

/-- Loads gathered lines one after the other. -/
def loadLines (env : Environment) (given : NameMap String) :
    List (Except Problem (List Char)) → Except Problem Unit × Environment
  | [] => (.ok (), env)
  | .error problem :: _ => (.error problem, env)
  | .ok line :: rest =>
    match assignment? (lookupIn env given) line with
    | .error problem => (.error problem, env)
    | .ok none => loadLines env given rest
    | .ok (some (key, value)) =>
      if env.takesDefault key value then
        loadLines (env.setDefault key value) (given.insert key value) rest
      else (.error (.unsettable key value), env)

/-- Loads a file into the environment. -/
def load (content : ByteArray) (env : Environment) : Except Problem Unit × Environment :=
  loadLines env NameMap.empty (lines content)

/-- The variable that turns the file off, whatever it holds. -/
def skipVariable : String := "PANIC_SKIP_DOTENV"

/-- Loads the file, if there is one and it is not turned off. -/
def hydrate (file : FileState) (env : Environment) : Except Problem Unit × Environment :=
  if env.contains skipVariable then (.ok (), env)
  else
    match file with
    | .absent => (.ok (), env)
    | .file content => load content env
    | .unreadable e => (.error (.os e), env)

end ChainDashboard.EnvFile
