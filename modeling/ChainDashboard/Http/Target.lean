import ChainDashboard.Text.Number
import ChainDashboard.Text.Trim
import ChainDashboard.Text.Utf8

/-!
Requests and their targets. A request is well formed if its method is a token and its target keeps
to the grammar of targets: a path from the root with a query, a scheme and an authority with such a
path, or an authority alone. A target is cut into path and query, and both are decoded: in the path
an escape stands for its byte unless that byte has a meaning of its own there, and the query is a
list of named values in form encoding. Decoding never fails; an escape that is none stays as it is.
-/
namespace ChainDashboard.Http

/-- Path and query of a target, as they were sent. -/
structure Target where
  path : String
  query : String
  deriving DecidableEq, Repr

/-! ## Authorities -/

/-- What has been seen of an authority: the colons that may stand before a port, the brackets around
an address, and an escape that only names of users and addresses in brackets may have. -/
structure Authority where
  colons : Nat
  opened : Bool
  closed : Bool
  escape : Bool
  endsUser : Bool
  deriving DecidableEq, Repr

namespace Authority

/-- Nothing of an authority. -/
def start : Authority := ⟨0, false, false, false, false⟩

/-- The authority with a character more; `none` if the character cannot stand there. -/
def step (a : Authority) (c : Char) : Option Authority :=
  let a := { a with endsUser := false }
  if c = ':' then if a.colons ≥ 8 then none else some { a with colons := a.colons + 1 }
  else if c = '[' then if a.escape || a.opened then none else some { a with opened := true }
  else if c = ']' then
    if a.opened && !a.closed then some { a with closed := true, colons := 0, escape := false }
    else none
  else if c = '@' then some { a with colons := 0, escape := false, endsUser := true }
  else if c = '%' then some { a with escape := true }
  else if c.isAlphanum || "!$&'()*+,-.;=_~".toList.contains c then some a
  else none

/-- Whether an authority may end here. -/
def isComplete (a : Authority) : Bool :=
  a.opened = a.closed && a.colons ≤ 1 && !a.endsUser && !a.escape

/-- What follows an authority. -/
def rest? (a : Authority) : List Char → Option (List Char)
  | [] => if a.isComplete then some [] else none
  | c :: cs =>
    if c = '/' || c = '?' || c = '#' then if a.isComplete then some (c :: cs) else none
    else (a.step c).bind fun a => a.rest? cs

end Authority

/-! ## Targets -/

/-- The characters of a path. -/
def isPathChar (c : Char) : Bool :=
  let n := c.toNat
  n = 0x21 || n = 0x22 || (0x24 ≤ n && n ≤ 0x3B) || n = 0x3D || (0x40 ≤ n && n ≤ 0x5F) ||
    (0x61 ≤ n && n ≤ 0x7E)

/-- The characters of a query. -/
def isQueryChar (c : Char) : Bool :=
  let n := c.toNat
  n = 0x21 || (0x24 ≤ n && n ≤ 0x3B) || n = 0x3D || (0x3F ≤ n && n ≤ 0x7E)

/-- Cuts a target into path and query. A fragment belongs to neither and may be anything. -/
def Target.ofOrigin? (cs : List Char) : Option Target :=
  let sent := cs.takeWhile (· ≠ '#')
  let path := sent.takeWhile (· ≠ '?')
  let query := (sent.dropWhile (· ≠ '?')).drop 1
  if path.all isPathChar && query.all isQueryChar then
    some ⟨String.ofList path, String.ofList query⟩
  else none

/-- The characters of a scheme. -/
def isSchemeChar (c : Char) : Bool := c.isAlphanum || c = '+' || c = '-' || c = '.' || c = '~'

/-- What follows the scheme of a target and two slashes, and the length of the scheme, if any. -/
def afterScheme? (cs : List Char) : Option (Nat × List Char) :=
  match cs.dropWhile isSchemeChar with
  | ':' :: '/' :: '/' :: rest => some ((cs.takeWhile isSchemeChar).length, rest)
  | _ => none

/-- A target that does not start at the root. Behind a scheme there has to be an authority, and
without one there is nothing else. -/
def Target.ofAuthority? (cs : List Char) : Option Target :=
  match afterScheme? cs with
  | none => (Authority.start.rest? cs).bind fun rest => if rest.isEmpty then some ⟨"", ""⟩ else none
  | some (scheme, located) =>
    if scheme > 64 then none
    else
      (Authority.start.rest? located).bind fun rest =>
        if rest.length = located.length then none
        else
          (Target.ofOrigin? rest).map fun t => if t.path = "" then { t with path := "/" } else t

/-- Reads a target. -/
def Target.ofText? (uri : String) : Option Target :=
  if uri.utf8ByteSize > 65534 then none
  else
    match uri.toList with
    | [] => none
    | ['*'] => some ⟨"*", ""⟩
    | '/' :: rest => Target.ofOrigin? ('/' :: rest)
    | cs => Target.ofAuthority? cs

/-! ## Requests -/

/-- What is asked, and of what. -/
structure Request where
  method : String
  target : Target
  deriving DecidableEq, Repr

/-- Whether a text is a method: a token. -/
def isMethod (method : String) : Bool :=
  method ≠ "" && method.toList.all fun c => c.isAlphanum || "!#$%&'*+-.^_\x60|~".toList.contains c

/-- The request that the texts of a method and a target make. -/
def Request.ofTexts? (method uri : String) : Option Request :=
  if isMethod method then (Target.ofText? uri).map (⟨method, ·⟩) else none

/-- Whether a text can stand in the first line of a request, where blanks and controls end it. -/
def fitsLine (text : String) : Bool := text.toList.all fun c => c.toNat > 0x20 && c.toNat ≠ 0x7F

/-- The texts of method and target that the first line of a request has. -/
def requestLine? (line : String) : Option (String × String) :=
  match (line.toList.splitOn ' ').map String.ofList with
  | method :: uri :: _ => some (method, Text.trim uri)
  | _ => none

/-! ## Decoding -/

/-- The value of a byte that is a digit in base sixteen. -/
def hexDigit? (b : UInt8) : Option Nat := Text.digit? (Char.ofNat b.toNat)

/-- The byte that an escape stands for, given what follows its first byte. -/
def escaped? (first : UInt8) (rest : List UInt8) : Option UInt8 :=
  match decide (first = 0x25), rest with
  | true, h :: l :: _ =>
    match hexDigit? h, hexDigit? l with
    | some x, some y => some (x * 16 + y).toUInt8
    | _, _ => none
  | _, _ => none

/-- The bytes that escaped bytes stand for. Escapes of a byte to be kept stay as they are. -/
def unescape (keep : UInt8 → Bool) : List UInt8 → List UInt8
  | [] => []
  | first :: rest =>
    match (escaped? first rest).filter (fun b => !keep b) with
    | some b => b :: unescape keep (rest.drop 2)
    | none => first :: unescape keep rest
termination_by bytes => bytes.length
decreasing_by
  · simp only [List.length_drop, List.length_cons]; omega
  · simp

/-- The path that routes are compared with. Escaped percent signs, slashes and plus signs keep their
escapes. -/
def Target.decodedPath (t : Target) : String :=
  Text.lossyText (unescape (fun b => b = 0x25 || b = 0x2F || b = 0x2B) (Text.bytes t.path))

/-- A name or value in form encoding, decoded: a plus sign stands for a blank. -/
def decodeForm (cs : List Char) : String :=
  let blanks := cs.map fun c => if c = '+' then ' ' else c
  Text.lossyText (unescape (fun _ => false) (Text.bytes (String.ofList blanks)))

/-- The named values of a query, in their order. Empty parts count for nothing, and a name without
a value has an empty one. -/
def Target.parameters (t : Target) : List (String × String) :=
  ((t.query.toList.splitOn '&').filter (· ≠ [])).map fun part =>
    (decodeForm (part.takeWhile (· ≠ '=')), decodeForm ((part.dropWhile (· ≠ '=')).drop 1))

/-- A parameter that must not be repeated is. -/
structure RepeatedParameter where
  name : String
  deriving DecidableEq, Repr

/-- The report of a repeated parameter. -/
def RepeatedParameter.message (e : RepeatedParameter) : String :=
  "Query deserialize error: duplicate field `" ++ e.name ++ "`"

/-- The value of a parameter, if it is given. -/
def Target.parameter (t : Target) (name : String) : Except RepeatedParameter (Option String) :=
  match t.parameters.filter (·.1 = name) with
  | [] => .ok none
  | [p] => .ok (some p.2)
  | _ => .error ⟨name⟩

end ChainDashboard.Http
