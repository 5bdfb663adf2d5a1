import ChainDashboard.Telemetry.Pattern.Class
import ChainDashboard.Text.Alphanumeric

/-!
Which patterns can be used. A pattern is read from left to right with the groups that are open kept
on a stack. It must be well formed, match nothing but text, and not nest too deep; ends of words are
told by ASCII alone. Patterns come from between braces, so a brace that opens in one is never closed
and counts nothing.
-/
namespace ChainDashboard.Pattern

/-- Why a pattern cannot be used. -/
inductive Problem where
  | malformed
  | wordBoundary
  deriving DecidableEq, Repr

/-- The report of the problem. -/
def Problem.message : Problem → String
  | .malformed => "error building NFA"
  | .wordBoundary =>
    "unsupported regex feature for DFAs: cannot build DFAs for regexes with Unicode word " ++
      "boundaries; switch to ASCII word boundaries, or heuristically enable Unicode word " ++
      "boundaries or use a different regex engine"

/-- What stands in a sequence. -/
inductive Item where
  /-- A part of the pattern, and how deep parts lie in it. -/
  | part (depth : Nat)
  /-- A change of flags. -/
  | directive
  deriving DecidableEq, Repr

/-- How deep parts lie in an item. -/
def Item.depth : Item → Nat
  | .part depth => depth
  | .directive => 0

/-- How deep parts lie in a sequence. -/
def sequenceDepth : List Item → Nat
  | [] => 0
  | [i] => i.depth
  | is => 1 + deepest (is.map Item.depth)

/-- What has been read inside one pair of parentheses: the depths of the branches that are finished
and the items of the last one, in reverse. -/
structure Level where
  branches : List Nat
  items : List Item
  deriving DecidableEq, Repr

/-- How deep parts lie in a level. -/
def Level.depth (l : Level) : Nat :=
  match l.branches with
  | [] => sequenceDepth l.items
  | branches => 1 + deepest (sequenceDepth l.items :: branches)

/-! ## Groups -/

/-- What an opening parenthesis turns out to be. -/
inductive Opening where
  | directive (mode : Mode)
  | group (mode : Mode) (name? : Option (List Char))
  deriving DecidableEq, Repr

/-- Whether characters can name a group. -/
def isGroupName : List Char → Bool
  | [] => false
  | c :: rest =>
    (c = '_' || Text.isAlphabetic c) &&
      rest.all fun c => c = '_' || c = '.' || c = '[' || c = ']' || Text.isAlphanumeric c

/-- Reads the name of a group up to its bracket. -/
def readGroupName (m : Mode) (cs : List Char) : Option (Opening × List Char) :=
  let name := cs.takeWhile (· ≠ '>')
  match cs.dropWhile (· ≠ '>') with
  | _ :: rest => if isGroupName name then some (.group m name, rest) else none
  | [] => none

/-- Reads flags and the sign behind them. -/
def readFlags (m : Mode) (cs : List Char) : Option (Opening × List Char) :=
  let letters := cs.takeWhile fun c => c ≠ ':' && c ≠ ')'
  if !areFlags letters then none
  else
    match cs.drop letters.length with
    | ':' :: rest => some (.group (m.setAll letters) none, rest)
    | _ :: rest => if letters.isEmpty then none else some (.directive (m.setAll letters), rest)
    | [] => none

/-- Reads what follows an opening parenthesis. Looking ahead and behind is not possible. -/
def readOpening (m : Mode) (cs : List Char) : Option (Opening × List Char) :=
  match m.skip cs with
  | '?' :: '=' :: _ | '?' :: '!' :: _ | '?' :: '<' :: '=' :: _ | '?' :: '<' :: '!' :: _ => none
  | '?' :: 'P' :: '<' :: rest | '?' :: '<' :: rest => readGroupName m rest
  | '?' :: rest => readFlags m rest
  | rest => some (.group m none, rest)

/-! ## Reading -/

/-- What has been read of a pattern. -/
structure Reader where
  mode : Mode
  level : Level
  /-- The levels around the innermost group, and the flags to go back to behind it. -/
  around : List (Level × Mode)
  names : List (List Char)
  /-- Whether ends of words were asked for that Unicode decides. -/
  boundary : Bool
  deriving DecidableEq, Repr

namespace Reader

/-- Nothing of a pattern. -/
def start : Reader := ⟨.start, ⟨[], []⟩, [], [], false⟩

/-- Takes a further item. -/
def push (i : Item) (r : Reader) : Reader :=
  { r with level := { r.level with items := i :: r.level.items } }

/-- Takes an atom, if it matches nothing but text. -/
def pushAtom (a : Atom) (r : Reader) : Option Reader :=
  if a.isText r.mode then
    some { r.push (.part 0) with boundary := r.boundary || (a = .boundary && r.mode.unicode) }
  else none

/-- Goes into a group, or on with other flags. No two groups have one name. -/
def enter (o : Opening) (r : Reader) : Option Reader :=
  match o with
  | .directive mode => some { r.push .directive with mode }
  | .group mode name? =>
    if name?.any r.names.contains then none
    else
      some { r with
        mode
        level := ⟨[], []⟩
        around := (r.level, r.mode) :: r.around
        names := name?.toList ++ r.names }

/-- Leaves a group. -/
def leave (r : Reader) : Option Reader :=
  match r.around with
  | [] => none
  | (level, mode) :: around =>
    some ({ r with mode, level, around }.push (.part (1 + r.level.depth)))

/-- Starts another branch. -/
def branch (r : Reader) : Reader :=
  { r with level := ⟨sequenceDepth r.level.items :: r.level.branches, []⟩ }

/-- Repeats the last part, if there is one. -/
def repeated (r : Reader) : Option Reader :=
  match r.level.items with
  | .part depth :: items =>
    some { r with level := { r.level with items := .part (1 + depth) :: items } }
  | _ => none

/-- Reads on. A question mark behind a sign of repetition belongs to it. -/
def step (r : Reader) : List Char → Option (Reader × List Char)
  | [] => none
  | '(' :: rest => do
    let (o, rest) ← readOpening r.mode rest
    return (← r.enter o, rest)
  | ')' :: rest => r.leave.map (·, rest)
  | '|' :: rest => some (r.branch, rest)
  | '[' :: rest => (readClass r.mode rest).map fun (depth, rest) => (r.push (.part depth), rest)
  | '\\' :: rest => do
    let (a, rest) ← readEscape r.mode rest
    return (← r.pushAtom a, rest)
  | c :: rest =>
    if c = '?' || c = '*' || c = '+' then
      r.repeated.map (·, if rest.head? = some '?' then rest.drop 1 else rest)
    else if c = '\x7b' then none
    else if c = '^' || c = '$' then (r.pushAtom .edge).map (·, rest)
    else if c = '.' then if r.mode.unicode then some (r.push (.part 0), rest) else none
    else (r.pushAtom (.literal c false)).map (·, rest)

/-- How deep parts may lie in a pattern. -/
def depthLimit : Nat := 250

/-- Reads to the end of the pattern, in so many steps. -/
def run (r : Reader) (cs : List Char) : Nat → Option Reader
  | 0 => none
  | steps + 1 =>
    match r.mode.skip cs with
    | [] => if r.around.isEmpty && r.level.depth ≤ depthLimit then some r else none
    | cs =>
      match r.step cs with
      | some (r, rest) => r.run rest steps
      | none => none

end Reader

/-- Checks a pattern. Each step of reading takes a character. -/
def check (pattern : List Char) : Except Problem Unit :=
  match Reader.start.run pattern (pattern.length + 1) with
  | none => .error .malformed
  | some r => if r.boundary then .error .wordBoundary else .ok ()

end ChainDashboard.Pattern
