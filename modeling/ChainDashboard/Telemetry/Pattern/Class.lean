import ChainDashboard.Telemetry.Pattern.Basic

/-!
Classes of characters in brackets. A class is a union of characters, ranges and further classes, and
unions may be joined by operations, from left to right. With the Unicode flag off a class is one of
bytes, of which those beyond ASCII come in and go out all together, by complements alone.
-/
namespace ChainDashboard.Pattern

/-- A piece of a class. -/
structure Piece where
  /-- How deep pieces lie in the piece. -/
  depth : Nat
  /-- Whether bytes beyond ASCII are in it. -/
  wide : Bool
  deriving DecidableEq, Repr

/-- The greatest of some depths. -/
def deepest (depths : List Nat) : Nat := depths.foldl max 0

/-- The union of pieces. -/
def Piece.union : List Piece → Piece
  | [] => ⟨0, false⟩
  | [p] => p
  | ps => ⟨1 + deepest (ps.map (·.depth)), ps.any (·.wide)⟩

/-- An operation on classes. -/
inductive Operation where
  | intersection | difference | symmetricDifference
  deriving DecidableEq, Repr

namespace Operation

/-- The operation of a sign, which is written twice. -/
def ofSign? (c : Char) : Option Operation :=
  if c = '&' then some .intersection
  else if c = '-' then some .difference
  else if c = '~' then some .symmetricDifference
  else none

/-- The result of an operation. -/
def apply (left right : Piece) (o : Operation) : Piece :=
  ⟨1 + max left.depth right.depth,
    match o with
    | .intersection => left.wide && right.wide
    | .difference => left.wide && !right.wide
    | .symmetricDifference => left.wide != right.wide⟩

end Operation

/-- The piece that an atom is in a class, if it can be one. -/
def Atom.piece? (m : Mode) : Atom → Option Piece
  | .literal c _ => if m.unicode || c.toNat < 0x80 then some ⟨0, false⟩ else none
  | .kind negated => if m.unicode || !negated then some ⟨0, false⟩ else none
  | .property => if m.unicode then some ⟨0, false⟩ else none
  | .boundary | .edge => none

/-- Reads an atom of a class. -/
def readAtom (m : Mode) : List Char → Option (Atom × List Char)
  | [] => none
  | '\\' :: rest => readEscape m rest
  | c :: rest => some (.literal c false, rest)

/-- The character that is seen ahead, blanks and the sign of a comment aside. -/
def seenAhead? (within : Bool) : List Char → Option Char
  | [] => none
  | c :: rest =>
    if Text.isBlank c then seenAhead? within rest
    else if c = '#' && !within then seenAhead? true rest
    else some c

/-- Whether a minus sign means a range, given what follows it: it does not in front of a bracket or
of a second minus sign. -/
def Mode.joinsRange (m : Mode) (rest : List Char) : Bool :=
  let ahead? := if m.verbose then (seenAhead? false rest).or rest.head? else rest.head?
  ahead? ≠ some ']' && ahead? ≠ some '-'

/-- Reads a character, a range of characters or an escape. -/
def readPiece (m : Mode) (cs : List Char) : Option (Piece × List Char) := do
  let (first, rest) ← readAtom m cs
  let piece ← first.piece? m
  match m.skip rest with
  | '-' :: rest =>
    if m.joinsRange rest then
      let (last, rest) ← readAtom m (m.skip rest)
      match first, last with
      | .literal c _, .literal d _ => if c ≤ d then return (← last.piece? m, rest) else none
      | _, _ => none
    else return (piece, '-' :: rest)
  | rest => return (piece, rest)

/-- The names of classes between colons. -/
def classNames : List String :=
  ["alnum", "alpha", "ascii", "blank", "cntrl", "digit", "graph", "lower", "print", "punct",
    "space", "upper", "word", "xdigit"]

/-- Reads what follows a bracket as a class with a name between colons. -/
def readNamed? : List Char → Option (Piece × List Char)
  | ':' :: rest =>
    let negated := rest.head? = some '^'
    let named := if negated then rest.drop 1 else rest
    match named.dropWhile (· ≠ ':') with
    | ':' :: ']' :: rest =>
      if classNames.contains (String.ofList (named.takeWhile (· ≠ ':'))) then
        some (⟨0, negated⟩, rest)
      else none
    | _ => none
  | _ => none

/-- An open bracket. -/
structure Bracket where
  /-- The pieces before the bracket. -/
  before : List Piece
  negated : Bool
  /-- An operation and its left side, whose right side is being read. -/
  left? : Option (Operation × Piece)
  deriving DecidableEq, Repr

/-- The piece inside a bracket, given the union that was read last. -/
def Bracket.inside (b : Bracket) (union : Piece) : Piece :=
  match b.left? with
  | some (o, left) => o.apply left union
  | none => union

/-- What has been read of a class: the open brackets, the innermost first, and the pieces of the
union that is being read. -/
structure ClassReader where
  bracket : Bracket
  around : List Bracket
  pieces : List Piece
  /-- Whether nothing was read behind the bracket but minus signs. -/
  front : Bool
  deriving DecidableEq, Repr

namespace ClassReader

/-- Takes a further piece. -/
def push (p : Piece) (r : ClassReader) : ClassReader :=
  { r with pieces := p :: r.pieces, front := false }

/-- Opens a bracket, given what follows its sign. -/
def opened (m : Mode) (before : List Piece) (around : List Bracket) (cs : List Char) :
    ClassReader × List Char :=
  match m.skip cs with
  | '^' :: rest => (⟨⟨before, true, none⟩, around, [], true⟩, rest)
  | rest => (⟨⟨before, false, none⟩, around, [], true⟩, rest)

/-- Closes the innermost bracket: either the class ends with a depth, or the reader goes on. -/
def close (m : Mode) (r : ClassReader) : Option (Nat ⊕ ClassReader) :=
  let inside := r.bracket.inside (.union r.pieces)
  let whole : Piece := ⟨1 + inside.depth, inside.wide != r.bracket.negated⟩
  if whole.wide && !m.unicode then none
  else
    match r.around with
    | [] => some (.inl whole.depth)
    | b :: around => some (.inr ⟨b, around, whole :: r.bracket.before, false⟩)

/-- Starts the right side of an operation. -/
def operate (o : Operation) (r : ClassReader) : ClassReader :=
  { r with
    bracket := { r.bracket with left? := some (o, r.bracket.inside (.union r.pieces)) }
    pieces := []
    front := false }

/-- Reads on: either the class ends with a depth, or the reader goes on. -/
def step (m : Mode) (r : ClassReader) : List Char → Option ((Nat ⊕ ClassReader) × List Char)
  | [] => none
  | c :: rest =>
    if r.front && c = '-' then some (.inr { r.push ⟨0, false⟩ with front := true }, rest)
    else if r.front && c = ']' && r.pieces.isEmpty then some (.inr (r.push ⟨0, false⟩), rest)
    else if c = '[' then
      match readNamed? rest with
      | some (p, rest) => some (.inr (r.push p), rest)
      | none =>
        let (inner, rest) := opened m r.pieces (r.bracket :: r.around) rest
        some (.inr inner, rest)
    else if c = ']' then (r.close m).map (·, rest)
    else
      match if rest.head? = some c then Operation.ofSign? c else none with
      | some o => some (.inr (r.operate o), rest.drop 1)
      | none => (readPiece m (c :: rest)).map fun (p, rest) => (.inr (r.push p), rest)

/-- Reads to the end of the class, in so many steps. -/
def run (m : Mode) (r : ClassReader) (cs : List Char) : Nat → Option (Nat × List Char)
  | 0 => none
  | steps + 1 =>
    match r.step m (m.skip cs) with
    | none => none
    | some (.inl depth, rest) => some (depth, rest)
    | some (.inr r, rest) => r.run m rest steps

end ClassReader

/-- Reads a class, given what follows its bracket. Each step takes a character. -/
def readClass (m : Mode) (cs : List Char) : Option (Nat × List Char) :=
  let (r, rest) := ClassReader.opened m [] [] cs
  r.run m rest (rest.length + 1)

end ChainDashboard.Pattern
