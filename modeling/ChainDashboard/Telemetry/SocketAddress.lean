import ChainDashboard.Text.Number

/-!
The grammar of socket addresses: four numbers and a port, or an address of the newer kind in
brackets and a port. Readers take an address from the front of a text and give what is left. Without
a network the only names of hosts that lead anywhere are addresses and the name of this very host.
-/
namespace ChainDashboard.SocketAddress

/-- The digits at the front of a text, at most `most` of them. -/
def leadingDigits (base most : Nat) (cs : List Char) : List Char :=
  (cs.takeWhile fun c => (Text.digit? c).any (· < base)).take most

/-- Takes a number below `bound` from the front of a text. It may start with a zero only if it is
zero itself, or if `padded` allows it. -/
def number? (base most bound : Nat) (padded : Bool) (cs : List Char) : Option (List Char) :=
  let ds := leadingDigits base most cs
  match Text.digits? base ds with
  | none => none
  | some n =>
    if n ≥ bound || (!padded && ds.head? = some '0' && ds.length > 1) then none
    else if (cs.drop ds.length).head?.any fun c => (Text.digit? c).any (· < base) then none
    else some (cs.drop ds.length)

/-- Takes a character. -/
def char? (c : Char) : List Char → Option (List Char)
  | x :: rest => if x = c then some rest else none
  | [] => none

/-- Takes four numbers with dots between them. -/
def v4? (cs : List Char) : Option (List Char) := do
  let octet := number? 10 3 256 false
  octet (← char? '.' (← octet (← char? '.' (← octet (← char? '.' (← octet cs))))))

/-- Takes up to `limit` groups with colons between them, where the last two may be written as four
numbers. Gives what is left, the number of groups, and whether they were written so. -/
def groups (limit : Nat) (first : Bool) (cs : List Char) : List Char × Nat × Bool :=
  match limit with
  | 0 => (cs, 0, false)
  | limit + 1 =>
    let start? := if first then some cs else char? ':' cs
    match if limit = 0 then none else start?.bind v4? with
    | some rest => (rest, 2, true)
    | none =>
      match start?.bind (number? 16 4 0x10000 true) with
      | none => (cs, 0, false)
      | some rest =>
        let (rest, count, dotted) := groups limit false rest
        (rest, count + 1, dotted)

/-- Takes an address of eight groups, of which one run of zeros may be left out. -/
def v6? (cs : List Char) : Option (List Char) :=
  match groups 8 true cs with
  | (rest, 8, _) => some rest
  | (_, _, true) => none
  | (rest, head, false) => do
    let rest ← char? ':' (← char? ':' rest)
    return (groups (8 - (head + 1)) true rest).1

/-- Takes a colon and a port. -/
def port? (cs : List Char) : Option (List Char) :=
  (char? ':' cs).bind fun rest => number? 10 rest.length 0x10000 true rest

/-- Takes the number that may follow an address in brackets. -/
def scope? (cs : List Char) : Option (List Char) :=
  match char? '%' cs with
  | none => some cs
  | some rest => number? 10 rest.length 0x100000000 true rest

/-- Whether a text is a socket address. -/
def isValid (s : String) : Bool :=
  let cs := s.toList
  (v4? cs).bind port? = some [] ||
    ((char? '[' cs).bind v6?).bind (fun rest => ((scope? rest).bind (char? ']')).bind port?) =
      some []

/-! ## Names of hosts -/

/-- The value of a number in base ten, in base eight behind a zero, or in base sixteen behind a zero
and an `x`. -/
def prefixedNumber? : List Char → Option Nat
  | '0' :: 'x' :: ds | '0' :: 'X' :: ds => Text.digits? 16 ds
  | '0' :: ds => if ds.isEmpty then some 0 else Text.digits? 8 ds
  | ds => Text.digits? 10 ds

/-- The bounds of the last number of an address, by the count of numbers before it. -/
def lastBounds : List Nat := [0x100000000, 0x1000000, 0x10000, 0x100]

/-- Whether a text is an address of up to four numbers with dots between them, of which the last
fills what the others leave. -/
def isCompactV4 (host : List Char) : Bool :=
  match ((host.splitOn '.').map prefixedNumber?).reverse with
  | some last :: before =>
    lastBounds[before.length]?.any (last < ·) && before.all (·.any (· < 256))
  | _ => false

/-- Whether a name of a host leads to an address: it is one, or it means this very host. -/
def isKnownHost (host : List Char) : Bool :=
  isCompactV4 host || ((v6? host).bind scope? = some []) ||
    host.map Char.toLower = "localhost".toList

end ChainDashboard.SocketAddress
