import ChainDashboard.Text.Number
import ChainDashboard.Text.Trim

/-!
The smallest parts of the patterns that log filters compare field values with. How a part is read
depends on the flags that are on where it stands. A pattern describes texts: with the Unicode flag
off it must not match anything but ASCII, which single bytes and complements of classes would do.
-/
namespace ChainDashboard.Pattern

/-! ## Flags -/

/-- The flags that decide how a pattern is read. -/
structure Mode where
  /-- Characters and classes are those of Unicode. -/
  unicode : Bool
  /-- Letters match in either case. -/
  ignoreCase : Bool
  /-- Blanks and comments between the parts do not count. -/
  verbose : Bool
  deriving DecidableEq, Repr

namespace Mode

/-- The flags at the start of a pattern. -/
def start : Mode := ⟨true, false, false⟩

/-- Turns a flag on or off, given by its letter. The other letters do not change how to read. -/
def set (on : Bool) (m : Mode) (letter : Char) : Mode :=
  if letter = 'u' then { m with unicode := on }
  else if letter = 'i' then { m with ignoreCase := on }
  else if letter = 'x' then { m with verbose := on }
  else m

/-- Turns on the flags before a minus sign and off those behind it. -/
def setAll (m : Mode) (letters : List Char) : Mode :=
  (letters.dropWhile (· ≠ '-')).foldl (set false) ((letters.takeWhile (· ≠ '-')).foldl (set true) m)

end Mode

/-- Whether letters between a question mark and the end of their list are flags: known ones, none of
them twice, and a minus sign only in front of some. -/
def areFlags (letters : List Char) : Bool :=
  letters.all ("imsUuRx-".toList.contains ·) && decide letters.Nodup && letters.getLast? ≠ some '-'

/-- Characters without the blanks and comments in front of them. -/
def skipComments (within : Bool) : List Char → List Char
  | [] => []
  | c :: rest =>
    if within then skipComments (c ≠ '\n') rest
    else if Text.isBlank c then skipComments false rest
    else if c = '#' then skipComments true rest
    else c :: rest

/-- Characters without what does not count in front of them. -/
def Mode.skip (m : Mode) (cs : List Char) : List Char :=
  if m.verbose then skipComments false cs else cs

/-! ## Escapes -/

/-- What matches a single character or a place between characters. -/
inductive Atom where
  /-- A character, and whether it is written as a byte. -/
  | literal (c : Char) (byte : Bool)
  /-- Digits, blanks or word characters, or all but these. -/
  | kind (negated : Bool)
  /-- The characters with a property. -/
  | property
  /-- An end of a word. -/
  | boundary
  /-- An end of the text. -/
  | edge
  deriving DecidableEq, Repr

/-- Takes digits in base sixteen. -/
def hexDigits (m : Mode) : Nat → List Char → Option (List Char × List Char)
  | 0, cs => some ([], cs)
  | _ + 1, [] => none
  | count + 1, c :: rest =>
    if (Text.digit? c).isSome then
      (hexDigits m count (m.skip rest)).map fun (ds, rest) => (c :: ds, rest)
    else none

/-- The character with a code point, given by its digits. -/
def charOfDigits? (ds : List Char) : Option Char :=
  (Text.digits? 16 ds).bind fun n => if n.isValidChar then some (Char.ofNat n) else none

/-- The number of digits behind the letter of an escape that gives a code point. -/
def digitCount? (letter : Char) : Option Nat :=
  if letter = 'x' then some 2
  else if letter = 'u' then some 4
  else if letter = 'U' then some 8
  else none

/-- The characters that letters stand for behind a backslash. -/
def controls : List (Char × Char) :=
  [('a', '\x07'), ('f', '\x0C'), ('t', '\t'), ('n', '\n'), ('r', '\r'), ('v', '\x0B')]

/-- What a letter or a sign behind a backslash stands for on its own. Signs of ASCII stand for
themselves, and other letters, digits and characters for nothing. -/
def escaped? (c : Char) : Option Atom :=
  if "dswDSW".toList.contains c then some (.kind c.isUpper)
  else if "bB<>".toList.contains c then some .boundary
  else if c = 'A' || c = 'z' then some .edge
  else
    match controls.lookup c with
    | some control => some (.literal control false)
    | none => if c.toNat < 0x80 && !c.isAlphanum then some (.literal c false) else none

/-- Reads what follows a backslash. A property is given by one of the letters of the general
categories. -/
def readEscape (m : Mode) : List Char → Option (Atom × List Char)
  | [] => none
  | c :: rest =>
    match digitCount? c with
    | some count => do
      let (ds, rest) ← hexDigits m count (m.skip rest)
      return (.literal (← charOfDigits? ds) (c = 'x'), rest)
    | none =>
      if c = 'p' || c = 'P' then
        match m.skip rest with
        | letter :: rest =>
          if "CLMNPSZ".toList.contains letter.toUpper then some (.property, m.skip rest) else none
        | [] => none
      else (escaped? c).map (·, rest)

/-- Whether an atom matches nothing but text. -/
def Atom.isText (m : Mode) : Atom → Bool
  | .literal c byte => m.unicode || c.toNat < 0x80 || !(byte || m.ignoreCase)
  | .kind negated => m.unicode || !negated
  | .property => m.unicode
  | .boundary | .edge => true

end ChainDashboard.Pattern
