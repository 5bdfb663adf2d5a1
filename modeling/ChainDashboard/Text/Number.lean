/-!
Numbers in text. A whole number is an optional sign and at least one digit, with nothing around
them, and it has to fit the machine word it is read into. Of other numbers only the form matters.
-/
namespace ChainDashboard.Text

/-- The value of a digit, for bases up to sixteen. -/
def digit? (c : Char) : Option Nat :=
  if '0' ≤ c && c ≤ '9' then some (c.toNat - '0'.toNat)
  else if 'a' ≤ c && c ≤ 'f' then some (c.toNat - 'a'.toNat + 10)
  else if 'A' ≤ c && c ≤ 'F' then some (c.toNat - 'A'.toNat + 10)
  else none

/-- The number that a row of digits stands for, continuing from `acc`. -/
def continueDigits? (base acc : Nat) : List Char → Option Nat
  | [] => some acc
  | c :: rest =>
    match digit? c with
    | some d => if d < base then continueDigits? base (acc * base + d) rest else none
    | none => none

/-- The number that a non-empty row of digits stands for. -/
def digits? (base : Nat) (cs : List Char) : Option Nat :=
  if cs.isEmpty then none else continueDigits? base 0 cs

/-- A number without a minus sign; a plus sign may stand in front. -/
def natural? (base : Nat) : List Char → Option Nat
  | '+' :: rest => digits? base rest
  | cs => digits? base cs

/-- A number with an optional sign. -/
def integer? (base : Nat) : List Char → Option Int
  | '-' :: rest => (digits? base rest).map fun n => -(n : Int)
  | cs => (natural? base cs).map fun n => (n : Int)

/-- A sixteen-bit number such as a port. -/
def readUInt16? (s : String) : Option UInt16 :=
  (natural? 10 s.toList).bind fun n => if n < UInt16.size then some n.toUInt16 else none

/-- A signed sixty-four-bit number. -/
def readInt64? (s : String) : Option Int64 :=
  (integer? 10 s.toList).bind fun n =>
    if Int64.minValue.toInt ≤ n ∧ n ≤ Int64.maxValue.toInt then some (Int64.ofInt n) else none

/-- Whether a row of characters is nothing but decimal digits, at least one. -/
def isDigits (cs : List Char) : Bool := !cs.isEmpty && cs.all Char.isDigit

/-- Whether a text is an exponent, or empty. -/
def isExponent : List Char → Bool
  | [] => true
  | e :: rest =>
    (e = 'e' || e = 'E') &&
      match rest with
      | '+' :: ds | '-' :: ds => isDigits ds
      | ds => isDigits ds

/-- Whether a text is a number without a sign: digits with at most one point among or around them
and an optional exponent, or a name of infinity or of no number. -/
def isUnsignedDecimal (cs : List Char) : Bool :=
  let rest := cs.dropWhile Char.isDigit
  ["inf", "infinity", "nan"].contains (String.ofList (cs.map Char.toLower)) ||
    match rest with
    | '.' :: rest =>
      (isDigits (cs.takeWhile Char.isDigit) || isDigits (rest.takeWhile Char.isDigit)) &&
        isExponent (rest.dropWhile Char.isDigit)
    | rest => isDigits (cs.takeWhile Char.isDigit) && isExponent rest

/-- Whether a text is a decimal number, whole or not. -/
def isDecimal : List Char → Bool
  | '+' :: rest | '-' :: rest => isUnsignedDecimal rest
  | cs => isUnsignedDecimal cs

/-- Lower-case digits of a number in base sixteen, at least `width` of them. -/
def hexText (n width : Nat) : String :=
  let ds := Nat.toDigits 16 n
  String.ofList (List.replicate (width - ds.length) '0' ++ ds)

end ChainDashboard.Text
