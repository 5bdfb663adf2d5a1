/-!
Bytes that are meant to be UTF-8 and may not be. Every longest run of bytes that starts a character
without completing it, and every byte that starts none, is read as the replacement character, so
reading never fails and never skips over a valid character.
-/
namespace ChainDashboard.Text

/-- Stands for bytes that are no character. -/
def replacement : Char := '\uFFFD'

/-- The bits that a continuation byte contributes. -/
def payload (b : UInt8) : Nat := b.toNat % 0x40

/-- Whether a byte lies between two others. -/
def within (low high b : UInt8) : Bool := low ≤ b && b ≤ high

/-- The second bytes that may follow a byte that starts a character of three or four bytes. -/
def secondByte (first second : UInt8) : Bool :=
  if first = 0xE0 then within 0xA0 0xBF second
  else if first = 0xED then within 0x80 0x9F second
  else if first = 0xF0 then within 0x90 0xBF second
  else if first = 0xF4 then within 0x80 0x8F second
  else within 0x80 0xBF second

/-- The character that starts with `first`, and the number of bytes after `first` that it takes. -/
def firstChar (first : UInt8) (rest : List UInt8) : Char × Nat :=
  if first < 0x80 then (Char.ofNat first.toNat, 0)
  else if within 0xC2 0xDF first then
    match rest with
    | b :: _ =>
      if within 0x80 0xBF b then (Char.ofNat (first.toNat % 0x20 * 0x40 + payload b), 1)
      else (replacement, 0)
    | [] => (replacement, 0)
  else if within 0xE0 0xEF first then
    match rest with
    | b :: rest =>
      if secondByte first b then
        match rest with
        | c :: _ =>
          if within 0x80 0xBF c then
            (Char.ofNat ((first.toNat % 0x10 * 0x40 + payload b) * 0x40 + payload c), 2)
          else (replacement, 1)
        | [] => (replacement, 1)
      else (replacement, 0)
    | [] => (replacement, 0)
  else if within 0xF0 0xF4 first then
    match rest with
    | b :: rest =>
      if secondByte first b then
        match rest with
        | c :: rest =>
          if within 0x80 0xBF c then
            match rest with
            | d :: _ =>
              if within 0x80 0xBF d then
                (Char.ofNat (((first.toNat % 0x08 * 0x40 + payload b) * 0x40 + payload c) * 0x40 +
                  payload d), 3)
              else (replacement, 2)
            | [] => (replacement, 2)
          else (replacement, 1)
        | [] => (replacement, 1)
      else (replacement, 0)
    | [] => (replacement, 0)
  else (replacement, 0)

/-- The characters of bytes, with the replacement character for what is no character. -/
def lossyChars : List UInt8 → List Char
  | [] => []
  | first :: rest =>
    let found := firstChar first rest
    found.1 :: lossyChars (rest.drop found.2)
termination_by bytes => bytes.length
decreasing_by simp only [List.length_drop, List.length_cons]; omega

/-- The text of bytes, with the replacement character for what is no character. -/
def lossyText (bytes : List UInt8) : String := String.ofList (lossyChars bytes)

/-- Bytes are compared one by one, here and in everything that holds bytes. -/
instance (priority := high) decidableEqBytes : DecidableEq ByteArray := ByteArray.instDecidableEq

/-- The bytes of a text. -/
def bytes (s : String) : List UInt8 := s.toUTF8.data.toList

end ChainDashboard.Text
