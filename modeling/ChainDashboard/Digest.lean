import ChainDashboard.Text.Number

/-!
The SHA3-256 digest by which two contents of a file are compared. The sponge absorbs blocks of 136
bytes into a state of 25 words of 64 bits and gives out the first 32 bytes of the last state.
-/
namespace ChainDashboard.Digest

/-- The 25 lanes of the permutation; the lane in column `x` and row `y` has index `x + 5 * y`. -/
abbrev Lanes := Vector UInt64 25

/-- Lane in column `x` and row `y`, both taken modulo five. -/
def Lanes.at (a : Lanes) (x y : Nat) : UInt64 :=
  a.get ⟨x % 5 + 5 * (y % 5), by omega⟩

/-- A word turned left by `n` places, `n` below 64. -/
def turn (w : UInt64) (n : Nat) : UInt64 :=
  if n = 0 then w else (w <<< n.toUInt64) ||| (w >>> (64 - n).toUInt64)

/-- How far each lane is turned. -/
def offsets : Vector Nat 25 := #v[
  0, 1, 62, 28, 27, 36, 44, 6, 55, 20, 3, 10, 43, 25, 39, 41, 45, 15, 21, 8, 18, 2, 61, 56, 14]

/-- One constant for each of the 24 rounds. -/
def roundConstants : List UInt64 := [
  0x0000000000000001, 0x0000000000008082, 0x800000000000808A, 0x8000000080008000,
  0x000000000000808B, 0x0000000080000001, 0x8000000080008081, 0x8000000000008009,
  0x000000000000008A, 0x0000000000000088, 0x0000000080008009, 0x000000008000000A,
  0x000000008000808B, 0x800000000000008B, 0x8000000000008089, 0x8000000000008003,
  0x8000000000008002, 0x8000000000000080, 0x000000000000800A, 0x800000008000000A,
  0x8000000080008081, 0x8000000000008080, 0x0000000080000001, 0x8000000080008008]

/-- A state with the lane of each column and row given by a function. -/
def Lanes.ofFn (f : Nat → Nat → UInt64) : Lanes :=
  Vector.ofFn fun i => f (i.val % 5) (i.val / 5)

/-- One round: mix the columns, turn and move the lanes, combine along the rows, add the constant. -/
def round (a : Lanes) (constant : UInt64) : Lanes :=
  let column : Vector UInt64 5 := Vector.ofFn fun x =>
    a.at x 0 ^^^ a.at x 1 ^^^ a.at x 2 ^^^ a.at x 3 ^^^ a.at x 4
  let parity (x : Nat) : UInt64 := column.get ⟨x % 5, by omega⟩
  let mixed := Lanes.ofFn fun x y => a.at x y ^^^ parity (x + 4) ^^^ turn (parity (x + 1)) 1
  let turned : Lanes := Vector.ofFn fun i => turn mixed[i] offsets[i]
  let moved := Lanes.ofFn fun x y => turned.at (x + 3 * y) x
  let combined := Lanes.ofFn fun x y =>
    moved.at x y ^^^ ((moved.at (x + 1) y ^^^ 0xFFFFFFFFFFFFFFFF) &&& moved.at (x + 2) y)
  combined.set 0 (combined[0] ^^^ constant)

/-- The permutation: all rounds in turn. -/
def permute (a : Lanes) : Lanes := roundConstants.foldl round a

/-- Bytes taken in by one application of the permutation. -/
def rate : Nat := 136

/-- Eight bytes as a word, the least significant byte first. -/
def word (bytes : List UInt8) : UInt64 :=
  bytes.foldr (fun b acc => (acc <<< 8) ||| b.toUInt64) 0

/-- The bytes of a word, the least significant byte first. -/
def wordBytes (w : UInt64) : List UInt8 :=
  (List.range 8).map fun i => (w >>> (8 * i).toUInt64).toUInt8

/-- A message filled up to a whole number of blocks: the bits 01, a one, zeros and a last one. -/
def pad (message : List UInt8) : List UInt8 :=
  let free := rate - message.length % rate
  if free = 1 then message ++ [0x86]
  else message ++ [0x06] ++ List.replicate (free - 2) 0x00 ++ [0x80]

/-- Adds a block to the state and permutes it. -/
def absorb (a : Lanes) (block : List UInt8) : Lanes :=
  permute (Vector.ofFn fun i => a[i] ^^^ word ((block.drop (8 * i)).take 8))

/-- Absorbs the message block after block; `blocks` bounds their number. -/
def absorbAll (a : Lanes) (message : List UInt8) : Nat → Lanes
  | 0 => a
  | blocks + 1 => absorbAll (absorb a (message.take rate)) (message.drop rate) blocks

/-- The 32 bytes of the SHA3-256 digest. -/
def sha3_256 (message : ByteArray) : List UInt8 :=
  let padded := pad message.data.toList
  let a := absorbAll (Vector.replicate 25 0) padded (padded.length / rate)
  ((List.range 4).map fun x => wordBytes (a.at x 0)).flatten

/-- The digest of a file's content, in lower-case base sixteen. -/
def ofContent (content : ByteArray) : String :=
  String.join ((sha3_256 content).map fun b => Text.hexText b.toNat 2)

end ChainDashboard.Digest
