import AbiBindings.Bytes.Basic

/-!
# Keccak-256

The hash of the chain: the sponge over the permutation Keccak-f[1600] with a rate of 136 bytes, the
padding `0x01 … 0x80` and an output of 32 bytes. A state is the list of its 25 lanes, lane `(x, y)`
at position `x + 5 * y`.

* `permute`: the permutation, 24 rounds of `theta`, `rhoPi`, `chi` and a round constant.
* `keccak256`: the hash of a byte string; `Keccak.ofText` hashes the UTF-8 bytes of a text.
-/

namespace AbiBindings.Keccak

/-- A 64-bit lane turned left. -/
def rotate (w n : UInt64) : UInt64 := if n = 0 then w else (w <<< n) ||| (w >>> (64 - n))

/-- The lane at column `x` and row `y`, both modulo five. -/
def lane (s : List UInt64) (x y : Nat) : UInt64 := s.getD (x % 5 + 5 * (y % 5)) 0

/-- The parity of a column. -/
def parity (s : List UInt64) (x : Nat) : UInt64 :=
  lane s x 0 ^^^ lane s x 1 ^^^ lane s x 2 ^^^ lane s x 3 ^^^ lane s x 4

/-- Adds to every lane the parities of two neighbouring columns. -/
def theta (s : List UInt64) : List UInt64 :=
  let parities := (List.range 5).map (parity s)
  let sums := (List.range 5).map fun x =>
    parities.getD ((x + 4) % 5) 0 ^^^ rotate (parities.getD ((x + 1) % 5) 0) 1
  s.mapIdx fun i a => a ^^^ sums.getD (i % 5) 0

/-- How far each lane turns. -/
def offsets : List UInt64 := [
  0, 1, 62, 28, 27, 36, 44, 6, 55, 20, 3, 10, 43, 25, 39, 41, 45, 15, 21, 8, 18, 2, 61, 56, 14]

/-- Turns the lanes and moves them to their new places. -/
def rhoPi (s : List UInt64) : List UInt64 :=
  (List.range 25).map fun i =>
    let source := (i % 5 + 3 * (i / 5)) % 5 + 5 * (i % 5)
    rotate (s.getD source 0) (offsets.getD source 0)

/-- Mixes each lane with the two after it in its row. -/
def chi (s : List UInt64) : List UInt64 :=
  s.mapIdx fun i a => a ^^^ (~~~ lane s (i % 5 + 1) (i / 5) &&& lane s (i % 5 + 2) (i / 5))

/-- What each round adds to the first lane. -/
def roundConstants : List UInt64 := [
  0x0000000000000001, 0x0000000000008082, 0x800000000000808a, 0x8000000080008000,
  0x000000000000808b, 0x0000000080000001, 0x8000000080008081, 0x8000000000008009,
  0x000000000000008a, 0x0000000000000088, 0x0000000080008009, 0x000000008000000a,
  0x000000008000808b, 0x800000000000008b, 0x8000000000008089, 0x8000000000008003,
  0x8000000000008002, 0x8000000000000080, 0x000000000000800a, 0x800000008000000a,
  0x8000000080008081, 0x8000000000008080, 0x0000000080000001, 0x8000000080008008]

/-- One round. -/
def round (s : List UInt64) (constant : UInt64) : List UInt64 :=
  match chi (rhoPi (theta s)) with
  | [] => []
  | a :: rest => (a ^^^ constant) :: rest

/-- The permutation. -/
def permute (s : List UInt64) : List UInt64 := roundConstants.foldl round s

/-- The number of bytes taken in per permutation. -/
def rate : Nat := 136

/-- The lane that eight bytes spell, least significant byte first. -/
def laneOfBytes (b : Bytes) : UInt64 := UInt64.ofNat (Bytes.toNat b.reverse)

/-- The eight bytes of a lane, least significant first. -/
def laneBytes (w : UInt64) : Bytes := (natBytes 8 w.toNat).reverse

/-- The lanes that a block of bytes spells. -/
def lanesOfBytes : Nat → Bytes → List UInt64
  | 0, _ => []
  | k + 1, b => laneOfBytes (b.take 8) :: lanesOfBytes k (b.drop 8)

/-- Adds a block to the state and permutes it. -/
def absorb (s : List UInt64) (block : Bytes) : List UInt64 :=
  let lanes := lanesOfBytes 17 block
  permute (s.mapIdx fun i a => a ^^^ lanes.getD i 0)

/-- The message with its padding, a multiple of the rate long. -/
def pad (b : Bytes) : Bytes :=
  let missing := rate - b.length % rate
  if missing = 1 then b ++ [0x81] else b ++ 0x01 :: zeros (missing - 2) ++ [0x80]

/-- Takes in `k` blocks. -/
def absorbAll : Nat → Bytes → List UInt64 → List UInt64
  | 0, _, s => s
  | k + 1, b, s => absorbAll k (b.drop rate) (absorb s (b.take rate))

/-- The first 32 bytes of a state. -/
def digest (s : List UInt64) : Hash :=
  let bytes := (s.take 4).flatMap laneBytes
  Vector.ofFn fun i => bytes.getD i 0

end AbiBindings.Keccak

namespace AbiBindings

/-- The Keccak-256 hash of a byte string. -/
def keccak256 (b : Bytes) : Hash :=
  let padded := Keccak.pad b
  Keccak.digest
    (Keccak.absorbAll (padded.length / Keccak.rate) padded (List.replicate 25 0))

/-- The Keccak-256 hash of the UTF-8 bytes of a text. -/
def Keccak.ofText (s : String) : Hash := keccak256 (utf8 s)

end AbiBindings
