import AbiBindings.Abi.Token
import AbiBindings.Bytes.Utf8

/-!
# Decoding ABI values

Reading values of given types from the head and tail layout. Data behind the values is ignored. The
integers are taken as whole words, whatever their width; a truth value is a word below 256, true
only for one; of a fixed byte string only its own bytes have to exist. Offsets and lengths are
words below `2 ^ 32`, and an offset counts from the start of the enclosing sequence.

* `decodeAt`, `decodeSeq`: a value, and values one after the other, with the position behind them.
* `decode`: the values of a list of types. No data at all is an error of its own, unless every type
  accepts nothing.
-/

namespace AbiBindings.Abi

/-- Why data is no encoding of values of the types. -/
inductive DecodeError where
  | noData
  | invalid
  deriving Repr, DecidableEq

/-- The wording of the error. -/
def DecodeError.message : DecodeError → String
  | .noData =>
    "Invalid name: please ensure the contract and method you're calling exist! " ++
    "failed to decode empty bytes. if you're using jsonrpc this is likely due to jsonrpc " ++
    "returning `0x` in case contract or method don't exist"
  | .invalid => "Invalid data"

/-- The `n` bytes at an offset, if they exist. -/
def slice? (data : Bytes) (offset n : Nat) : Option Bytes :=
  let found := (data.drop offset).take n
  if found.length = n then some found else none

/-- The word at an offset, if it exists. -/
def wordAt? (data : Bytes) (offset : Nat) : Option Bytes := slice? data offset 32

/-- The offset or length that a word holds. -/
def sizeOfWord? (word : Bytes) : Option Nat :=
  let n := Bytes.toNat word
  if n < UInt32.size then some n else none

/-- The offset or length in the word at an offset. -/
def sizeAt? (data : Bytes) (offset : Nat) : Option Nat := do
  sizeOfWord? (← wordAt? data offset)

/-- The truth value that a word holds. -/
def boolOfWord? (word : Bytes) : Option Bool :=
  let n := Bytes.toNat word
  if n < 256 then some (n == 1) else none

/-- The bytes of a dynamic byte string whose offset stands at `offset`. -/
def blobAt? (data : Bytes) (offset : Nat) : Option Bytes := do
  let start ← sizeAt? data offset
  let length ← sizeAt? data start
  slice? data (start + 32) length

/-- Reads one value: what was read, and the position behind it. -/
abbrev Reader := Bytes → Nat → Option (Token × Nat)

/-- Reads `n` values one after the other. -/
def repeated (read : Reader) (data : Bytes) : Nat → Nat → Option (List Token × Nat)
  | 0, offset => some ([], offset)
  | n + 1, offset => do
    let (t, offset) ← read data offset
    let (rest, offset) ← repeated read data n offset
    some (t :: rest, offset)

/-- The data from an offset that stands at `offset`. -/
def behind? (data : Bytes) (offset : Nat) : Option Bytes := do
  let start ← sizeAt? data offset
  if start ≤ data.length then some (data.drop start) else none

mutual

/-- The value of a type at an offset, and the position behind its head. -/
def decodeAt : Ty → Bytes → Nat → Option (Token × Nat)
  | .address, data, offset => do
    let word ← wordAt? data offset
    let a ← exactly? 20 (word.drop 12)
    some (.address a, offset + 32)
  | .int _, data, offset => do
    let word ← wordAt? data offset
    some (.int (Word.ofBytes word), offset + 32)
  | .uint _, data, offset => do
    let word ← wordAt? data offset
    some (.uint (Word.ofBytes word), offset + 32)
  | .bool, data, offset => do
    let word ← wordAt? data offset
    let b ← boolOfWord? word
    some (.bool b, offset + 32)
  | .fixed size, data, offset => do
    let b ← slice? data offset size
    some (.fixed b, offset + 32)
  | .bytes, data, offset => do
    let b ← blobAt? data offset
    some (.bytes b, offset + 32)
  | .string, data, offset => do
    let b ← blobAt? data offset
    some (.string (utf8Lossy b), offset + 32)
  | .array item, data, offset => do
    let start ← sizeAt? data offset
    let length ← sizeAt? data start
    let (items, _) ←
      repeated (fun data offset => decodeAt item data offset) (data.drop (start + 32)) length 0
    some (.array items, offset + 32)
  | .farray item size, data, offset =>
    if item.isDynamic then do
      let inner ← behind? data offset
      let (items, _) ← repeated (fun data offset => decodeAt item data offset) inner size 0
      some (.farray items, offset + 32)
    else do
      let (items, offset) ← repeated (fun data offset => decodeAt item data offset) data size offset
      some (.farray items, offset)
  | .tuple types, data, offset =>
    if Ty.anyDynamic types then do
      let inner ← behind? data offset
      let (items, _) ← decodeSeq types inner 0
      some (.tuple items, offset + 32)
    else do
      let (items, offset) ← decodeSeq types data offset
      some (.tuple items, offset)

/-- Values of the types one after the other, and the position behind their heads. -/
def decodeSeq : List Ty → Bytes → Nat → Option (List Token × Nat)
  | [], _, offset => some ([], offset)
  | t :: types, data, offset => do
    let (item, offset) ← decodeAt t data offset
    let (items, offset) ← decodeSeq types data offset
    some (item :: items, offset)

end

/-- The values of the types that the data encodes. -/
def decode (types : List Ty) (data : Bytes) : Except DecodeError (List Token) :=
  if data.isEmpty && !types.all Ty.acceptsNothing then .error .noData
  else
    match decodeSeq types data 0 with
    | some (items, _) => .ok items
    | none => .error .invalid

end AbiBindings.Abi
