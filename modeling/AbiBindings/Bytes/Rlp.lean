import AbiBindings.Bytes.Basic

/-!
# Recursive length prefix

* `Rlp.encode`: the bytes of an item; a short byte string or list is led by one byte, a long one
  also by its length.
* `Rlp.number`: a number as a byte string without leading zeros.
-/

namespace AbiBindings

/-- A byte string or a list of items. -/
inductive Rlp where
  | bytes (b : Bytes)
  | list (items : List Rlp)

namespace Rlp

/-- What leads a payload of some length; `base` tells byte strings from lists. -/
def header (base length : Nat) : Bytes :=
  if length ≤ 55 then [UInt8.ofNat (base + length)]
  else
    let size := minimalBytes length
    UInt8.ofNat (base + 55 + size.length) :: size

mutual

/-- The bytes of an item. -/
def encode : Rlp → Bytes
  | .bytes [b] => if b < 0x80 then [b] else header 0x80 1 ++ [b]
  | .bytes b => header 0x80 b.length ++ b
  | .list items => header 0xc0 (encodeAll items).length ++ encodeAll items

/-- The bytes of the items, one after the other. -/
def encodeAll : List Rlp → Bytes
  | [] => []
  | x :: rest => encode x ++ encodeAll rest

end

/-- A number as a byte string. -/
def number (n : Nat) : Rlp := .bytes (minimalBytes n)

end Rlp

end AbiBindings
