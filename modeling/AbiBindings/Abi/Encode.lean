import AbiBindings.Abi.Token

/-!
# Encoding ABI values

The head and tail layout. The members of a sequence come one after the other; a dynamic member is
represented by the offset of its body, counted from the start of the sequence, and the bodies follow
in order.

* `layout`: the encoding of a sequence from the bodies of its members.
* `Token.body`: the encoding of a value without the offset that may lead to it.
* `encode`: the encoding of a list of values.

**Deviation.** Lengths, numbers of items and offsets are written in full, as the layout has them.
The encoder that is modelled keeps 32 bits of each, so it writes something else where one of them
is `2 ^ 32` or more.
-/

namespace AbiBindings.Abi

/-- A number as one word. -/
def sizeWord (n : Nat) : Bytes := natBytes 32 n

/-- A member of a sequence: its body, and whether it is placed behind an offset. -/
structure Part where
  dynamic : Bool
  body : Bytes
  deriving Repr, DecidableEq

/-- The room that the member takes in the head. -/
def Part.headSize (p : Part) : Nat := if p.dynamic then 32 else p.body.length

/-- The size of the head. -/
def headSize (parts : List Part) : Nat := parts.foldr (fun p n => p.headSize + n) 0

/-- The head, with the first dynamic body at `offset`. -/
def heads (offset : Nat) : List Part → Bytes
  | [] => []
  | p :: rest =>
    if p.dynamic then sizeWord offset ++ heads (offset + p.body.length) rest
    else p.body ++ heads offset rest

/-- The dynamic bodies in order. -/
def tails : List Part → Bytes
  | [] => []
  | p :: rest => if p.dynamic then p.body ++ tails rest else tails rest

/-- The encoding of a sequence. -/
def layout (parts : List Part) : Bytes := heads (headSize parts) parts ++ tails parts

namespace Token

mutual

/-- The encoding of a value without the offset that may lead to it. -/
def body : Token → Bytes
  | .address a => zeros 12 ++ a.toList
  | .uint w | .int w => w.bytes
  | .bool b => sizeWord (if b then 1 else 0)
  | .string s => sizeWord (utf8 s).length ++ padRight (utf8 s)
  | .bytes b => sizeWord b.length ++ padRight b
  | .fixed b => padRight b
  | .array items => sizeWord items.length ++ layout (parts items)
  | .farray items | .tuple items => layout (parts items)

/-- The values as members of a sequence. -/
def parts : List Token → List Part
  | [] => []
  | t :: rest => ⟨t.isDynamic, t.body⟩ :: parts rest

end

end Token

/-- The encoding of a list of values. -/
def encode (values : List Token) : Bytes := layout (Token.parts values)

end AbiBindings.Abi
