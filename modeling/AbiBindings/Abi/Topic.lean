import AbiBindings.Abi.Encode
import AbiBindings.Keccak

/-!
# Topics of indexed arguments

The topic of an indexed argument is its word for a value type, the hash of its content for a string
or byte string, and the hash of its encoding in place for an array or tuple. The encoding in place
writes the leaves one after the other, each padded to whole words, without offsets and lengths.

* `Token.inPlace`: the encoding in place.
* `topicOf`: the topic of a value.
-/

namespace AbiBindings.Abi

namespace Token

mutual

/-- The encoding of a value in place. -/
def inPlace : Token → Bytes
  | .string s => padRight (utf8 s)
  | .bytes b => padRight b
  | .array items | .farray items | .tuple items => inPlaceAll items
  | .address a => encode [.address a]
  | .uint w => encode [.uint w]
  | .int w => encode [.int w]
  | .bool b => encode [.bool b]
  | .fixed b => encode [.fixed b]

/-- The encodings of the values in place, one after the other. -/
def inPlaceAll : List Token → Bytes
  | [] => []
  | t :: rest => t.inPlace ++ inPlaceAll rest

end

end Token

/-- The first 32 bytes, with zeros for missing ones. -/
def hashOfBytes (b : Bytes) : Hash := Vector.ofFn fun i => b.getD i 0

/-- The topic of a value. -/
def topicOf : Token → Hash
  | .string s => keccak256 (utf8 s)
  | .bytes b => keccak256 b
  | .array items | .farray items | .tuple items => keccak256 (Token.inPlaceAll items)
  | t => hashOfBytes (encode [t])

/-- The topics that an indexed argument may have; no value at all leaves it free. -/
def topicsOf (values : List Token) : List Hash := values.map topicOf

end AbiBindings.Abi
