import AbiBindings.Abi.Token

/-!
# Typed values

The types that a binding gives to arguments and results, and their values as ABI values.

* `Shape.Value`: the values of a type.
* `Shape.toToken`, `Shape.ofToken`: a value as an ABI value, and back. An integer is taken from an
  integer of either sign, and a narrow one keeps its low bits; a list is taken from an array of
  either kind.
* `Fields.ofTokens`: the values of several types from a list of ABI values. A single ABI value
  stands for itself, several stand for a tuple of them.
-/

namespace AbiBindings

open Abi (Token)

/-- The type of a value. -/
inductive Shape where
  | bool
  /-- A narrow integer without sign. -/
  | unsigned (width : Nat)
  /-- An integer of 256 bits without sign. -/
  | word
  /-- An integer of 256 bits with sign. -/
  | integer
  | address
  | hash
  | bytes
  | text
  /-- Any ABI value. -/
  | token
  | list (item : Shape)
  deriving Repr, DecidableEq

namespace Shape

/-- The values of a type. -/
@[reducible] def Value : Shape → Type
  | .bool => Bool
  | .unsigned width => BitVec width
  | .word | .integer => Word
  | .address => Address
  | .hash => Hash
  | .bytes => Bytes
  | .text => String
  | .token => Token
  | .list item => List item.Value

/-- The name of a type in a diagnostic. -/
def name : Shape → String
  | .bool => "bool"
  | .unsigned width => "u" ++ toString width
  | .word => "U256"
  | .integer => "I256"
  | .address => "Address"
  | .hash => "H256"
  | .bytes => "Bytes"
  | .text => "String"
  | .token => "Token"
  | .list _ => "Array"

end Shape

/-- Why an ABI value is no value of a type. -/
inductive Mismatch where
  | kind (expected : Shape) (got : Token)
  | tupleLength (expected : Nat) (got : Token)
  | hashLength (got : Bytes)
  deriving DecidableEq

/-- The wording of the error. -/
def Mismatch.message : Mismatch → String
  | .kind expected got => "Expected `" ++ expected.name ++ "`, got " ++ got.describe
  | .tupleLength expected got =>
    "Expected `Tuple` of length " ++ toString expected ++ ", got " ++ got.describe
  | .hashLength got => "Expected `H256`, got " ++ Token.describeBytes got

namespace Shape

/-- A value as an ABI value. -/
def toToken : (s : Shape) → s.Value → Token
  | .bool, b => .bool b
  | .unsigned _, n => .uint (n.setWidth 256)
  | .word, w => .uint w
  | .integer, w => .int w
  | .address, a => .address a
  | .hash, h => .fixed h.toList
  | .bytes, b => .bytes b
  | .text, t => .string t
  | .token, t => t
  | .list item, values => .array (values.map item.toToken)

/-- The word of an integer of either sign. -/
def wordOf? : Token → Option Word
  | .uint w | .int w => some w
  | _ => none

/-- A value from an ABI value. -/
def ofToken : (s : Shape) → Token → Except Mismatch s.Value
  | .bool, .bool b => .ok b
  | .unsigned width, t =>
    match wordOf? t with
    | some w => .ok (w.setWidth width)
    | none => .error (.kind (.unsigned width) t)
  | .word, t =>
    match wordOf? t with
    | some w => .ok w
    | none => .error (.kind .word t)
  | .integer, t =>
    match wordOf? t with
    | some w => .ok w
    | none => .error (.kind .integer t)
  | .address, .address a => .ok a
  | .hash, .fixed b =>
    match exactly? 32 b with
    | some h => .ok h
    | none => .error (.hashLength b)
  | .bytes, .bytes b => .ok b
  | .text, .string t => .ok t
  | .token, t => .ok t
  | .list item, .array tokens | .list item, .farray tokens => tokens.mapM item.ofToken
  | .bool, t => .error (.kind .bool t)
  | .address, t => .error (.kind .address t)
  | .hash, t => .error (.kind .hash t)
  | .bytes, t => .error (.kind .bytes t)
  | .text, t => .error (.kind .text t)
  | .list item, t => .error (.kind (.list item) t)

end Shape

/-- The types of several values. -/
abbrev Fields := List Shape

namespace Fields

/-- Values of several types. -/
@[reducible] def Values : Fields → Type
  | [] => Unit
  | [s] => s.Value
  | s :: rest => s.Value × Values rest

/-- The values as ABI values, in order. -/
def toTokens : (fields : Fields) → fields.Values → List Token
  | [], _ => []
  | [s], value => [s.toToken value]
  | s :: t :: rest, (value, values) => s.toToken value :: toTokens (t :: rest) values

/-- The values from as many ABI values; surplus ones are not looked at. -/
def ofList : (fields : Fields) → List Token → Except Mismatch fields.Values
  | [], _ => .ok ()
  | s :: rest, [] => .error (.tupleLength (s :: rest).length (.tuple []))
  | [s], t :: _ => s.ofToken t
  | s :: t :: rest, token :: tokens =>
    match s.ofToken token with
    | .error e => .error e
    | .ok value =>
      match ofList (t :: rest) tokens with
      | .error e => .error e
      | .ok values => .ok (value, values)

/-- A list of ABI values as one: a single one stands for itself. -/
def joined : List Token → Token
  | [t] => t
  | tokens => .tuple tokens

/-- The values from an ABI value that holds them together. -/
def ofTuple (fields : Fields) : Token → Except Mismatch fields.Values
  | .tuple tokens =>
    if tokens.length = fields.length then ofList fields tokens
    else .error (.tupleLength fields.length (.tuple tokens))
  | t => .error (.tupleLength fields.length t)

/-- The values from a list of ABI values. No type at all accepts any list. -/
def ofTokens : (fields : Fields) → List Token → Except Mismatch fields.Values
  | [], _ => .ok ()
  | [s], tokens => s.ofToken (joined tokens)
  | s :: t :: rest, tokens => ofTuple (s :: t :: rest) (joined tokens)

end Fields

end AbiBindings
