import AbiBindings.Typed.Binding
import AbiBindings.Wire.Abi

/-!
# Typed values as documents

* `value`, `value?`: a value of a type.
* `values?`, `named`: the values of several types, from a list and under their names.
* `output`: the result of a call.
* `topicSets?`: the topics for lists of values of the indexed arguments of an event.
* `shape?`: a type by its name.
-/

namespace AbiBindings.Wire

/-- A value of a type. -/
def value : (s : Shape) → s.Value → Json
  | .bool, b => .bool b
  | .unsigned _, n => decimal n.toNat
  | .word, w => decimal w.toNat
  | .integer, w => signed w
  | .address, a => fixed a
  | .hash, h => fixed h
  | .bytes, b => hex b
  | .text, t => .text t
  | .token, t => token t
  | .list item, l => list (value item) l

/-- A value of a type. -/
def value? : (s : Shape) → Json → Option s.Value
  | .bool, j => j.bool?
  | .unsigned width, j => (natural? j).map (BitVec.ofNat width)
  | .word, j => word? j
  | .integer, j => word? j
  | .address, j => fixed? 20 j
  | .hash, j => fixed? 32 j
  | .bytes, j => bytes? j
  | .text, j => j.text?
  | .token, j => token? j
  | .list item, j => list? (value? item) j

/-- Values of several types. -/
def values : (fields : Fields) → fields.Values → List Json
  | [], _ => []
  | [s], v => [value s v]
  | s :: t :: rest, (v, vs) => value s v :: values (t :: rest) vs

/-- Values of several types, as many as there are types. -/
def values? : (fields : Fields) → List Json → Option fields.Values
  | [], [] => some ()
  | [s], [j] => value? s j
  | s :: t :: rest, j :: js => do some (← value? s j, ← values? (t :: rest) js)
  | _, _ => none

/-- Values under their names. -/
def named (fields : NamedFields) (v : fields.shapes.Values) : Json :=
  .object ((fields.map (·.1)).zip (values fields.shapes v))

/-- The result of a call: a value without name stands for itself, several without names for a list,
others are given under their names. -/
def output (fields : NamedFields) (v : fields.shapes.Values) : Json :=
  match fields.map (·.1), values fields.shapes v with
  | [], _ => .text "unit"
  | "" :: _, [single] => single
  | "" :: _, several => .array several
  | names, several => .object (names.zip several)

/-- The topics for lists of values of the indexed arguments; a missing list leaves an argument
free. -/
def topicSets? : NamedFields → List Json → Option (List (List Hash))
  | [], _ => some []
  | (_, s) :: rest, lists => do
    let chosen ← match lists.head? with
      | some j => list? (value? s) j
      | none => some []
    some (s.topics chosen :: (← topicSets? rest lists.tail))

/-- A type by its name. -/
def shape? : String → Option Shape
  | "address" => some .address
  | "U256" => some .word
  | "I256" => some .integer
  | "H256" => some .hash
  | "bool" => some .bool
  | "string" => some .text
  | "bytes" => some .bytes
  | "u8" => some (.unsigned 8)
  | "u16" => some (.unsigned 16)
  | "u64" => some (.unsigned 64)
  | "u128" => some (.unsigned 128)
  | "token" => some .token
  | "U256[]" | "u256s" => some (.list .word)
  | "string[]" | "strings" => some (.list .text)
  | "address[]" => some (.list .address)
  | "bytes_vec" => some (.list .bytes)
  | _ => none

/-- The results of a call by the name of their type: none, a pair, round data, or a single value. -/
def fields? : String → Option NamedFields
  | "unit" => some []
  | "pair" => some [("", .word), ("", .text)]
  | "round" => some roundData
  | name => (shape? name).map fun s => [("", s)]

end AbiBindings.Wire
