import AbiBindings.Json.Basic
import AbiBindings.Json.Token

/-!
# Reading JSON texts

* `Json.read`: the tree of a text, with faulty texts and numbers marked; no limit of depth.
* `Json.parse`: the tree of a text whose every part stands for a value, at most 127 levels deep.
* `Json.ofLiteral`: a number literal as a document.
-/

namespace AbiBindings.Json

/-- The document of a number literal, faulty if the number is too large. -/
def ofLiteral (l : Literal) : Json :=
  match Number.ofLiteral? l with
  | some n => .number n
  | none => .faulty

mutual

/-- A document at the front of the tokens, and what follows it. -/
def readValue : Nat → List Token → Option (Json × List Token)
  | 0, _ => none
  | fuel + 1, tokens =>
    match tokens with
    | .null :: rest => some (.null, rest)
    | .bool b :: rest => some (.bool b, rest)
    | .text (some s) :: rest => some (.text s, rest)
    | .text none :: rest => some (.faulty, rest)
    | .number l :: rest => some (ofLiteral l, rest)
    | .openArray :: .closeArray :: rest => some (.array [], rest)
    | .openArray :: rest => do
      let (items, rest) ← readItems fuel rest
      some (.array items, rest)
    | .openObject :: .closeObject :: rest => some (.object [], rest)
    | .openObject :: rest => do
      let (members, rest) ← readMembers fuel rest
      some (.object members, rest)
    | _ => none

/-- One or more items and the bracket that ends them. -/
def readItems : Nat → List Token → Option (List Json × List Token)
  | 0, _ => none
  | fuel + 1, tokens => do
    let (item, rest) ← readValue fuel tokens
    match rest with
    | .closeArray :: rest => some ([item], rest)
    | .comma :: rest => do
      let (items, rest) ← readItems fuel rest
      some (item :: items, rest)
    | _ => none

/-- One or more members and the brace that ends them. -/
def readMembers : Nat → List Token → Option (List (String × Json) × List Token)
  | 0, _ => none
  | fuel + 1, tokens =>
    match tokens with
    | .text (some key) :: .colon :: rest => do
      let (value, rest) ← readValue fuel rest
      match rest with
      | .closeObject :: rest => some ([(key, value)], rest)
      | .comma :: rest => do
        let (members, rest) ← readMembers fuel rest
        some ((key, value) :: members, rest)
      | _ => none
    | _ => none

end

/-- The document that the tokens spell. -/
def ofTokens (tokens : List Token) : Option Json :=
  match readValue (2 * tokens.length + 1) tokens with
  | some (value, []) => some value
  | _ => none

/-- The tree of a text, with faulty parts marked. -/
def read (s : String) : Option Json := do
  let tokens ← Token.scan s
  ofTokens tokens

/-- The deepest nesting that is read. -/
def depthLimit : Nat := 127

/-- The tree of a text whose every part stands for a value. -/
def parse (s : String) : Option Json := do
  let value ← read s
  if value.sound && value.depth ≤ depthLimit then some value else none

end AbiBindings.Json
