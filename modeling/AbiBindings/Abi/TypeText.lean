import AbiBindings.Abi.Ty
import AbiBindings.Text.Digits

/-!
# Reading type texts

The type that a text in an ABI document names.

* `Ty.ofText?`: a trailing `[]` or `[n]` makes an array; text in parentheses is a tuple of the types
  between the commas; `int` and `uint` alone are 256 bits wide; `int`, `uint` and `bytes` must be
  followed by a number; every unknown word stands for an enumeration, which is a `uint8`.
-/

namespace AbiBindings.Abi

/-- The type of a word without dimensions. -/
def Ty.ofWord? (cs : List Char) : Option Ty :=
  match String.ofList cs with
  | "address" => some .address
  | "bytes" => some .bytes
  | "bool" => some .bool
  | "string" => some .string
  | "int" => some (.int 256)
  | "uint" => some (.uint 256)
  | "tuple" => some (.tuple [])
  | _ =>
    match Text.afterStart? "int".toList cs, Text.afterStart? "uint".toList cs,
      Text.afterStart? "bytes".toList cs with
    | some digits, _, _ => (Text.natural? digits).map .int
    | _, some digits, _ => (Text.natural? digits).map .uint
    | _, _, some digits => (Text.natural? digits).map .fixed
    | none, none, none => some (.uint 8)

/-- The texts between the commas at the outer level of a text in parentheses. The text starts at
the given nesting, `item` holds the open item backwards. -/
def tupleItems? : Nat → List Char → List Char → Option (List (List Char))
  | _, _, [] => none
  | nesting, item, c :: rest =>
    if c = '(' then
      if nesting = 0 then tupleItems? 1 [] rest else tupleItems? (nesting + 1) (c :: item) rest
    else if c = ')' then
      if nesting = 0 then none
      else if nesting = 1 then
        match rest with
        | [] => some (if item.isEmpty then [] else [item.reverse])
        | _ => none
      else tupleItems? (nesting - 1) (c :: item) rest
    else if c = ',' ∧ nesting = 1 then (tupleItems? 1 [] rest).map (item.reverse :: ·)
    else if nesting = 0 then none
    else tupleItems? nesting (c :: item) rest

/-- The last bracket of a text that ends in one: what precedes it, and what stands inside. -/
def lastDimension? (cs : List Char) : Option (List Char × List Char) :=
  match cs.reverse with
  | ']' :: backwards =>
    match backwards.dropWhile (· ≠ '[') with
    | '[' :: base => some (base.reverse, (backwards.takeWhile (· ≠ '[')).reverse)
    | _ => none
  | _ => none

mutual

/-- The type of a text at most `fuel` levels deep. -/
def Ty.ofChars? : Nat → List Char → Option Ty
  | 0, _ => none
  | fuel + 1, cs =>
    match cs.getLast? with
    | some ')' => do
      let items ← tupleItems? 0 [] cs
      let types ← Ty.ofAllChars? fuel items
      some (.tuple types)
    | some ']' => do
      let (base, inside) ← lastDimension? cs
      match inside with
      | [] => (Ty.ofChars? fuel base).map .array
      | _ => do
        let size ← Text.natural? inside
        let item ← Ty.ofChars? fuel base
        some (.farray item size)
    | _ => Ty.ofWord? cs

/-- The types of the texts. -/
def Ty.ofAllChars? : Nat → List (List Char) → Option (List Ty)
  | 0, _ => none
  | _ + 1, [] => some []
  | fuel + 1, cs :: rest => do
    let t ← Ty.ofChars? fuel cs
    let types ← Ty.ofAllChars? fuel rest
    some (t :: types)

end

/-- The type that a text names. -/
def Ty.ofText? (s : String) : Option Ty := Ty.ofChars? (2 * s.length + 2) s.toList

end AbiBindings.Abi
