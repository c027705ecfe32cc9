import AbiBindings.Outline.Basic

/-!
# Names in generated modules

* `argumentName`: the name of an argument or field; one without a name is named for its position.
* `distinctNames`: repeated names are told apart by numbers, names that are already taken count as
  seen once.
* `typeName`: the type that holds a value of an ABI type.
* `fieldType`: the same for a field of an event, of which a topic may keep only the hash.
-/

namespace AbiBindings.Generate

/-- Words that cannot name an argument or a method, or that the text around one already uses. -/
def reserved : List String := [
  "as", "async", "await", "box", "break", "const", "continue", "crate", "dyn", "else", "enum",
  "extern", "false", "fn", "for", "if", "impl", "in", "let", "loop", "match", "mod", "move", "mut",
  "pub", "ref", "return", "self", "static", "struct", "super", "trait", "true", "type", "unsafe",
  "use", "where", "while", "yield", "opts", "sink", "log", "backend"]

/-- Methods that every generated type has. -/
def fixedMethods : List String := [
  "new", "from_handle", "deploy", "address", "handle", "session", "caller_session",
  "transactor_session"]

/-- A name with an underscore behind it if it is reserved. -/
def escape (name : String) : String := if reserved.contains name then name ++ "_" else name

/-- The name of the argument or field at a position. -/
def argumentName (p : Outline.Param) (position : Nat) : String :=
  let name := Text.snakeCase p.name
  if name = "" then "arg" ++ toString position else escape name

/-- A name that was seen some times before. -/
def numbered (name : String) : Nat → String
  | 0 => name
  | n + 1 => name ++ toString n

/-- Tells repeated names apart, given the names before them. -/
def distinctAfter (seen : List String) : List String → List String
  | [] => []
  | name :: rest => numbered name (seen.count name) :: distinctAfter (name :: seen) rest

/-- Tells repeated names apart; every taken name counts as seen once. -/
def distinctNames (taken names : List String) : List String := distinctAfter taken.eraseDups names

/-! ## Types -/

/-- The last dimension of a type text: what precedes it, and what stands inside its brackets. -/
def lastDimension? (cs : List Char) : Option (List Char × List Char) :=
  match cs.reverse with
  | ']' :: backwards =>
    match backwards.dropWhile (· ≠ '[') with
    | _ :: base => some (base.reverse, (backwards.takeWhile (· ≠ '[')).reverse)
    | [] => none
  | _ => none

theorem length_of_lastDimension? {cs base inside : List Char}
    (h : lastDimension? cs = some (base, inside)) : base.length < cs.length := by
  unfold lastDimension? at h
  split at h
  · next backwards hcs =>
    split at h
    · next c rest hrest =>
      obtain ⟨rfl, -⟩ := by simpa using h
      have hlen : rest.length + 1 ≤ backwards.length := by
        rw [← List.length_cons (a := c), ← hrest]
        exact (List.dropWhile_suffix _).length_le
      have : cs.length = backwards.length + 1 := by
        rw [← List.length_reverse, hcs, List.length_cons]
      simp only [List.length_reverse]
      omega
    · simp at h
  · simp at h

/-- The width that a type text gives after its word; 256 bits if that is no number. -/
def bitWidth (cs : List Char) : Nat := (Text.naturalBelow? UInt32.size cs).getD 256

/-- The integer type of at least a width: a letter and 8 to 128 bits, or the name for more. -/
def integerName (letter wide : String) (width : Nat) : String :=
  if width ≤ 8 then letter ++ "8"
  else if width ≤ 16 then letter ++ "16"
  else if width ≤ 32 then letter ++ "32"
  else if width ≤ 64 then letter ++ "64"
  else if width ≤ 128 then letter ++ "128"
  else wide

/-- The type that holds a value of an ABI type without dimensions. -/
def wordTypeName (cs : List Char) : String :=
  match String.ofList cs with
  | "bool" => "bool"
  | "address" => "Address"
  | "string" => "String"
  | "bytes" => "Bytes"
  | "bytes32" => "H256"
  | _ =>
    match Text.afterStart? "bytes".toList cs, Text.afterStart? "uint".toList cs,
      Text.afterStart? "int".toList cs with
    | some size, _, _ => "[u8; " ++ String.ofList size ++ "]"
    | _, some digits, _ => integerName "u" "U256" (bitWidth digits)
    | _, _, some digits => integerName "i" "I256" (bitWidth digits)
    | none, none, none => "Token"

/-- Whether a type text starts with the word of a tuple. -/
def isTuple (cs : List Char) : Bool := Outline.tupleWord.isPrefixOf cs

/-- The type that holds a value of an ABI type: a vector for a dynamic array, an untyped value for
tuples and arrays of them. -/
def typeNameOf (cs : List Char) : String :=
  match _h : lastDimension? cs with
  | some (base, []) => "Vec<" ++ typeNameOf base ++ ">"
  | some (base, size) =>
    if isTuple cs then "Token" else "[" ++ typeNameOf base ++ "; " ++ String.ofList size ++ "]"
  | none => if isTuple cs then "Token" else wordTypeName cs
termination_by cs.length
decreasing_by
  · exact length_of_lastDimension? _h
  · exact length_of_lastDimension? _h

/-- The type that holds a value of an ABI type. -/
def typeName (type : String) : String := typeNameOf type.toList

/-- Whether a topic keeps only the hash of a value of the type. -/
def isHashed (type : String) : Bool :=
  type == "string" || type == "bytes" || type.toList.getLast? == some ']' || isTuple type.toList

/-- The type of a field of an event. -/
def fieldType (p : Outline.Param) : String :=
  if p.indexed && isHashed p.type then "H256" else typeName p.type

end AbiBindings.Generate
