import AbiBindings.Settings.Toml.Scalar

/-!
# Values of TOML

* `Fields`: the fields of a section with what is known of each subsection: whether keys with points
  or headers made it.
* `putDotted`: a field behind a key with points.
* `readValue`: a text, a truth value, a number, a date, a list or an inline section.
* `Fields.toMembers`: the fields as settings.
-/

namespace AbiBindings.Toml

/-- How a section came to be. -/
inductive Origin where
  /-- Its own header or braces. -/
  | own
  /-- Only headers of sections below it. -/
  | below
  /-- Keys with points. -/
  | dotted
  deriving Repr, DecidableEq

/-- What a key stands for. -/
inductive Field where
  | value (s : Setting)
  | braces (origin : Origin) (fields : List (String × Field))
  | header (origin : Origin) (fields : List (String × Field))
  /-- Sections of one name, the open one first. -/
  | headers (open_ : List (String × Field)) (closed : List Setting)
  deriving Inhabited

/-- The fields of a section. -/
abbrev Fields := List (String × Field)

mutual

/-- A field as a setting. -/
def Field.toSetting : Field → Setting
  | .value s => s
  | .braces _ fields => .table (toMembers fields)
  | .header _ fields => .table (toMembers fields)
  | .headers fields closed => .list (closed ++ [.table (toMembers fields)])

/-- The fields of a section as settings. -/
def toMembers : Fields → List (String × Setting)
  | [] => []
  | (key, field) :: rest => (key, field.toSetting) :: toMembers rest

end

/-- What a key stands for. -/
def field? (fields : Fields) (key : String) : Option Field := fields.lookup key

/-- Puts a field in place of the one of its key, or behind all others. -/
def putField (key : String) (field : Field) : Fields → Fields
  | [] => [(key, field)]
  | (k, f) :: rest => if k = key then (k, field) :: rest else (k, f) :: putField key field rest

/-- The fields with one more, none if its key is taken. -/
def addField? (key : String) (field : Field) (fields : Fields) : Option Fields :=
  match field? fields key with
  | some _ => none
  | none => some (fields ++ [(key, field)])

/-- A section that a key leads into: its fields, and what becomes of it when they change. -/
structure Opening where
  fields : Fields
  close : Fields → Field

/-- Puts a field behind the parts of a key. Missing sections on the way are made by `fresh`; of the
others `enter?` says which one the key may lead into, the last one before the field being special.
-/
def putDotted (fresh : Opening) (enter? : Bool → Field → Option Opening) (field : Field) :
    List String → Fields → Option Fields
  | [], _ => none
  | [key], fields => addField? key field fields
  | key :: next :: parts, fields =>
    match field? fields key with
    | none => (putDotted fresh enter? field (next :: parts) fresh.fields).map fun inner =>
        fields ++ [(key, fresh.close inner)]
    | some f => do
      let o ← enter? parts.isEmpty f
      let inner ← putDotted fresh enter? field (next :: parts) o.fields
      some (putField key (o.close inner) fields)

/-- The section in braces that keys with points made. -/
def enterBraces? (_ : Bool) : Field → Option Opening
  | .braces .dotted fields => some ⟨fields, .braces .dotted⟩
  | _ => none

/-- Puts a field into a section in braces. -/
def putInBraces (key : List String) (field : Field) (fields : Fields) : Option Fields :=
  putDotted ⟨[], .braces .dotted⟩ enterBraces? field key fields

/-- The deepest nesting of lists and sections in braces. -/
def nestingLimit : Nat := 79

mutual

/-- A value that stands inside `nesting` lists and sections in braces. -/
def readValue : Nat → Nat → List Char → Option (Field × List Char)
  | 0, _, _ => none
  | fuel + 1, nesting, cs =>
    match cs with
    | '[' :: rest =>
      if nesting < nestingLimit then do
        let (items, rest) ← readItems fuel (nesting + 1) (skipLines rest)
        some (.value (.list items), rest)
      else none
    | '\x7b' :: rest =>
      if nesting < nestingLimit then
        match skipBlanks rest with
        | '\x7d' :: rest => some (.braces .own [], rest)
        | rest => do
          let (fields, rest) ← readFields fuel (nesting + 1) [] rest
          some (.braces .own fields, rest)
      else none
    | 't' :: 'r' :: 'u' :: 'e' :: rest => some (.value (.bool true), rest)
    | 'f' :: 'a' :: 'l' :: 's' :: 'e' :: rest => some (.value (.bool false), rest)
    | '"' :: _ | '\'' :: _ =>
      (readQuoted cs).map fun r => (.value (.text (String.ofList r.1)), r.2)
    | _ => (readNumber cs).map fun r => (.value r.1, r.2)

/-- The items of a list and the bracket that ends it; a comma may follow the last one. -/
def readItems : Nat → Nat → List Char → Option (List Setting × List Char)
  | 0, _, _ => none
  | fuel + 1, nesting, cs =>
    match cs with
    | ']' :: rest => some ([], rest)
    | _ => do
      let (item, rest) ← readValue fuel nesting cs
      match skipLines rest with
      | ']' :: rest => some ([item.toSetting], rest)
      | ',' :: rest => do
        let (items, rest) ← readItems fuel nesting (skipLines rest)
        some (item.toSetting :: items, rest)
      | _ => none

/-- The fields of a section in braces and the brace that ends it, on one line. -/
def readFields : Nat → Nat → Fields → List Char → Option (Fields × List Char)
  | 0, _, _, _ => none
  | fuel + 1, nesting, fields, cs => do
    let (key, rest) ← readKey cs
    let rest ← after? '=' rest
    let (field, rest) ← readValue fuel nesting (skipBlanks rest)
    let fields ← putInBraces key field fields
    match skipBlanks rest with
    | '\x7d' :: rest => some (fields, rest)
    | ',' :: rest => readFields fuel nesting fields rest
    | _ => none

end

end AbiBindings.Toml
