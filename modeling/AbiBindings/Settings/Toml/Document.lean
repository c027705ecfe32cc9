import AbiBindings.Settings.Toml.Value

/-!
# TOML documents

A document is a list of lines. A header opens a section, a doubled one a further section of a list
of sections, and the fields that follow belong to it.

* `openSection?`, `openItem?`, `putAt?`: what a header or a field makes of the fields so far.
* `Setting.ofTomlText?`: the settings document of a text.
* `Dialect.toml`: a list may be longer than its section, and an empty list or section follows the
  word of a choice.
-/

namespace AbiBindings

/-- The rules of TOML settings. -/
def Dialect.toml : Dialect where
  surplus := true
  closes
    | .list [] | .table [] => true
    | _ => false

namespace Toml

/-- Changes the section that a path of headers leads to. Missing sections on the way are made, and a
list of sections leads to the open one. -/
def inSection? (change : Fields → Option Fields) : List String → Fields → Option Fields
  | [], fields => change fields
  | key :: path, fields =>
    match field? fields key with
    | none => (inSection? change path []).map fun inner => fields ++ [(key, .header .below inner)]
    | some (.header origin inner) =>
      (inSection? change path inner).map fun inner => putField key (.header origin inner) fields
    | some (.headers inner closed) =>
      (inSection? change path inner).map fun inner => putField key (.headers inner closed) fields
    | some _ => none

/-- Opens the section of a key. It must be new, or so far only have sections below it. -/
def openHere? (key : String) (fields : Fields) : Option Fields :=
  match field? fields key with
  | none => some (fields ++ [(key, .header .own [])])
  | some (.header .below inner) => some (putField key (.header .own inner) fields)
  | some _ => none

/-- Opens a further section of the list of a key. -/
def openItemHere? (key : String) (fields : Fields) : Option Fields :=
  match field? fields key with
  | none => some (fields ++ [(key, .headers [] [])])
  | some (.headers inner closed) =>
    some (putField key (.headers [] (closed ++ [.table (toMembers inner)])) fields)
  | some _ => none

/-- Opens the section of a path. -/
def openSection? (path : List String) (fields : Fields) : Option Fields :=
  match path.getLast? with
  | none => none
  | some key => inSection? (openHere? key) path.dropLast fields

/-- Opens a further section of the list of a path. -/
def openItem? (path : List String) (fields : Fields) : Option Fields :=
  match path.getLast? with
  | none => none
  | some key => inSection? (openItemHere? key) path.dropLast fields

/-- The section that a key with points may lead into: one without a header of its own, and right
before the field only one that such keys made. -/
def enterHeader? (last : Bool) : Field → Option Opening
  | .header .dotted fields => some ⟨fields, .header .dotted⟩
  | .header .below fields => if last then none else some ⟨fields, .header .below⟩
  | .headers fields closed =>
    if last then none else some ⟨fields, fun inner => .headers inner closed⟩
  | _ => none

/-- Puts a field into the section of a path. -/
def putAt? (path key : List String) (field : Field) (fields : Fields) : Option Fields :=
  inSection? (putDotted ⟨[], .header .dotted⟩ enterHeader? field key) path fields

/-- The fields so far and the path of the open section. -/
structure Draft where
  fields : Fields
  path : List String

/-- A line with a header or a field, without the end of the line. -/
def readLine (d : Draft) (cs : List Char) : Option (Draft × List Char) :=
  match cs with
  | '[' :: '[' :: rest => do
    let (path, rest) ← readKey rest
    let rest ← after? ']' (← after? ']' rest)
    some (⟨← openItem? path d.fields, path⟩, rest)
  | '[' :: rest => do
    let (path, rest) ← readKey rest
    let rest ← after? ']' rest
    some (⟨← openSection? path d.fields, path⟩, rest)
  | cs => do
    let (key, rest) ← readKey cs
    let rest ← after? '=' rest
    let (field, rest) ← readValue (2 * rest.length + 2) 0 (skipBlanks rest)
    some (⟨← putAt? d.path key field d.fields, d.path⟩, rest)

/-- The lines of a document, at most `fuel`. -/
def readLines : Nat → Draft → List Char → Option Draft
  | 0, _, _ => none
  | fuel + 1, d, cs =>
    match skipBlanks cs with
    | [] => some d
    | cs =>
      match endOfLine? cs with
      | some rest => readLines fuel d rest
      | none => do
        let (d, rest) ← readLine d cs
        match skipComment (skipBlanks rest) with
        | [] => some d
        | rest => readLines fuel d (← lineBreak? rest)

/-- A text without the mark of byte order in front. -/
def skipByteOrderMark : List Char → List Char
  | c :: rest => if c.toNat = 0xfeff then rest else c :: rest
  | [] => []

end Toml

namespace Setting

/-- The settings document of a TOML text. -/
def ofTomlText? (s : String) : Option Setting :=
  let cs := Toml.skipByteOrderMark s.toList
  (Toml.readLines (cs.length + 1) ⟨[], []⟩ cs).map fun d => .table (Toml.toMembers d.fields)

end Setting

end AbiBindings
