import AbiBindings.Outline.Basic

/-!
# Reading outlines

The outline that an ABI document describes: an array of entries, or the array under the key `abi`
of a build artifact. A record may be an object, whose unknown keys are ignored, or the array of its
fields in order. Entries other than constructors, functions and events are checked and dropped; the
last constructor counts.

* `Outline.ofJson`: the outline of a document without repeated keys.
* `Outline.parse`: the outline of a text; of repeated keys the last counts.
-/

namespace AbiBindings.Outline

/-! ## Records -/

/-- The fields of a record: the members of an object, or the items of an array that holds at least
`least` of them. -/
def record? (keys : List String) (least : Nat) : Json → Option (List (String × Json))
  | .object members => some members
  | .array items =>
    if least ≤ items.length && items.length ≤ keys.length then some (keys.zip items) else none
  | _ => none

/-- A field of a record, or the default if it is missing. -/
def fieldOr (fields : List (String × Json)) (key : String) (read : Json → Option α) (default : α) :
    Option α :=
  match fields.lookup key with
  | none => some default
  | some value => read value

/-- A text, or none for null. -/
def optionalText? : Json → Option (Option String)
  | .null => some none
  | value => value.text?.map some

/-- The items of an array, each read. -/
def list? (read : Json → Option α) : Json → Option (List α)
  | .array items => items.mapM read
  | _ => none

/-- The items of an array, each read, or none for null. -/
def optionalList? (read : Json → Option α) : Json → Option (Option (List α))
  | .null => some none
  | value => (list? read value).map some

/-! ## Entries -/

/-- A parameter of a document at most `fuel` levels deep. -/
def Param.read? : Nat → Json → Option Param
  | 0, _ => none
  | fuel + 1, j => do
    let fields ← record? ["name", "type", "components", "indexed"] 2 j
    let name ← fieldOr fields "name" Json.text? ""
    let type ← (← fields.lookup "type").text?
    let components ← fieldOr fields "components" (optionalList? (Param.read? fuel)) none
    let indexed ← fieldOr fields "indexed" Json.bool? false
    some ⟨name, type, components, indexed⟩

/-- A parameter. -/
def Param.ofJson? (j : Json) : Option Param := Param.read? (j.depth + 1) j

/-- An entry of a document. -/
structure Entry where
  kind : String
  name? : Option String
  inputs : List Param
  outputs : List Param
  mutability? : Option String
  constant : Bool
  payable : Bool
  anonymous : Bool
  deriving DecidableEq

/-- The keys of an entry in order. -/
def Entry.keys : List String := [
  "type", "name", "inputs", "outputs", "stateMutability", "constant", "payable", "anonymous"]

/-- An entry. -/
def Entry.ofJson? (j : Json) : Option Entry := do
  let fields ← record? Entry.keys 5 j
  some {
    kind := ← fieldOr fields "type" Json.text? "function"
    name? := ← fieldOr fields "name" optionalText? none
    inputs := ← fieldOr fields "inputs" (list? Param.ofJson?) []
    outputs := ← fieldOr fields "outputs" (list? Param.ofJson?) []
    mutability? := ← fieldOr fields "stateMutability" optionalText? none
    constant := ← fieldOr fields "constant" Json.bool? false
    payable := ← fieldOr fields "payable" Json.bool? false
    anonymous := ← fieldOr fields "anonymous" Json.bool? false }

/-- What the entry says about the state, or what its older flags say. -/
def Entry.mutability (e : Entry) : String :=
  match e.mutability? with
  | some word => word
  | none => if e.constant then "view" else if e.payable then "payable" else "nonpayable"

/-- The function of an entry; without a name it is named for its kind. -/
def Entry.function (e : Entry) : Function where
  name := e.name?.getD e.kind
  inputs := e.inputs
  outputs := e.outputs
  mutability := e.mutability

/-! ## Outlines -/

/-- An outline with one more entry. -/
def addEntry (o : Outline) (e : Entry) : Except Error Outline :=
  match checkParams (e.inputs ++ e.outputs) with
  | .error fault => .error fault
  | .ok () =>
    match e.kind with
    | "constructor" => .ok { o with constructor? := some e.function }
    | "function" => .ok { o with functions := o.functions ++ [e.function] }
    | "event" =>
      match e.name? with
      | some name => .ok { o with events := o.events ++ [⟨name, e.inputs, e.anonymous⟩] }
      | none => .error (.abi .unnamedEvent)
    | _ => .ok o

/-- An outline with more entries in order. -/
def addEntries (o : Outline) : List Entry → Except Error Outline
  | [] => .ok o
  | e :: rest =>
    match o.addEntry e with
    | .error fault => .error fault
    | .ok o => o.addEntries rest

/-- The outline of an array of entries. -/
def ofEntries (document : Json) : Except Error Outline :=
  match list? Entry.ofJson? document with
  | none => .error (.abi .badDocument)
  | some entries => addEntries ⟨none, [], [], document⟩ entries

/-- The outline of a document without repeated keys. -/
def ofJson (document : Json) : Except Error Outline :=
  match document.member? "abi" with
  | some abi => ofEntries abi
  | none => ofEntries document

/-- The outline of a text. -/
def parse (text : String) : Except Error Outline :=
  match Json.parse text with
  | none => .error (.abi .notJson)
  | some document => ofJson document.normal

end AbiBindings.Outline
