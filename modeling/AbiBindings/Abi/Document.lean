import AbiBindings.Abi.Interface
import AbiBindings.Abi.TypeText
import AbiBindings.Json.Reader

/-!
# Reading ABI documents

The interface that an ABI document describes: an array of entries, each tagged by `type`. Known keys
must not be repeated, unknown keys are ignored, and an entry may also be an array of its tag and its
fields in order. The last constructor counts; errors, fallback and receive entries are checked and
dropped.

* `Interface.ofJson?`: the interface of a document.
* `Interface.parse?`: the interface of a text.
-/

namespace AbiBindings.Abi

/-- The members of a document that is an object. -/
def members? : Json → Option (List (String × Json))
  | .object members => some members
  | _ => none

/-- The items of a document that is an array. -/
def items? : Json → Option (List Json)
  | .array items => some items
  | _ => none

/-- The values of a key. -/
def valuesOf (key : String) (members : List (String × Json)) : List Json :=
  (members.filter fun m => m.1 == key).map (·.2)

/-- The value of a key that may be missing; none at all if the key is repeated. -/
def optionalField? (key : String) (members : List (String × Json)) : Option (Option Json) :=
  match valuesOf key members with
  | [] => some none
  | [value] => some (some value)
  | _ => none

/-- The value of a key that must be there once. -/
def field? (key : String) (members : List (String × Json)) : Option Json :=
  match valuesOf key members with
  | [value] => some value
  | _ => none

/-- Puts the components into the tuple at the bottom of a type, none if it needs some and has none.
-/
def fillTuple? (components : Option (List Ty)) : Ty → Option Ty
  | .array item => (fillTuple? components item).map .array
  | .farray item size => (fillTuple? components item).map fun item => .farray item size
  | .tuple items => components.map fun more => .tuple (items ++ more)
  | t => some t

/-- The type that a parameter names, with its components. -/
def typeWith? (text : Json) (components : Option (List Ty)) : Option Ty := do
  let text ← text.text?
  let type ← Ty.ofText? text
  fillTuple? components type

/-- Checks a key that may be missing and else holds a text. -/
def textOrMissing? (key : String) (members : List (String × Json)) : Option Unit := do
  match ← optionalField? key members with
  | none => some ()
  | some value => value.text?.map fun _ => ()

mutual

/-- The types of components at most `fuel` levels deep. -/
def componentTypes? : Nat → List Json → Option (List Ty)
  | 0, _ => none
  | _ + 1, [] => some []
  | fuel + 1, item :: rest => do
    let members ← members? item
    textOrMissing? "name" members
    textOrMissing? "internalType" members
    let type ← typeOf? fuel members
    let types ← componentTypes? fuel rest
    some (type :: types)

/-- The type of a parameter from its members. -/
def typeOf? : Nat → List (String × Json) → Option Ty
  | 0, _ => none
  | fuel + 1, members => do
    let text ← field? "type" members
    match ← optionalField? "components" members with
    | none => typeWith? text none
    | some components => do
      let items ← items? components
      let types ← componentTypes? fuel items
      typeWith? text (some types)

end

mutual

/-- The number of nodes of a document. -/
def nodes : Json → Nat
  | .array items => 1 + nodesOfItems items
  | .object members => 1 + nodesOfMembers members
  | _ => 1

/-- The number of nodes of the items. -/
def nodesOfItems : List Json → Nat
  | [] => 1
  | x :: rest => nodes x + nodesOfItems rest

/-- The number of nodes of the members. -/
def nodesOfMembers : List (String × Json) → Nat
  | [] => 1
  | (_, x) :: rest => nodes x + nodesOfMembers rest

end

/-- A parameter of a function or constructor. -/
def Param.ofJson? (j : Json) : Option Param := do
  let members ← members? j
  let name ← (← field? "name" members).text?
  textOrMissing? "internalType" members
  let type ← typeOf? (2 * nodes j) members
  some ⟨name, type⟩

/-- A parameter of an event. -/
def EventParam.ofJson? (j : Json) : Option EventParam := do
  let members ← members? j
  let name ← (← field? "name" members).text?
  let type ← typeOf? (2 * nodes j) members
  let indexed ←
    match ← optionalField? "indexed" members with
    | none => some false
    | some value => value.bool?
  some ⟨name, type, indexed⟩

/-- The parameters of an array. -/
def params? (j : Json) : Option (List Param) := do (← items? j).mapM Param.ofJson?

/-- The event parameters of an array. -/
def eventParams? (j : Json) : Option (List EventParam) := do (← items? j).mapM EventParam.ofJson?

/-- A name up to its first opening parenthesis. -/
def cutName (name : String) : String := String.ofList (name.toList.takeWhile (· ≠ '('))

/-- A name that is a text. -/
def name? (j : Json) : Option String := j.text?.map cutName

/-- A mutability by its word. -/
def Mutability.ofJson? (j : Json) : Option Mutability :=
  match j with
  | .text "pure" => some .pure
  | .text "view" => some .view
  | .text "nonpayable" => some .nonpayable
  | .text "payable" => some .payable
  | _ => none

/-- Checks an obsolete flag: a truth value or null. -/
def flag? : Json → Option Unit
  | .null | .bool _ => some ()
  | _ => none

/-- An entry of a document. -/
inductive Entry where
  | constructor (inputs : List Param)
  | function (f : Function)
  | event (e : Event)
  | dropped

/-- A function from its fields. -/
def function? (name inputs outputs : Json) (constant mutability : Option Json) : Option Entry := do
  let name ← name? name
  let inputs ← params? inputs
  let outputs ← params? outputs
  match constant with
  | none => some ()
  | some value => flag? value
  let mutability ←
    match mutability with
    | none => some .nonpayable
    | some value => Mutability.ofJson? value
  some (.function ⟨name, inputs, outputs, mutability⟩)

/-- An event from its fields. -/
def event? (name inputs anonymous : Json) : Option Entry := do
  let name ← name? name
  let inputs ← eventParams? inputs
  let anonymous ← anonymous.bool?
  some (.event ⟨name, inputs, anonymous⟩)

/-- An error from its fields. -/
def error? (name inputs : Json) : Option Entry := do
  let _ ← name? name
  let _ ← params? inputs
  some .dropped

/-- An entry from its tag and its members. -/
def entryOfMembers? (tag : String) (members : List (String × Json)) : Option Entry :=
  match tag with
  | "constructor" => do
    let inputs ← params? (← field? "inputs" members)
    some (.constructor inputs)
  | "function" => do
    function? (← field? "name" members) (← field? "inputs" members) (← field? "outputs" members)
      (← optionalField? "constant" members) (← optionalField? "stateMutability" members)
  | "event" => do
    event? (← field? "name" members) (← field? "inputs" members) (← field? "anonymous" members)
  | "error" => do error? (← field? "name" members) (← field? "inputs" members)
  | "fallback" | "receive" => some .dropped
  | _ => none

/-- An entry from its tag and its fields in order; none may be left. -/
def entryOfItems? (tag : String) (items : List Json) : Option Entry :=
  match tag, items with
  | "constructor", [inputs] => (params? inputs).map .constructor
  | "function", [name, inputs, outputs, constant] =>
    function? name inputs outputs (some constant) none
  | "function", [name, inputs, outputs, constant, mutability] =>
    function? name inputs outputs (some constant) (some mutability)
  | "event", [name, inputs, anonymous] => event? name inputs anonymous
  | "error", [name, inputs] => error? name inputs
  | "fallback", [] | "receive", [] => some .dropped
  | _, _ => none

/-- An entry of a document. -/
def Entry.ofJson? : Json → Option Entry
  | .object members => do
    let tag ← (← field? "type" members).text?
    entryOfMembers? tag members
  | .array (tag :: items) => do
    let tag ← tag.text?
    entryOfItems? tag items
  | _ => none

/-- The functions among the entries. -/
def Entry.functions (entries : List Entry) : List Function :=
  entries.filterMap fun
    | .function f => some f
    | _ => none

/-- The events among the entries. -/
def Entry.events (entries : List Entry) : List Event :=
  entries.filterMap fun
    | .event e => some e
    | _ => none

/-- The last constructor among the entries. -/
def Entry.constructor? (entries : List Entry) : Option (List Param) :=
  (entries.filterMap fun
    | .constructor inputs => some inputs
    | _ => none).getLast?

/-- The interface of the entries. -/
def Interface.ofEntries (entries : List Entry) : Interface where
  constructor? := Entry.constructor? entries
  functions := orderedByName (·.name) (Entry.functions entries)
  events := orderedByName (·.name) (Entry.events entries)

/-- The interface that a document describes. -/
def Interface.ofJson? : Json → Option Interface
  | .array items => (items.mapM Entry.ofJson?).map Interface.ofEntries
  | _ => none

/-- The interface that a text describes. -/
def Interface.parse? (text : String) : Option Interface := do
  Interface.ofJson? (← Json.parse text)

end AbiBindings.Abi
