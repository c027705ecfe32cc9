import AbiBindings.Abi.Ty
import AbiBindings.Keccak

/-!
# Contract interfaces

The callable and observable part of a contract: its constructor, functions and events. Functions and
events are ordered by name, those of one name as they were declared.

* `Function.selector`, `Event.topic`: the hash of the canonical signature, cut to four bytes for a
  function.
* `Interface.function?`: the function that a name or, for overloads, a full signature selects.
* `Interface.event?`: the event of a canonical signature.
-/

namespace AbiBindings.Abi

/-- A named value of a type. -/
structure Param where
  name : String
  type : Ty
  deriving DecidableEq, Inhabited

/-- What a function may do to the state. -/
inductive Mutability where
  | pure
  | view
  | nonpayable
  | payable
  deriving Repr, DecidableEq, Inhabited

/-- A function of a contract. -/
structure Function where
  name : String
  inputs : List Param
  outputs : List Param
  mutability : Mutability
  deriving DecidableEq, Inhabited

/-- An argument of an event, indexed if it is stored as a topic. -/
structure EventParam where
  name : String
  type : Ty
  indexed : Bool
  deriving DecidableEq, Inhabited

/-- An event of a contract. -/
structure Event where
  name : String
  inputs : List EventParam
  anonymous : Bool
  deriving DecidableEq, Inhabited

/-- What a contract offers. -/
structure Interface where
  /-- The inputs of the constructor, if there is one. -/
  constructor? : Option (List Param)
  functions : List Function
  events : List Event
  deriving DecidableEq, Inhabited

/-- The types of the inputs. -/
def Function.inputTypes (f : Function) : List Ty := f.inputs.map (·.type)

/-- The types of the outputs. -/
def Function.outputTypes (f : Function) : List Ty := f.outputs.map (·.type)

/-- The canonical signature. -/
def Function.signature (f : Function) : String := Abi.signature f.name f.inputTypes

/-- The four bytes at the front of a hash. -/
def selectorOfHash (h : Hash) : Bytes := h.toList.take 4

/-- The four bytes that select the function in calldata. -/
def Function.selector (f : Function) : Bytes := selectorOfHash (Keccak.ofText f.signature)

/-- The types of the arguments. -/
def Event.inputTypes (e : Event) : List Ty := e.inputs.map (·.type)

/-- The canonical signature. -/
def Event.signature (e : Event) : String := Abi.signature e.name e.inputTypes

/-- The hash of the signature, the first topic of a log of the event. -/
def Event.topic (e : Event) : Hash := Keccak.ofText e.signature

/-- Puts an entry behind those whose name is not greater. -/
def insertByName (name : α → String) (entry : α) : List α → List α
  | [] => [entry]
  | x :: rest =>
    if name entry < name x then entry :: x :: rest else x :: insertByName name entry rest

/-- The entries ordered by name, those of one name in the given order. -/
def orderedByName (name : α → String) (entries : List α) : List α :=
  entries.foldl (fun sorted entry => insertByName name entry sorted) []

/-- The function that a name or a full signature selects: a text with a parenthesis is compared by
its four bytes, any other with the names. -/
def Interface.function? (i : Interface) (method : String) : Option Function :=
  if method.toList.contains '(' then
    let selector := selectorOfHash (Keccak.ofText method)
    i.functions.find? fun f => f.selector == selector
  else i.functions.find? fun f => f.name == method

/-- The event of a canonical signature. -/
def Interface.event? (i : Interface) (signature : String) : Option Event :=
  let topic := Keccak.ofText signature
  i.events.find? fun e => e.topic == topic

end AbiBindings.Abi
