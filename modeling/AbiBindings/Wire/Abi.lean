import AbiBindings.Metadata
import AbiBindings.Outline.Basic
import AbiBindings.Wire.Basic

/-!
# ABI values and interfaces as documents

* `token`, `token?`: an ABI value, as an object with its kind as the only key.
* `interface`, `outline`: what a contract offers, with types as texts.
-/

namespace AbiBindings.Wire

open Abi (Token)

/-! ## Values -/

mutual

/-- An ABI value. -/
def token : Token → Json
  | .address a => .object [("address", fixed a)]
  | .uint w => .object [("uint", decimal w.toNat)]
  | .int w => .object [("int", signed w)]
  | .bool b => .object [("bool", .bool b)]
  | .string s => .object [("string", .text s)]
  | .bytes b => .object [("bytes", hex b)]
  | .fixed b => .object [("fixed", hex b)]
  | .array items => .object [("array", .array (tokens items))]
  | .farray items => .object [("farray", .array (tokens items))]
  | .tuple items => .object [("tuple", .array (tokens items))]

/-- ABI values. -/
def tokens : List Token → List Json
  | [] => []
  | t :: rest => token t :: tokens rest

end

/-- An ABI value that is at most `fuel` levels deep. -/
def tokenWithin? : Nat → Json → Option Token
  | 0, _ => none
  | fuel + 1, j => do
    match ← members? j with
    | [("address", v)] => (fixed? 20 v).map .address
    | [("uint", v)] => (word? v).map .uint
    | [("int", v)] => (word? v).map .int
    | [("bool", v)] => v.bool?.map .bool
    | [("string", v)] => v.text?.map .string
    | [("bytes", v)] => (bytes? v).map .bytes
    | [("fixed", v)] => (bytes? v).map .fixed
    | [("array", v)] => (list? (tokenWithin? fuel) v).map .array
    | [("farray", v)] => (list? (tokenWithin? fuel) v).map .farray
    | [("tuple", v)] => (list? (tokenWithin? fuel) v).map .tuple
    | _ => none

/-- An ABI value. -/
def token? (j : Json) : Option Token := tokenWithin? (j.depth + 1) j

/-! ## Interfaces -/

/-- The word for a mutability. -/
def mutabilityName : Abi.Mutability → String
  | .pure => "Pure"
  | .view => "View"
  | .nonpayable => "NonPayable"
  | .payable => "Payable"

/-- The types of parameters. -/
def paramTypes (params : List Abi.Param) : Json := .text (Abi.Ty.list (params.map (·.type)))

/-- A function. -/
def function (f : Abi.Function) : Json := .object [
  ("name", .text f.name), ("inputs", paramTypes f.inputs), ("outputs", paramTypes f.outputs),
  ("mutability", .text (mutabilityName f.mutability)), ("selector", hex f.selector)]

/-- An event. -/
def event (e : Abi.Event) : Json := .object [
  ("name", .text e.name), ("inputs", .text (Abi.Ty.list e.inputTypes)),
  ("indexed", list (fun p => .bool p.indexed) e.inputs), ("anonymous", .bool e.anonymous),
  ("topic", fixed e.topic)]

/-- An interface. -/
def interface (i : Abi.Interface) : Json := .object [
  ("constructor", optional paramTypes i.constructor?), ("functions", list function i.functions),
  ("events", list event i.events)]

/-- The length of a byte string and its hash. -/
def digest (b : Bytes) : Json :=
  .object [("len", count b.length), ("keccak", fixed (keccak256 b))]

/-! ## Outlines -/

mutual

/-- A parameter of an outline. -/
def outlineParam : Outline.Param → Json
  | ⟨name, type, components?, indexed⟩ =>
    .object ([("name", .text name), ("type", .text type), ("indexed", .bool indexed)] ++
      componentMember components?)

/-- The member for components, if there are any. -/
def componentMember : Option (List Outline.Param) → List (String × Json)
  | none => []
  | some params => [("components", .array (outlineParams params))]

/-- Parameters of an outline. -/
def outlineParams : List Outline.Param → List Json
  | [] => []
  | p :: rest => outlineParam p :: outlineParams rest

end

/-- A function of an outline with its selector, which a constructor has not. -/
def outlineFunction (selector? : Option Bytes) (f : Outline.Function) : Json := .object [
  ("name", .text f.name), ("inputs", .array (outlineParams f.inputs)),
  ("outputs", .array (outlineParams f.outputs)), ("state_mutability", .text f.mutability),
  ("constant", .bool f.isConstant), ("selector", optional hex selector?)]

/-- An event of an outline. -/
def outlineEvent (e : Outline.Event) : Json := .object [
  ("name", .text e.name), ("inputs", .array (outlineParams e.inputs)),
  ("anonymous", .bool e.anonymous), ("topic", fixed e.topic)]

/-- An outline, followed by the signatures of its entries and how its functions fall into groups. -/
def outline (o : Outline) : Json := .object [
  ("constructor", optional (outlineFunction none) o.constructor?),
  ("functions", list (fun f => outlineFunction (some f.selector) f) o.functions),
  ("events", list outlineEvent o.events),
  ("function_signatures", list (fun f => .text f.humanSignature) o.functions),
  ("event_signatures",
    list (fun e => .array [.text e.signature, .text e.humanSignature]) o.events),
  ("view", list (fun f => hex f.selector) o.views),
  ("transaction", list (fun f => hex f.selector) o.transactions),
  ("overloaded", list (fun f => .bool (o.isOverloaded f.name)) o.functions)]

end AbiBindings.Wire
