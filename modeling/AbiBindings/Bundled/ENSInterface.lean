import AbiBindings.Bundled.Entry
import AbiBindings.Typed.Binding

/-!
# ENSInterface

The interface of a name registry.

* `ENSInterface.document`: the ABI.
* `ENSInterface.binding`: the typed methods and events.
-/

namespace AbiBindings.Bundled.ENSInterface

open Entry

/-- The ABI. -/
def document : Json := .array [
  event "NewOwner"
    [argument true "node" "bytes32" "bytes32",
      argument true "label" "bytes32" "bytes32",
      argument false "owner" "address" "address"],
  event "NewResolver"
    [argument true "node" "bytes32" "bytes32", argument false "resolver" "address" "address"],
  event "NewTTL"
    [argument true "node" "bytes32" "bytes32", argument false "ttl" "uint64" "uint64"],
  event "Transfer"
    [argument true "node" "bytes32" "bytes32", argument false "owner" "address" "address"],
  function "owner" [value "node" "bytes32" "bytes32"] [value "" "address" "address"] "view",
  function "resolver" [value "node" "bytes32" "bytes32"] [value "" "address" "address"] "view",
  function "setOwner"
    [value "node" "bytes32" "bytes32", value "_owner" "address" "address"]
    [] "nonpayable",
  function "setResolver"
    [value "node" "bytes32" "bytes32", value "_resolver" "address" "address"]
    [] "nonpayable",
  function "setSubnodeOwner"
    [value "node" "bytes32" "bytes32",
      value "label" "bytes32" "bytes32",
      value "_owner" "address" "address"]
    [] "nonpayable",
  function "setTTL"
    [value "node" "bytes32" "bytes32", value "_ttl" "uint64" "uint64"]
    [] "nonpayable",
  function "ttl" [value "node" "bytes32" "bytes32"] [value "" "uint64" "uint64"] "view"]

/-- The typed methods. -/
def methods : List Method := [
  ⟨"owner", "owner", [("node", .hash)], .call [("", .address)]⟩,
  ⟨"resolver", "resolver", [("node", .hash)], .call [("", .address)]⟩,
  ⟨"ttl", "ttl", [("node", .hash)], .call [("", .unsigned 64)]⟩,
  ⟨"set_owner", "setOwner", [("node", .hash), ("owner", .address)], .transaction⟩,
  ⟨"set_resolver", "setResolver", [("node", .hash), ("resolver", .address)], .transaction⟩,
  ⟨"set_subnode_owner", "setSubnodeOwner",
    [("node", .hash), ("label", .hash), ("owner", .address)],
    .transaction⟩,
  ⟨"set_ttl", "setTTL", [("node", .hash), ("ttl", .unsigned 64)], .transaction⟩]

/-- The typed events. -/
def events : List EventBinding := [
  ⟨"NewOwner", "new_owner", "NewOwner", "NewOwner(bytes32,bytes32,address)",
    [("node", .hash), ("label", .hash), ("owner", .address)],
    [("node", .hash), ("label", .hash)]⟩,
  ⟨"NewResolver", "new_resolver", "NewResolver", "NewResolver(bytes32,address)",
    [("node", .hash), ("resolver", .address)],
    [("node", .hash)]⟩,
  ⟨"NewTtl", "new_ttl", "NewTTL", "NewTTL(bytes32,uint64)",
    [("node", .hash), ("ttl", .unsigned 64)],
    [("node", .hash)]⟩,
  ⟨"Transfer", "transfer", "Transfer", "Transfer(bytes32,address)",
    [("node", .hash), ("owner", .address)],
    [("node", .hash)]⟩]

/-- The typed methods and events, and the arguments of a deployment. -/
def binding : Binding where
  metadata := ⟨"ENSInterface", documentText document, none⟩
  deployment? := none
  methods := methods
  events := events

end AbiBindings.Bundled.ENSInterface
