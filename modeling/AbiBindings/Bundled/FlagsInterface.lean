import AbiBindings.Bundled.Entry
import AbiBindings.Typed.Binding

/-!
# FlagsInterface

The interface of raised and lowered flags.

* `FlagsInterface.document`: the ABI.
* `FlagsInterface.binding`: the typed methods and events.
-/

namespace AbiBindings.Bundled.FlagsInterface

open Entry

/-- The ABI. -/
def document : Json := .array [
  function "getFlag" [value "" "address" "address"] [value "" "bool" "bool"] "view",
  function "getFlags" [value "" "address[]" "address[]"] [value "" "bool[]" "bool[]"] "view",
  function "lowerFlags" [value "" "address[]" "address[]"] [] "nonpayable",
  function "raiseFlag" [value "" "address" "address"] [] "nonpayable",
  function "raiseFlags" [value "" "address[]" "address[]"] [] "nonpayable",
  function "setRaisingAccessController" [value "" "address" "address"] [] "nonpayable"]

/-- The typed methods. -/
def methods : List Method := [
  ⟨"get_flag", "getFlag", [("arg0", .address)], .call [("", .bool)]⟩,
  ⟨"get_flags", "getFlags", [("arg0", .list .address)], .call [("", .list .bool)]⟩,
  ⟨"lower_flags", "lowerFlags", [("arg0", .list .address)], .transaction⟩,
  ⟨"raise_flag", "raiseFlag", [("arg0", .address)], .transaction⟩,
  ⟨"raise_flags", "raiseFlags", [("arg0", .list .address)], .transaction⟩,
  ⟨"set_raising_access_controller", "setRaisingAccessController",
    [("arg0", .address)],
    .transaction⟩]

/-- The typed events. -/
def events : List EventBinding := []

/-- The typed methods and events, and the arguments of a deployment. -/
def binding : Binding where
  metadata := ⟨"FlagsInterface", documentText document, none⟩
  deployment? := none
  methods := methods
  events := events

end AbiBindings.Bundled.FlagsInterface
