import AbiBindings.Bundled.Entry
import AbiBindings.Typed.Binding

/-!
# RewardLib

A library that keeps the books of rewards.

* `RewardLib.document`: the ABI.
* `RewardLib.bytecode`: the creation code in hexadecimal digits.
* `RewardLib.binding`: the typed methods and events.
-/

namespace AbiBindings.Bundled.RewardLib

open Entry

/-- The ABI. -/
def document : Json := .array [
  error "RewardDurationTooShort" [],
  event "RewardAdded" [argument false "amountAdded" "uint256" "uint256"],
  event "RewardInitialized"
    [argument false "rate" "uint256" "uint256",
      argument false "available" "uint256" "uint256",
      argument false "startTimestamp" "uint256" "uint256",
      argument false "endTimestamp" "uint256" "uint256"],
  event "RewardRateChanged" [argument false "rate" "uint256" "uint256"],
  event "RewardSlashed"
    [argument false "operator" "address[]" "address[]",
      argument false "slashedBaseRewards" "uint256[]" "uint256[]",
      argument false "slashedDelegatedRewards" "uint256[]" "uint256[]"],
  event "RewardWithdrawn" [argument false "amount" "uint256" "uint256"]]

/-- The creation code. -/
def bytecode : String := String.join [
  "0x60566037600b82828239805160001a607314602a57634e487b7160e01b600052600060045260246000fd5b3060",
  "0052607381538281f3fe73000000000000000000000000000000000000000030146080604052600080fdfea26469",
  "706673582212203a1d042dfd6b700be27ad9cd04c9df01cbd70225b35d383cb78cfd44b717a46164736f6c634300",
  "08100033"]

/-- The typed methods. -/
def methods : List Method := []

/-- The typed events. -/
def events : List EventBinding := [
  ⟨"RewardAdded", "reward_added", "RewardAdded", "RewardAdded(uint256)",
    [("amount_added", .word)],
    []⟩,
  ⟨"RewardInitialized", "reward_initialized", "RewardInitialized",
    "RewardInitialized(uint256,uint256,uint256,uint256)",
    [("rate", .word), ("available", .word), ("start_timestamp", .word), ("end_timestamp", .word)],
    []⟩,
  ⟨"RewardRateChanged", "reward_rate_changed", "RewardRateChanged", "RewardRateChanged(uint256)",
    [("rate", .word)],
    []⟩,
  ⟨"RewardSlashed", "reward_slashed", "RewardSlashed",
    "RewardSlashed(address[],uint256[],uint256[])",
    [("operator", .list .address), ("slashed_base_rewards", .list .word),
      ("slashed_delegated_rewards", .list .word)],
    []⟩,
  ⟨"RewardWithdrawn", "reward_withdrawn", "RewardWithdrawn", "RewardWithdrawn(uint256)",
    [("amount", .word)],
    []⟩]

/-- The typed methods and events, and the arguments of a deployment. -/
def binding : Binding where
  metadata := ⟨"RewardLib", documentText document, some bytecode⟩
  deployment? := some []
  methods := methods
  events := events

end AbiBindings.Bundled.RewardLib
