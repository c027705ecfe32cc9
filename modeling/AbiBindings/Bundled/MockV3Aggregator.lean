import AbiBindings.Bundled.Entry
import AbiBindings.Typed.Binding

/-!
# MockV3Aggregator

An aggregator whose answers are set by hand.

* `MockV3Aggregator.document`: the ABI.
* `MockV3Aggregator.bytecode`: the creation code in hexadecimal digits.
* `MockV3Aggregator.binding`: the typed methods and events.
-/

namespace AbiBindings.Bundled.MockV3Aggregator

open Entry

/-- The ABI. -/
def document : Json := .array [
  constructor [value "_decimals" "uint8" "uint8", value "_initialAnswer" "int256" "int256"],
  event "AnswerUpdated"
    [argument true "current" "int256" "int256",
      argument true "roundId" "uint256" "uint256",
      argument false "updatedAt" "uint256" "uint256"],
  event "NewRound"
    [argument true "roundId" "uint256" "uint256",
      argument true "startedBy" "address" "address",
      argument false "startedAt" "uint256" "uint256"],
  function "decimals" [] [value "" "uint8" "uint8"] "view",
  function "description" [] [value "" "string" "string"] "pure",
  function "getAnswer" [value "" "uint256" "uint256"] [value "" "int256" "int256"] "view",
  function "getRoundData"
    [value "_roundId" "uint80" "uint80"]
    [value "roundId" "uint80" "uint80",
      value "answer" "int256" "int256",
      value "startedAt" "uint256" "uint256",
      value "updatedAt" "uint256" "uint256",
      value "answeredInRound" "uint80" "uint80"] "view",
  function "getTimestamp" [value "" "uint256" "uint256"] [value "" "uint256" "uint256"] "view",
  function "latestAnswer" [] [value "" "int256" "int256"] "view",
  function "latestRound" [] [value "" "uint256" "uint256"] "view",
  function "latestRoundData"
    []
    [value "roundId" "uint80" "uint80",
      value "answer" "int256" "int256",
      value "startedAt" "uint256" "uint256",
      value "updatedAt" "uint256" "uint256",
      value "answeredInRound" "uint80" "uint80"] "view",
  function "latestTimestamp" [] [value "" "uint256" "uint256"] "view",
  function "updateAnswer" [value "_answer" "int256" "int256"] [] "nonpayable",
  function "updateRoundData"
    [value "_roundId" "uint80" "uint80",
      value "_answer" "int256" "int256",
      value "_timestamp" "uint256" "uint256",
      value "_startedAt" "uint256" "uint256"]
    [] "nonpayable",
  function "version" [] [value "" "uint256" "uint256"] "view"]

/-- The creation code. -/
def bytecode : String := String.join [
  "0x608060405234801561001057600080fd5b506040516104cf3803806104cf833981810160405260408110156100",
  "3357600080fd5b5080516020909101516000805460ff191660ff84161790556100548161005b565b50506100a256",
  "5b600181815542600281905560038054909201808355600090815260046020908152604080832095909555835482",
  "526005815284822083905592548152600690925291902055565b61041e806100b16000396000f3fe608060405234",
  "801561001057600080fd5b50600436106100a45760003560e01c8063313ce567146100a95780634aa2011f146100",
  "c757806350d25bcd1461010157806354fd4d501461011b578063668a0f02146101235780637284e4161461012b57",
  "80638205bf6a146101a85780639a6fc8f5146101b0578063a87a20ce1461021a578063b5ab58dc14610237578063",
  "b633620c14610254578063feaf968c14610271575b600080fd5b6100b1610279565b6040805160ff909216825251",
  "9081900360200190f35b6100ff600480360360808110156100dd57600080fd5b506001600160501b038135169060",
  "208101359060408101359060600135610282565b005b6101096102cc565b60408051918252519081900360200190",
  "f35b6101096102d2565b6101096102d7565b6101336102dd565b6040805160208082528351818301528351919283",
  "929083019185019080838360005b8381101561016d578181015183820152602001610155565b5050505090509081",
  "0190601f16801561019a5780820380516001836020036101000a031916815260200191505b509250505060405180",
  "910390f35b610109610314565b6101d6600480360360208110156101c657600080fd5b50356001600160501b0316",
  "61031a565b60405180866001600160501b0316815260200185815260200184815260200183815260200182600160",
  "0160501b031681526020019550505050505060405180910390f35b6100ff60048036036020811015610230576000",
  "80fd5b5035610350565b6101096004803603602081101561024d57600080fd5b5035610397565b61010960048036",
  "03602081101561026a57600080fd5b50356103a9565b6101d66103bb565b60005460ff1681565b6001600160501b",
  "03909316600381815560018490556002839055600091825260046020908152604080842095909555815483526005",
  "81528483209390935554815260069091522055565b60015481565b600081565b60035481565b6040805180820190",
  "9152601f81527f76302e362f74657374732f4d6f636b563341676772656761746f722e736f6c0060208201529056",
  "5b60025481565b6001600160501b0381166000908152600460209081526040808320546006835281842054600590",
  "93529220549293919290918490565b60018181554260028190556003805490920180835560009081526004602090",
  "8152604080832095909555835482526005815284822083905592548152600690925291902055565b600460205260",
  "00908152604090205481565b60056020526000908152604090205481565b60035460008181526004602090815260",
  "40808320546006835281842054600590935292205483909192939456fea26469706673582212202e67ecac433ebc",
  "fe150871ebdc8f25d791f60841ae48ca3364ee9e0db9fe070564736f6c63430007060033"]

/-- The typed methods. -/
def methods : List Method := [
  ⟨"decimals", "decimals", [], .call [("", .unsigned 8)]⟩,
  ⟨"description", "description", [], .call [("", .text)]⟩,
  ⟨"get_answer", "getAnswer", [("arg0", .word)], .call [("", .integer)]⟩,
  ⟨"get_round_data", "getRoundData", [("round_id", .unsigned 128)], .call roundData⟩,
  ⟨"get_timestamp", "getTimestamp", [("arg0", .word)], .call [("", .word)]⟩,
  ⟨"latest_answer", "latestAnswer", [], .call [("", .integer)]⟩,
  ⟨"latest_round", "latestRound", [], .call [("", .word)]⟩,
  ⟨"latest_round_data", "latestRoundData", [], .call roundData⟩,
  ⟨"latest_timestamp", "latestTimestamp", [], .call [("", .word)]⟩,
  ⟨"version", "version", [], .call [("", .word)]⟩,
  ⟨"update_answer", "updateAnswer", [("answer", .integer)], .transaction⟩,
  ⟨"update_round_data", "updateRoundData",
    [("round_id", .unsigned 128), ("answer", .integer), ("timestamp", .word),
      ("started_at", .word)],
    .transaction⟩]

/-- The typed events. -/
def events : List EventBinding := [
  ⟨"AnswerUpdated", "answer_updated", "AnswerUpdated", "AnswerUpdated(int256,uint256,uint256)",
    [("current", .integer), ("round_id", .word), ("updated_at", .word)],
    [("current", .integer), ("round_id", .word)]⟩,
  ⟨"NewRound", "new_round", "NewRound", "NewRound(uint256,address,uint256)",
    [("round_id", .word), ("started_by", .address), ("started_at", .word)],
    [("round_id", .word), ("started_by", .address)]⟩]

/-- The typed methods and events, and the arguments of a deployment. -/
def binding : Binding where
  metadata := ⟨"MockV3Aggregator", documentText document, some bytecode⟩
  deployment? := some [("decimals", .unsigned 8), ("initial_answer", .integer)]
  methods := methods
  events := events

end AbiBindings.Bundled.MockV3Aggregator
