import AbiBindings.Bundled.Entry
import AbiBindings.Typed.Binding

/-!
# AggregatorProxy

The proxy through which the answers of an aggregator are read.

* `AggregatorProxy.document`: the ABI.
* `AggregatorProxy.bytecode`: the creation code in hexadecimal digits.
* `AggregatorProxy.binding`: the typed methods and events.
-/

namespace AbiBindings.Bundled.AggregatorProxy

open Entry

/-- The ABI. -/
def document : Json := .array [
  constructor [value "_aggregator" "address" "address"],
  event "AnswerUpdated"
    [argument true "current" "int256" "int256",
      argument true "roundId" "uint256" "uint256",
      argument false "updatedAt" "uint256" "uint256"],
  event "NewRound"
    [argument true "roundId" "uint256" "uint256",
      argument true "startedBy" "address" "address",
      argument false "startedAt" "uint256" "uint256"],
  event "OwnershipTransferRequested"
    [argument true "from" "address" "address", argument true "to" "address" "address"],
  event "OwnershipTransferred"
    [argument true "from" "address" "address", argument true "to" "address" "address"],
  function "acceptOwnership" [] [] "nonpayable",
  function "aggregator" [] [value "" "address" "address"] "view",
  function "confirmAggregator" [value "_aggregator" "address" "address"] [] "nonpayable",
  function "decimals" [] [value "" "uint8" "uint8"] "view",
  function "description" [] [value "" "string" "string"] "view",
  function "getAnswer"
    [value "_roundId" "uint256" "uint256"]
    [value "answer" "int256" "int256"] "view",
  function "getRoundData"
    [value "_roundId" "uint80" "uint80"]
    [value "roundId" "uint80" "uint80",
      value "answer" "int256" "int256",
      value "startedAt" "uint256" "uint256",
      value "updatedAt" "uint256" "uint256",
      value "answeredInRound" "uint80" "uint80"] "view",
  function "getTimestamp"
    [value "_roundId" "uint256" "uint256"]
    [value "updatedAt" "uint256" "uint256"] "view",
  function "latestAnswer" [] [value "answer" "int256" "int256"] "view",
  function "latestRound" [] [value "roundId" "uint256" "uint256"] "view",
  function "latestRoundData"
    []
    [value "roundId" "uint80" "uint80",
      value "answer" "int256" "int256",
      value "startedAt" "uint256" "uint256",
      value "updatedAt" "uint256" "uint256",
      value "answeredInRound" "uint80" "uint80"] "view",
  function "latestTimestamp" [] [value "updatedAt" "uint256" "uint256"] "view",
  function "owner" [] [value "" "address" "address"] "view",
  function "phaseAggregators"
    [value "" "uint16" "uint16"]
    [value "" "address" "contractAggregatorV2V3Interface"] "view",
  function "phaseId" [] [value "" "uint16" "uint16"] "view",
  function "proposeAggregator" [value "_aggregator" "address" "address"] [] "nonpayable",
  function "proposedAggregator" [] [value "" "address" "contractAggregatorV2V3Interface"] "view",
  function "proposedGetRoundData"
    [value "_roundId" "uint80" "uint80"]
    [value "roundId" "uint80" "uint80",
      value "answer" "int256" "int256",
      value "startedAt" "uint256" "uint256",
      value "updatedAt" "uint256" "uint256",
      value "answeredInRound" "uint80" "uint80"] "view",
  function "proposedLatestRoundData"
    []
    [value "roundId" "uint80" "uint80",
      value "answer" "int256" "int256",
      value "startedAt" "uint256" "uint256",
      value "updatedAt" "uint256" "uint256",
      value "answeredInRound" "uint80" "uint80"] "view",
  function "transferOwnership" [value "_to" "address" "address"] [] "nonpayable",
  function "version" [] [value "" "uint256" "uint256"] "view"]

/-- The creation code. -/
def bytecode : String := String.join [
  "0x608060405234801561001057600080fd5b50604051611ff1380380611ff1833981810160405260208110156100",
  "3357600080fd5b8101908080519060200190929190505050336000806101000a81548173ffffffffffffffffffff",
  "ffffffffffffffffffff021916908373ffffffffffffffffffffffffffffffffffffffff16021790555061009381",
  "61009960201b60201c565b506101b0565b60006001600260000160009054906101000a900461ffff160190506040",
  "5180604001604052808261ffff1681526020018373ffffffffffffffffffffffffffffffffffffffff1681525060",
  "0260008201518160000160006101000a81548161ffff021916908361ffff16021790555060208201518160000160",
  "026101000a81548173ffffffffffffffffffffffffffffffffffffffff021916908373ffffffffffffffffffffff",
  "ffffffffffffffffff16021790555090505081600460008361ffff1661ffff168152602001908152602001600020",
  "60006101000a81548173ffffffffffffffffffffffffffffffffffffffff021916908373ffffffffffffffffffff",
  "ffffffffffffffffffff1602179055505050565b611e32806101bf6000396000f3fe608060405234801561001057",
  "600080fd5b50600436106101375760003560e01c80638da5cb5b116100b8578063b633620c1161007c578063b633",
  "620c14610543578063c159730414610585578063e8c4be30146105f7578063f2fde38b14610641578063f8a2abd3",
  "14610685578063feaf968c146106c957610137565b80638da5cb5b1461036f5780638f6b4d91146103b95780639a",
  "6fc8f514610423578063a928c096146104bd578063b5ab58dc1461050157610137565b80636001ac53116100ff57",
  "80636001ac531461020c578063668a0f02146102a65780637284e416146102c457806379ba509714610347578063",
  "8205bf6a1461035157610137565b8063245a7bfc1461013c578063313ce5671461018657806350d25bcd146101aa",
  "57806354fd4d50146101c857806358303b10146101e6575b600080fd5b610144610733565b604051808273ffffff",
  "ffffffffffffffffffffffffffffffffff1673ffffffffffffffffffffffffffffffffffffffff16815260200191",
  "505060405180910390f35b61018e610760565b604051808260ff1660ff16815260200191505060405180910390f3",
  "5b6101b261080d565b6040518082815260200191505060405180910390f35b6101d06108ba565b60405180828152",
  "60200191505060405180910390f35b6101ee610967565b604051808261ffff1661ffff1681526020019150506040",
  "5180910390f35b6102446004803603602081101561022257600080fd5b81019080803569ffffffffffffffffffff",
  "169060200190929190505050610982565b604051808669ffffffffffffffffffff1669ffffffffffffffffffff16",
  "81526020018581526020018481526020018381526020018269ffffffffffffffffffff1669ffffffffffffffffff",
  "ff1681526020019550505050505060405180910390f35b6102ae610b4f565b604051808281526020019150506040",
  "5180910390f35b6102cc610c82565b60405180806020018281038252838181518152602001915080519060200190",
  "80838360005b8381101561030c5780820151818401526020810190506102f1565b50505050905090810190601f16",
  "80156103395780820380516001836020036101000a031916815260200191505b509250505060405180910390f35b",
  "61034f610ded565b005b610359610fb5565b6040518082815260200191505060405180910390f35b610377611062",
  "565b604051808273ffffffffffffffffffffffffffffffffffffffff1673ffffffffffffffffffffffffffffffff",
  "ffffffff16815260200191505060405180910390f35b6103c1611087565b604051808669ffffffffffffffffffff",
  "1669ffffffffffffffffffff1681526020018581526020018481526020018381526020018269ffffffffffffffff",
  "ffff1669ffffffffffffffffffff1681526020019550505050505060405180910390f35b61045b60048036036020",
  "81101561043957600080fd5b81019080803569ffffffffffffffffffff16906020019092919050505061122f565b",
  "604051808669ffffffffffffffffffff1669ffffffffffffffffffff168152602001858152602001848152602001",
  "8381526020018269ffffffffffffffffffff1669ffffffffffffffffffff16815260200195505050505050604051",
  "80910390f35b6104ff600480360360208110156104d357600080fd5b81019080803573ffffffffffffffffffffff",
  "ffffffffffffffffff16906020019092919050505061138f565b005b61052d600480360360208110156105175760",
  "0080fd5b8101908080359060200190929190505050611545565b6040518082815260200191505060405180910390",
  "f35b61056f6004803603602081101561055957600080fd5b8101908080359060200190929190505050611694565b",
  "6040518082815260200191505060405180910390f35b6105b56004803603602081101561059b57600080fd5b8101",
  "9080803561ffff1690602001909291905050506117e3565b604051808273ffffffffffffffffffffffffffffffff",
  "ffffffff1673ffffffffffffffffffffffffffffffffffffffff16815260200191505060405180910390f35b6105",
  "ff611816565b604051808273ffffffffffffffffffffffffffffffffffffffff1673ffffffffffffffffffffffff",
  "ffffffffffffffff16815260200191505060405180910390f35b6106836004803603602081101561065757600080",
  "fd5b81019080803573ffffffffffffffffffffffffffffffffffffffff16906020019092919050505061183c565b",
  "005b6106c76004803603602081101561069b57600080fd5b81019080803573ffffffffffffffffffffffffffffff",
  "ffffffffff1690602001909291905050506119bd565b005b6106d1611ac3565b604051808669ffffffffffffffff",
  "ffff1669ffffffffffffffffffff1681526020018581526020018481526020018381526020018269ffffffffffff",
  "ffffffff1669ffffffffffffffffffff1681526020019550505050505060405180910390f35b6000600260000160",
  "029054906101000a900473ffffffffffffffffffffffffffffffffffffffff16905090565b600060026000016002",
  "9054906101000a900473ffffffffffffffffffffffffffffffffffffffff1673ffffffffffffffffffffffffffff",
  "ffffffffffff1663313ce5676040518163ffffffff1660e01b815260040160206040518083038186803b15801561",
  "07cd57600080fd5b505afa1580156107e1573d6000803e3d6000fd5b505050506040513d60208110156107f75760",
  "0080fd5b8101908080519060200190929190505050905090565b6000600260000160029054906101000a900473ff",
  "ffffffffffffffffffffffffffffffffffffff1673ffffffffffffffffffffffffffffffffffffffff166350d25b",
  "cd6040518163ffffffff1660e01b815260040160206040518083038186803b15801561087a57600080fd5b505afa",
  "15801561088e573d6000803e3d6000fd5b505050506040513d60208110156108a457600080fd5b81019080805190",
  "60200190929190505050905090565b6000600260000160029054906101000a900473ffffffffffffffffffffffff",
  "ffffffffffffffff1673ffffffffffffffffffffffffffffffffffffffff166354fd4d506040518163ffffffff16",
  "60e01b815260040160206040518083038186803b15801561092757600080fd5b505afa15801561093b573d600080",
  "3e3d6000fd5b505050506040513d602081101561095157600080fd5b810190808051906020019092919050505090",
  "5090565b6000600260000160009054906101000a900461ffff16905090565b60008060008060008073ffffffffff",
  "ffffffffffffffffffffffffffffff16600360009054906101000a900473ffffffffffffffffffffffffffffffff",
  "ffffffff1673ffffffffffffffffffffffffffffffffffffffff161415610a4e576040517f08c379a00000000000",
  "0000000000000000000000000000000000000000000000815260040180806020018281038252601e815260200180",
  "7f4e6f2070726f706f7365642061676772656761746f722070726573656e74000081525060200191505060405180",
  "910390fd5b600360009054906101000a900473ffffffffffffffffffffffffffffffffffffffff1673ffffffffff",
  "ffffffffffffffffffffffffffffff16639a6fc8f5876040518263ffffffff1660e01b8152600401808269ffffff",
  "ffffffffffffff1669ffffffffffffffffffff16815260200191505060a06040518083038186803b158015610ad9",
  "57600080fd5b505afa158015610aed573d6000803e3d6000fd5b505050506040513d60a0811015610b0357600080",
  "fd5b8101908080519060200190929190805190602001909291908051906020019092919080519060200190929190",
  "805190602001909291905050509450945094509450945091939590929450565b6000610b59611dc8565b60026040",
  "518060400160405290816000820160009054906101000a900461ffff1661ffff1661ffff16815260200160008201",
  "60029054906101000a900473ffffffffffffffffffffffffffffffffffffffff1673ffffffffffffffffffffffff",
  "ffffffffffffffff1673ffffffffffffffffffffffffffffffffffffffff16815250509050610c70816000015182",
  "6020015173ffffffffffffffffffffffffffffffffffffffff1663668a0f026040518163ffffffff1660e01b8152",
  "60040160206040518083038186803b158015610c3057600080fd5b505afa158015610c44573d6000803e3d6000fd",
  "5b505050506040513d6020811015610c5a57600080fd5b8101908080519060200190929190505050611c3d565b69",
  "ffffffffffffffffffff1691505090565b6060600260000160029054906101000a900473ffffffffffffffffffff",
  "ffffffffffffffffffff1673ffffffffffffffffffffffffffffffffffffffff16637284e4166040518163ffffff",
  "ff1660e01b815260040160006040518083038186803b158015610cef57600080fd5b505afa158015610d03573d60",
  "00803e3d6000fd5b505050506040513d6000823e3d601f19601f820116820180604052506020811015610d2d5760",
  "0080fd5b8101908080516040519392919084640100000000821115610d4d57600080fd5b83820191506020820185",
  "811115610d6357600080fd5b8251866001820283011164010000000082111715610d8057600080fd5b8083526020",
  "830192505050908051906020019080838360005b83811015610db4578082015181840152602081019050610d9956",
  "5b50505050905090810190601f168015610de15780820380516001836020036101000a031916815260200191505b",
  "50604052505050905090565b600160009054906101000a900473ffffffffffffffffffffffffffffffffffffffff",
  "1673ffffffffffffffffffffffffffffffffffffffff163373ffffffffffffffffffffffffffffffffffffffff16",
  "14610eb0576040517f08c379a0000000000000000000000000000000000000000000000000000000008152600401",
  "8080602001828103825260168152602001807f4d7573742062652070726f706f736564206f776e65720000000000",
  "000000000081525060200191505060405180910390fd5b60008060009054906101000a900473ffffffffffffffff",
  "ffffffffffffffffffffffff169050336000806101000a81548173ffffffffffffffffffffffffffffffffffffff",
  "ff021916908373ffffffffffffffffffffffffffffffffffffffff1602179055506000600160006101000a815481",
  "73ffffffffffffffffffffffffffffffffffffffff021916908373ffffffffffffffffffffffffffffffffffffff",
  "ff1602179055503373ffffffffffffffffffffffffffffffffffffffff168173ffffffffffffffffffffffffffff",
  "ffffffffffff167f8be0079c531659141344cd1fd0a4f28419497f9722a3daafe3b4186f6b6457e0604051604051",
  "80910390a350565b6000600260000160029054906101000a900473ffffffffffffffffffffffffffffffffffffff",
  "ff1673ffffffffffffffffffffffffffffffffffffffff16638205bf6a6040518163ffffffff1660e01b81526004",
  "0160206040518083038186803b15801561102257600080fd5b505afa158015611036573d6000803e3d6000fd5b50",
  "5050506040513d602081101561104c57600080fd5b8101908080519060200190929190505050905090565b600080",
  "9054906101000a900473ffffffffffffffffffffffffffffffffffffffff1681565b60008060008060008073ffff",
  "ffffffffffffffffffffffffffffffffffff16600360009054906101000a900473ffffffffffffffffffffffffff",
  "ffffffffffffff1673ffffffffffffffffffffffffffffffffffffffff161415611153576040517f08c379a00000",
  "0000000000000000000000000000000000000000000000000000815260040180806020018281038252601e815260",
  "2001807f4e6f2070726f706f7365642061676772656761746f722070726573656e74000081525060200191505060",
  "405180910390fd5b600360009054906101000a900473ffffffffffffffffffffffffffffffffffffffff1673ffff",
  "ffffffffffffffffffffffffffffffffffff1663feaf968c6040518163ffffffff1660e01b815260040160a06040",
  "518083038186803b1580156111bb57600080fd5b505afa1580156111cf573d6000803e3d6000fd5b505050506040",
  "513d60a08110156111e557600080fd5b810190808051906020019092919080519060200190929190805190602001",
  "909291908051906020019092919080519060200190929190505050945094509450945094509091929394565b6000",
  "80600080600080600061124f8869ffffffffffffffffffff16611c5c565b91509150600460008361ffff1661ffff",
  "16815260200190815260200160002060009054906101000a900473ffffffffffffffffffffffffffffffffffffff",
  "ff1673ffffffffffffffffffffffffffffffffffffffff16639a6fc8f5826040518263ffffffff1660e01b815260",
  "0401808267ffffffffffffffff1669ffffffffffffffffffff16815260200191505060a06040518083038186803b",
  "1580156112f557600080fd5b505afa158015611309573d6000803e3d6000fd5b505050506040513d60a081101561",
  "131f57600080fd5b8101908080519060200190929190805190602001909291908051906020019092919080519060",
  "20019092919080519060200190929190505050809750819850829950839a50849b50505050505061137a87878787",
  "8787611c7a565b96509650965096509650505091939590929450565b6000809054906101000a900473ffffffffff",
  "ffffffffffffffffffffffffffffff1673ffffffffffffffffffffffffffffffffffffffff163373ffffffffffff",
  "ffffffffffffffffffffffffffff1614611451576040517f08c379a0000000000000000000000000000000000000",
  "0000000000000000000081526004018080602001828103825260168152602001807f4f6e6c792063616c6c61626c",
  "65206279206f776e65720000000000000000000081525060200191505060405180910390fd5b6003600090549061",
  "01000a900473ffffffffffffffffffffffffffffffffffffffff1673ffffffffffffffffffffffffffffffffffff",
  "ffff168173ffffffffffffffffffffffffffffffffffffffff1614611514576040517f08c379a000000000000000",
  "000000000000000000000000000000000000000000815260040180806020018281038252601b8152602001807f49",
  "6e76616c69642070726f706f7365642061676772656761746f720000000000815250602001915050604051809103",
  "90fd5b600360006101000a81549073ffffffffffffffffffffffffffffffffffffffff021916905561154281611c",
  "b1565b50565b60006001601060400160020a03821115611562576000905061168f565b60008061156e84611c5c56",
  "5b915091506000600460008461ffff1661ffff16815260200190815260200160002060009054906101000a900473",
  "ffffffffffffffffffffffffffffffffffffffff169050600073ffffffffffffffffffffffffffffffffffffffff",
  "168173ffffffffffffffffffffffffffffffffffffffff1614156115f3576000935050505061168f565b8073ffff",
  "ffffffffffffffffffffffffffffffffffff1663b5ab58dc836040518263ffffffff1660e01b8152600401808267",
  "ffffffffffffffff16815260200191505060206040518083038186803b15801561164e57600080fd5b505afa1580",
  "15611662573d6000803e3d6000fd5b505050506040513d602081101561167857600080fd5b810190808051906020",
  "019092919050505093505050505b919050565b60006001601060400160020a038211156116b157600090506117de",
  "565b6000806116bd84611c5c565b915091506000600460008461ffff1661ffff1681526020019081526020016000",
  "2060009054906101000a900473ffffffffffffffffffffffffffffffffffffffff169050600073ffffffffffffff",
  "ffffffffffffffffffffffffff168173ffffffffffffffffffffffffffffffffffffffff16141561174257600093",
  "505050506117de565b8073ffffffffffffffffffffffffffffffffffffffff1663b633620c836040518263ffffff",
  "ff1660e01b8152600401808267ffffffffffffffff16815260200191505060206040518083038186803b15801561",
  "179d57600080fd5b505afa1580156117b1573d6000803e3d6000fd5b505050506040513d60208110156117c75760",
  "0080fd5b810190808051906020019092919050505093505050505b919050565b6004602052806000526040600020",
  "6000915054906101000a900473ffffffffffffffffffffffffffffffffffffffff1681565b600360009054906101",
  "000a900473ffffffffffffffffffffffffffffffffffffffff1681565b6000809054906101000a900473ffffffff",
  "ffffffffffffffffffffffffffffffff1673ffffffffffffffffffffffffffffffffffffffff163373ffffffffff",
  "ffffffffffffffffffffffffffffff16146118fe576040517f08c379a00000000000000000000000000000000000",
  "000000000000000000000081526004018080602001828103825260168152602001807f4f6e6c792063616c6c6162",
  "6c65206279206f776e65720000000000000000000081525060200191505060405180910390fd5b80600160006101",
  "000a81548173ffffffffffffffffffffffffffffffffffffffff021916908373ffffffffffffffffffffffffffff",
  "ffffffffffff1602179055508073ffffffffffffffffffffffffffffffffffffffff166000809054906101000a90",
  "0473ffffffffffffffffffffffffffffffffffffffff1673ffffffffffffffffffffffffffffffffffffffff167f",
  "ed8889f560326eb138920d842192f0eb3dd22b4f139c87a2c57538e05bae127860405160405180910390a350565b",
  "6000809054906101000a900473ffffffffffffffffffffffffffffffffffffffff1673ffffffffffffffffffffff",
  "ffffffffffffffffff163373ffffffffffffffffffffffffffffffffffffffff1614611a7f576040517f08c379a0",
  "00000000000000000000000000000000000000000000000000000000815260040180806020018281038252601681",
  "52602001807f4f6e6c792063616c6c61626c65206279206f776e6572000000000000000000008152506020019150",
  "5060405180910390fd5b80600360006101000a81548173ffffffffffffffffffffffffffffffffffffffff021916",
  "908373ffffffffffffffffffffffffffffffffffffffff16021790555050565b6000806000806000611ad3611dc8",
  "565b60026040518060400160405290816000820160009054906101000a900461ffff1661ffff1661ffff16815260",
  "20016000820160029054906101000a900473ffffffffffffffffffffffffffffffffffffffff1673ffffffffffff",
  "ffffffffffffffffffffffffffff1673ffffffffffffffffffffffffffffffffffffffff16815250509050806020",
  "015173ffffffffffffffffffffffffffffffffffffffff1663feaf968c6040518163ffffffff1660e01b81526004",
  "0160a06040518083038186803b158015611ba257600080fd5b505afa158015611bb6573d6000803e3d6000fd5b50",
  "5050506040513d60a0811015611bcc57600080fd5b81019080805190602001909291908051906020019092919080",
  "5190602001909291908051906020019092919080519060200190929190505050809650819750829850839950849a",
  "505050505050611c2b86868686868660000151611c7a565b95509550955095509550509091929394565b60008167",
  "ffffffffffffffff1660408461ffff16901b17905092915050565b6000806000604084901c905060008490508181",
  "935093505050915091565b6000806000806000611c8c868c611c3d565b8a8a8a611c998a8c611c3d565b94509450",
  "945094509450965096509650965096915050565b60006001600260000160009054906101000a900461ffff160190",
  "5060405180604001604052808261ffff1681526020018373ffffffffffffffffffffffffffffffffffffffff1681",
  "5250600260008201518160000160006101000a81548161ffff021916908361ffff16021790555060208201518160",
  "000160026101000a81548173ffffffffffffffffffffffffffffffffffffffff021916908373ffffffffffffffff",
  "ffffffffffffffffffffffff16021790555090505081600460008361ffff1661ffff168152602001908152602001",
  "60002060006101000a81548173ffffffffffffffffffffffffffffffffffffffff021916908373ffffffffffffff",
  "ffffffffffffffffffffffffff1602179055505050565b6040518060400160405280600061ffff16815260200160",
  "0073ffffffffffffffffffffffffffffffffffffffff168152509056fea2646970667358221220447a1ac2b249a0",
  "58936277eb4ecb10ca1be14bbab05e07d4a4bdbbe656b5a0d464736f6c63430006060033"]

/-- The typed methods. -/
def methods : List Method := [
  ⟨"aggregator", "aggregator", [], .call [("", .address)]⟩,
  ⟨"decimals", "decimals", [], .call [("", .unsigned 8)]⟩,
  ⟨"description", "description", [], .call [("", .text)]⟩,
  ⟨"get_answer", "getAnswer", [("round_id", .word)], .call [("", .integer)]⟩,
  ⟨"get_round_data", "getRoundData", [("round_id", .unsigned 128)], .call roundData⟩,
  ⟨"get_timestamp", "getTimestamp", [("round_id", .word)], .call [("", .word)]⟩,
  ⟨"latest_answer", "latestAnswer", [], .call [("", .integer)]⟩,
  ⟨"latest_round", "latestRound", [], .call [("", .word)]⟩,
  ⟨"latest_round_data", "latestRoundData", [], .call roundData⟩,
  ⟨"latest_timestamp", "latestTimestamp", [], .call [("", .word)]⟩,
  ⟨"owner", "owner", [], .call [("", .address)]⟩,
  ⟨"phase_aggregators", "phaseAggregators", [("arg0", .unsigned 16)], .call [("", .address)]⟩,
  ⟨"phase_id", "phaseId", [], .call [("", .unsigned 16)]⟩,
  ⟨"proposed_aggregator", "proposedAggregator", [], .call [("", .address)]⟩,
  ⟨"proposed_get_round_data", "proposedGetRoundData",
    [("round_id", .unsigned 128)],
    .call roundData⟩,
  ⟨"proposed_latest_round_data", "proposedLatestRoundData", [], .call roundData⟩,
  ⟨"version", "version", [], .call [("", .word)]⟩,
  ⟨"accept_ownership", "acceptOwnership", [], .transaction⟩,
  ⟨"confirm_aggregator", "confirmAggregator", [("aggregator", .address)], .transaction⟩,
  ⟨"propose_aggregator", "proposeAggregator", [("aggregator", .address)], .transaction⟩,
  ⟨"transfer_ownership", "transferOwnership", [("to", .address)], .transaction⟩]

/-- The typed events. -/
def events : List EventBinding := [
  ⟨"AnswerUpdated", "answer_updated", "AnswerUpdated", "AnswerUpdated(int256,uint256,uint256)",
    [("current", .integer), ("round_id", .word), ("updated_at", .word)],
    [("current", .integer), ("round_id", .word)]⟩,
  ⟨"NewRound", "new_round", "NewRound", "NewRound(uint256,address,uint256)",
    [("round_id", .word), ("started_by", .address), ("started_at", .word)],
    [("round_id", .word), ("started_by", .address)]⟩,
  ⟨"OwnershipTransferRequested", "ownership_transfer_requested", "OwnershipTransferRequested",
    "OwnershipTransferRequested(address,address)",
    [("from", .address), ("to", .address)],
    [("from", .address), ("to", .address)]⟩,
  ⟨"OwnershipTransferred", "ownership_transferred", "OwnershipTransferred",
    "OwnershipTransferred(address,address)",
    [("from", .address), ("to", .address)],
    [("from", .address), ("to", .address)]⟩]

/-- The typed methods and events, and the arguments of a deployment. -/
def binding : Binding where
  metadata := ⟨"AggregatorProxy", documentText document, some bytecode⟩
  deployment? := some [("aggregator", .address)]
  methods := methods
  events := events

end AbiBindings.Bundled.AggregatorProxy
