import AbiBindings.Bundled.Entry
import AbiBindings.Typed.Binding

/-!
# LinkToken

A token whose transfers may call the receiver.

* `LinkToken.document`: the ABI.
* `LinkToken.bytecode`: the creation code in hexadecimal digits.
* `LinkToken.binding`: the typed methods and events.
-/

namespace AbiBindings.Bundled.LinkToken

open Entry

/-- The ABI. -/
def document : Json := .array [
  flaggedFunction true "name" [] [plainValue "" "string"] "view",
  flaggedFunction false "approve"
    [plainValue "_spender" "address", plainValue "_value" "uint256"]
    [plainValue "" "bool"] "nonpayable",
  flaggedFunction true "totalSupply" [] [plainValue "" "uint256"] "view",
  flaggedFunction false "transferFrom"
    [plainValue "_from" "address", plainValue "_to" "address", plainValue "_value" "uint256"]
    [plainValue "" "bool"] "nonpayable",
  flaggedFunction true "decimals" [] [plainValue "" "uint8"] "view",
  flaggedFunction false "transferAndCall"
    [plainValue "_to" "address", plainValue "_value" "uint256", plainValue "_data" "bytes"]
    [plainValue "success" "bool"] "nonpayable",
  flaggedFunction false "decreaseApproval"
    [plainValue "_spender" "address", plainValue "_subtractedValue" "uint256"]
    [plainValue "success" "bool"] "nonpayable",
  flaggedFunction true "balanceOf"
    [plainValue "_owner" "address"]
    [plainValue "balance" "uint256"] "view",
  flaggedFunction true "symbol" [] [plainValue "" "string"] "view",
  flaggedFunction false "transfer"
    [plainValue "_to" "address", plainValue "_value" "uint256"]
    [plainValue "success" "bool"] "nonpayable",
  flaggedFunction false "increaseApproval"
    [plainValue "_spender" "address", plainValue "_addedValue" "uint256"]
    [plainValue "success" "bool"] "nonpayable",
  flaggedFunction true "allowance"
    [plainValue "_owner" "address", plainValue "_spender" "address"]
    [plainValue "remaining" "uint256"] "view",
  flaggedConstructor [],
  event "Transfer"
    [plainArgument true "from" "address",
      plainArgument true "to" "address",
      plainArgument false "value" "uint256",
      plainArgument false "data" "bytes"],
  event "Approval"
    [plainArgument true "owner" "address",
      plainArgument true "spender" "address",
      plainArgument false "value" "uint256"],
  event "Transfer"
    [plainArgument true "from" "address",
      plainArgument true "to" "address",
      plainArgument false "value" "uint256"]]

/-- The creation code. -/
def bytecode : String := String.join [
  "0x608060405234801561001057600080fd5b503360009081526001602052604090206b033b2e3c9fd0803ce80000",
  "009055610c848061003e6000396000f3006080604052600436106100b95763ffffffff7c01000000000000000000",
  "0000000000000000000000000000000000000060003504166306fdde0381146100be578063095ea7b31461014857",
  "806318160ddd1461018d57806323b872dd146101b4578063313ce567146101eb5780634000aea014610216578063",
  "661884631461028c57806370a08231146102bd57806395d89b41146102eb578063a9059cbb14610300578063d73d",
  "d62314610331578063dd62ed3e14610362575b600080fd5b3480156100ca57600080fd5b506100d3610396565b60",
  "40805160208082528351818301528351919283929083019185019080838360005b8381101561010d578181015183",
  "8201526020016100f5565b50505050905090810190601f16801561013a5780820380516001836020036101000a03",
  "1916815260200191505b509250505060405180910390f35b34801561015457600080fd5b5061017973ffffffffff",
  "ffffffffffffffffffffffffffffff600435166024356103cd565b604080519115158252519081900360200190f3",
  "5b34801561019957600080fd5b506101a2610428565b60408051918252519081900360200190f35b3480156101c0",
  "57600080fd5b5061017973ffffffffffffffffffffffffffffffffffffffff600435811690602435166044356104",
  "38565b3480156101f757600080fd5b50610200610495565b6040805160ff9092168252519081900360200190f35b",
  "34801561022257600080fd5b50604080516020600460443581810135601f81018490048402850184019095528484",
  "5261017994823573ffffffffffffffffffffffffffffffffffffffff169460248035953695946064949201919081",
  "9084018382808284375094975061049a9650505050505050565b34801561029857600080fd5b5061017973ffffff",
  "ffffffffffffffffffffffffffffffffff600435166024356104ee565b3480156102c957600080fd5b506101a273",
  "ffffffffffffffffffffffffffffffffffffffff60043516610612565b3480156102f757600080fd5b506100d361",
  "063a565b34801561030c57600080fd5b5061017973ffffffffffffffffffffffffffffffffffffffff6004351660",
  "2435610671565b34801561033d57600080fd5b5061017973ffffffffffffffffffffffffffffffffffffffff6004",
  "35166024356106c4565b34801561036e57600080fd5b506101a273ffffffffffffffffffffffffffffffffffffff",
  "ff60043581169060243516610777565b60408051808201909152600f81527f436861696e4c696e6b20546f6b656e",
  "0000000000000000000000000000000000602082015281565b60008273ffffffffffffffffffffffffffffffffff",
  "ffffff81161580159061040b575073ffffffffffffffffffffffffffffffffffffffff81163014155b1515610416",
  "57600080fd5b61042084846107af565b949350505050565b6b033b2e3c9fd0803ce800000081565b60008273ffff",
  "ffffffffffffffffffffffffffffffffffff811615801590610476575073ffffffffffffffffffffffffffffffff",
  "ffffffff81163014155b151561048157600080fd5b61048c858585610822565b95945050505050565b601281565b",
  "60008373ffffffffffffffffffffffffffffffffffffffff8116158015906104d8575073ffffffffffffffffffff",
  "ffffffffffffffffffff81163014155b15156104e357600080fd5b61048c858585610962565b3360009081526002",
  "6020908152604080832073ffffffffffffffffffffffffffffffffffffffff861684529091528120548083111561",
  "055d5733600090815260026020908152604080832073ffffffffffffffffffffffffffffffffffffffff88168452",
  "90915281205561059f565b61056d818463ffffffff610a6116565b33600090815260026020908152604080832073",
  "ffffffffffffffffffffffffffffffffffffffff891684529091529020555b336000818152600260209081526040",
  "80832073ffffffffffffffffffffffffffffffffffffffff89168085529083529281902054815190815290519293",
  "927f8c5be1e5ebec7d5bd14f71427d1e84f3dd0314c0f7b2291e5b200ac8c7c3b925929181900390910190a35060",
  "019392505050565b73ffffffffffffffffffffffffffffffffffffffff1660009081526001602052604090205490",
  "565b60408051808201909152600481527f4c494e4b00000000000000000000000000000000000000000000000000",
  "000000602082015281565b60008273ffffffffffffffffffffffffffffffffffffffff8116158015906106af5750",
  "73ffffffffffffffffffffffffffffffffffffffff81163014155b15156106ba57600080fd5b6104208484610a73",
  "565b33600090815260026020908152604080832073ffffffffffffffffffffffffffffffffffffffff8616845290",
  "9152812054610705908363ffffffff610b3d16565b33600081815260026020908152604080832073ffffffffffff",
  "ffffffffffffffffffffffffffff89168085529083529281902085905580519485525191937f8c5be1e5ebec7d5b",
  "d14f71427d1e84f3dd0314c0f7b2291e5b200ac8c7c3b925929081900390910190a350600192915050565b73ffff",
  "ffffffffffffffffffffffffffffffffffff91821660009081526002602090815260408083209390941682529190",
  "9152205490565b33600081815260026020908152604080832073ffffffffffffffffffffffffffffffffffffffff",
  "8716808552908352818420869055815186815291519394909390927f8c5be1e5ebec7d5bd14f71427d1e84f3dd03",
  "14c0f7b2291e5b200ac8c7c3b925928290030190a350600192915050565b73ffffffffffffffffffffffffffffff",
  "ffffffffff8316600081815260026020908152604080832033845282528083205493835260019091528120549091",
  "90610871908463ffffffff610a6116565b73ffffffffffffffffffffffffffffffffffffffff8087166000908152",
  "6001602052604080822093909355908616815220546108b3908463ffffffff610b3d16565b73ffffffffffffffff",
  "ffffffffffffffffffffffff85166000908152600160205260409020556108e9818463ffffffff610a6116565b73",
  "ffffffffffffffffffffffffffffffffffffffff8087166000818152600260209081526040808320338452825291",
  "82902094909455805187815290519288169391927fddf252ad1be2c89b69c2b068fc378daa952ba7f163c4a11628",
  "f55a4df523b3ef929181900390910190a3506001949350505050565b600061096e8484610a73565b508373ffffff",
  "ffffffffffffffffffffffffffffffffff163373ffffffffffffffffffffffffffffffffffffffff167fe19260af",
  "f97b920c7df27010903aeb9c8d2be5d310a2c67824cf3f15396e4c16858560405180838152602001806020018281",
  "03825283818151815260200191508051906020019080838360005b83811015610a03578181015183820152602001",
  "6109eb565b50505050905090810190601f168015610a305780820380516001836020036101000a03191681526020",
  "0191505b50935050505060405180910390a3610a4784610b50565b15610a5757610a57848484610b58565b506001",
  "9392505050565b600082821115610a6d57fe5b50900390565b33600090815260016020526040812054610a939083",
  "63ffffffff610a6116565b336000908152600160205260408082209290925573ffffffffffffffffffffffffffff",
  "ffffffffffff851681522054610ad2908363ffffffff610b3d16565b73ffffffffffffffffffffffffffffffffff",
  "ffffff84166000818152600160209081526040918290209390935580518581529051919233927fddf252ad1be2c8",
  "9b69c2b068fc378daa952ba7f163c4a11628f55a4df523b3ef9281900390910190a350600192915050565b818101",
  "82811015610b4a57fe5b92915050565b6000903b1190565b6040517fa4c0ed360000000000000000000000000000",
  "00000000000000000000000000008152336004820181815260248301859052606060448401908152845160648501",
  "528451879473ffffffffffffffffffffffffffffffffffffffff86169463a4c0ed36949093899389936084019060",
  "2085019080838360005b83811015610bec578181015183820152602001610bd4565b50505050905090810190601f",
  "168015610c195780820380516001836020036101000a031916815260200191505b50945050505050600060405180",
  "830381600087803b158015610c3a57600080fd5b505af1158015610c4e573d6000803e3d6000fd5b505050505050",
  "50505600a165627a7a723058200510e5d0a39032a2164e327a61afb7d6ca42ccd7cba5b81426f9afd72a18ead000",
  "29"]

/-- The typed methods. -/
def methods : List Method := [
  ⟨"name", "name", [], .call [("", .text)]⟩,
  ⟨"total_supply", "totalSupply", [], .call [("", .word)]⟩,
  ⟨"decimals", "decimals", [], .call [("", .unsigned 8)]⟩,
  ⟨"balance_of", "balanceOf", [("owner", .address)], .call [("", .word)]⟩,
  ⟨"symbol", "symbol", [], .call [("", .text)]⟩,
  ⟨"allowance", "allowance", [("owner", .address), ("spender", .address)], .call [("", .word)]⟩,
  ⟨"approve", "approve", [("spender", .address), ("value", .word)], .transaction⟩,
  ⟨"transfer_from", "transferFrom",
    [("from", .address), ("to", .address), ("value", .word)],
    .transaction⟩,
  ⟨"transfer_and_call", "transferAndCall",
    [("to", .address), ("value", .word), ("data", .bytes)],
    .transaction⟩,
  ⟨"decrease_approval", "decreaseApproval",
    [("spender", .address), ("subtracted_value", .word)],
    .transaction⟩,
  ⟨"transfer", "transfer", [("to", .address), ("value", .word)], .transaction⟩,
  ⟨"increase_approval", "increaseApproval",
    [("spender", .address), ("added_value", .word)],
    .transaction⟩]

/-- The typed events. -/
def events : List EventBinding := [
  ⟨"Transfer", "transfer", "Transfer", "Transfer(address,address,uint256,bytes)",
    [("from", .address), ("to", .address), ("value", .word), ("data", .bytes)],
    [("from", .address), ("to", .address)]⟩,
  ⟨"Approval", "approval", "Approval", "Approval(address,address,uint256)",
    [("owner", .address), ("spender", .address), ("value", .word)],
    [("owner", .address), ("spender", .address)]⟩,
  ⟨"Transfer0", "transfer0", "Transfer", "Transfer(address,address,uint256)",
    [("from", .address), ("to", .address), ("value", .word)],
    [("from", .address), ("to", .address)]⟩]

/-- The typed methods and events, and the arguments of a deployment. -/
def binding : Binding where
  metadata := ⟨"LinkToken", documentText document, some bytecode⟩
  deployment? := some []
  methods := methods
  events := events

end AbiBindings.Bundled.LinkToken
