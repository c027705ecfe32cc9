import AbiBindings.Bundled.Entry
import AbiBindings.Typed.Binding

/-!
# Flags

Flags that are raised and lowered for subjects, under access control.

* `Flags.document`: the ABI.
* `Flags.bytecode`: the creation code in hexadecimal digits.
* `Flags.binding`: the typed methods and events.
-/

namespace AbiBindings.Bundled.Flags

open Entry

/-- The ABI. -/
def document : Json := .array [
  constructor [value "racAddress" "address" "address"],
  event "AddedAccess" [argument false "user" "address" "address"],
  event "CheckAccessDisabled" [],
  event "CheckAccessEnabled" [],
  event "FlagLowered" [argument true "subject" "address" "address"],
  event "FlagRaised" [argument true "subject" "address" "address"],
  event "OwnershipTransferRequested"
    [argument true "from" "address" "address", argument true "to" "address" "address"],
  event "OwnershipTransferred"
    [argument true "from" "address" "address", argument true "to" "address" "address"],
  event "RaisingAccessControllerUpdated"
    [argument true "previous" "address" "address", argument true "current" "address" "address"],
  event "RemovedAccess" [argument false "user" "address" "address"],
  function "acceptOwnership" [] [] "nonpayable",
  function "addAccess" [value "_user" "address" "address"] [] "nonpayable",
  function "checkEnabled" [] [value "" "bool" "bool"] "view",
  function "disableAccessCheck" [] [] "nonpayable",
  function "enableAccessCheck" [] [] "nonpayable",
  function "getFlag" [value "subject" "address" "address"] [value "" "bool" "bool"] "view",
  function "getFlags"
    [value "subjects" "address[]" "address[]"]
    [value "" "bool[]" "bool[]"] "view",
  function "hasAccess"
    [value "_user" "address" "address", value "_calldata" "bytes" "bytes"]
    [value "" "bool" "bool"] "view",
  function "lowerFlags" [value "subjects" "address[]" "address[]"] [] "nonpayable",
  function "owner" [] [value "" "address" "address"] "view",
  function "raiseFlag" [value "subject" "address" "address"] [] "nonpayable",
  function "raiseFlags" [value "subjects" "address[]" "address[]"] [] "nonpayable",
  function "raisingAccessController"
    []
    [value "" "address" "contractAccessControllerInterface"] "view",
  function "removeAccess" [value "_user" "address" "address"] [] "nonpayable",
  function "setRaisingAccessController" [value "racAddress" "address" "address"] [] "nonpayable",
  function "transferOwnership" [value "to" "address" "address"] [] "nonpayable"]

/-- The creation code. -/
def bytecode : String := String.join [
  "0x60806040523480156200001157600080fd5b506040516200101838038062001018833981016040819052620000",
  "349162000263565b33806000816200008b5760405162461bcd60e51b815260206004820152601860248201527f43",
  "616e6e6f7420736574206f776e657220746f207a65726f000000000000000060448201526064015b604051809103",
  "90fd5b600080546001600160a01b0319166001600160a01b0384811691909117909155811615620000be57620000",
  "be81620000e6565b50506001805460ff60a01b1916600160a01b17905550620000df8162000191565b5062000295",
  "565b336001600160a01b03821603620001405760405162461bcd60e51b815260206004820152601760248201527f",
  "43616e6e6f74207472616e7366657220746f2073656c66000000000000000000604482015260640162000082565b",
  "600180546001600160a01b0319166001600160a01b0383811691821790925560008054604051929316917fed8889",
  "f560326eb138920d842192f0eb3dd22b4f139c87a2c57538e05bae12789190a350565b6200019b62000205565b60",
  "03546001600160a01b0390811690821681146200020157600380546001600160a01b0319166001600160a01b0384",
  "811691821790925560405190918316907fbaf9ea078655a4fffefd08f9435677bbc91e457a6d015fe7de1d0e68b8",
  "802cac90600090a35b5050565b6000546001600160a01b03163314620002615760405162461bcd60e51b81526020",
  "6004820152601660248201527f4f6e6c792063616c6c61626c65206279206f776e65720000000000000000000060",
  "4482015260640162000082565b565b6000602082840312156200027657600080fd5b81516001600160a01b038116",
  "81146200028e57600080fd5b9392505050565b610d7380620002a56000396000f3fe608060405234801561001057",
  "600080fd5b50600436106100e05760003560e01c80637d723cac116100875780637d723cac1461018f5780638038",
  "e4a1146101af5780638823da6c146101b75780638da5cb5b146101ca578063a118f249146101db578063d74af263",
  "146101ee578063dc7f012414610201578063f2fde38b1461021557600080fd5b80630a756983146100e557806328",
  "286596146100ef5780632e1d859c14610102578063357e47fe1461012b578063517e89fe1461014e5780636b14da",
  "f814610161578063760bc82d1461017457806379ba509714610187575b600080fd5b6100ed610228565b005b6100",
  "ed6100fd366004610a6e565b61027b565b600354610115906001600160a01b031681565b6040516101229190610a",
  "e3565b60405180910390f35b61013e610139366004610b0e565b61033a565b604051901515815260200161012256",
  "5b6100ed61015c366004610b0e565b6103c5565b61013e61016f366004610b3f565b610436565b6100ed61018236",
  "6004610a6e565b61045c565b6100ed6104cc565b6101a261019d366004610a6e565b610576565b60405161012291",
  "90610c01565b6100ed6106b0565b6100ed6101c5366004610b0e565b610707565b6000546001600160a01b031661",
  "0115565b6100ed6101e9366004610b0e565b61078c565b6100ed6101fc366004610b0e565b610807565b60015461",
  "013e90600160a01b900460ff1681565b6100ed610223366004610b0e565b610834565b610230610845565b600154",
  "600160a01b900460ff1615610279576001805460ff60a01b191690556040517f3be8a977a014527b50ae38adda80",
  "b56911c267328965c98ddc385d248f53963890600090a15b565b610283610845565b60005b818110156103355760",
  "008383838181106102a2576102a2610c47565b90506020020160208101906102b79190610b0e565b6001600160a0",
  "1b03811660009081526004602052604090205490915060ff1615610322576001600160a01b038116600081815260",
  "046020526040808220805460ff19169055517fd86728e2e5cbaa28c1d357b5fbccc9c1ab0add09950eb7cac42df9",
  "acb24c4bc89190a25b508061032d81610c5d565b915050610286565b505050565b600061037d336000368080601f",
  "01602080910402602001604051908101604052809392919081815260200183838082843760009201919091525061",
  "043692505050565b6103a25760405162461bcd60e51b815260040161039990610c84565b60405180910390fd5b50",
  "6001600160a01b03811660009081526004602052604090205460ff165b919050565b6103cd610845565b60035460",
  "01600160a01b03908116908216811461043257600380546001600160a01b0319166001600160a01b038481169182",
  "1790925560405190918316907fbaf9ea078655a4fffefd08f9435677bbc91e457a6d015fe7de1d0e68b8802cac90",
  "600090a35b5050565b60006104428383610898565b8061045557506001600160a01b03831632145b939250505056",
  "5b6104646108cf565b6104805760405162461bcd60e51b815260040161039990610ca7565b60005b818110156103",
  "35576104ba8383838181106104a0576104a0610c47565b90506020020160208101906104b59190610b0e565b6109",
  "5f565b806104c481610c5d565b915050610483565b6001546001600160a01b0316331461051f5760405162461bcd",
  "60e51b815260206004820152601660248201527526bab9ba10313290383937b837b9b2b21037bbb732b960511b60",
  "44820152606401610399565b60008054336001600160a01b03198083168217845560018054909116905560405160",
  "01600160a01b0390921692909183917f8be0079c531659141344cd1fd0a4f28419497f9722a3daafe3b4186f6b64",
  "57e091a350565b60606105b9336000368080601f0160208091040260200160405190810160405280939291908181",
  "5260200183838082843760009201919091525061043692505050565b6105d55760405162461bcd60e51b81526004",
  "0161039990610c84565b60008267ffffffffffffffff8111156105f0576105f0610b29565b604051908082528060",
  "200260200182016040528015610619578160200160208202803683370190505b50905060005b838110156106a857",
  "6004600086868481811061063d5761063d610c47565b90506020020160208101906106529190610b0e565b600160",
  "0160a01b03168152602081019190915260400160002054825160ff9091169083908390811061068657610686610c",
  "47565b91151560209283029190910190910152806106a081610c5d565b91505061061f565b509392505050565b61",
  "06b8610845565b600154600160a01b900460ff16610279576001805460ff60a01b1916600160a01b179055604051",
  "7faebf329500988c6488a0074e5a0a9ff304561fc5c6fc877aeb1d59c8282c348090600090a1565b61070f610845",
  "565b6001600160a01b03811660009081526002602052604090205460ff1615610789576001600160a01b03811660",
  "009081526002602052604090819020805460ff19169055517f3d68a6fce901d20453d1a7aa06bf3950302a735948",
  "037deb182a8db66df2a0d190610780908390610ae3565b60405180910390a15b50565b610794610845565b600160",
  "0160a01b03811660009081526002602052604090205460ff16610789576001600160a01b03811660009081526002",
  "602052604090819020805460ff19166001179055517f87286ad1f399c8e82bf0c4ef4fcdc570ea2e1e92176e5c84",
  "8b6413545b885db490610780908390610ae3565b61080f6108cf565b61082b5760405162461bcd60e51b81526004",
  "0161039990610ca7565b6107898161095f565b61083c610845565b610789816109cb565b6000546001600160a01b",
  "031633146102795760405162461bcd60e51b815260206004820152601660248201527527b7363c9031b0b63630b1",
  "363290313c9037bbb732b960511b6044820152606401610399565b6001600160a01b038216600090815260026020",
  "52604081205460ff1680610455575050600154600160a01b900460ff161592915050565b600080546001600160a0",
  "1b031633148061095a5750600354604051630d629b5f60e31b81526001600160a01b0390911690636b14daf89061",
  "09199033906000903690600401610cdb565b602060405180830381865afa158015610936573d6000803e3d6000fd",
  "5b505050506040513d601f19601f8201168201806040525081019061095a9190610d1b565b905090565b60016001",
  "60a01b03811660009081526004602052604090205460ff16610789576001600160a01b0381166000818152600460",
  "20526040808220805460ff19166001179055517f881febd4cd194dd4ace637642862aef1fb59a65c7e5551a5d920",
  "8f268d11c0069190a250565b336001600160a01b03821603610a1d5760405162461bcd60e51b8152602060048201",
  "52601760248201527621b0b73737ba103a3930b739b332b9103a379039b2b63360491b6044820152606401610399",
  "565b600180546001600160a01b0319166001600160a01b0383811691821790925560008054604051929316917fed",
  "8889f560326eb138920d842192f0eb3dd22b4f139c87a2c57538e05bae12789190a350565b600080602083850312",
  "15610a8157600080fd5b823567ffffffffffffffff80821115610a9957600080fd5b818501915085601f83011261",
  "0aad57600080fd5b813581811115610abc57600080fd5b8660208260051b8501011115610ad157600080fd5b6020",
  "9290920196919550909350505050565b6001600160a01b0391909116815260200190565b80356001600160a01b03",
  "811681146103c057600080fd5b600060208284031215610b2057600080fd5b61045582610af7565b634e487b7160",
  "e01b600052604160045260246000fd5b60008060408385031215610b5257600080fd5b610b5b83610af7565b9150",
  "602083013567ffffffffffffffff80821115610b7857600080fd5b818501915085601f830112610b8c57600080fd",
  "5b813581811115610b9e57610b9e610b29565b604051601f8201601f19908116603f011681019083821181831017",
  "15610bc657610bc6610b29565b81604052828152886020848701011115610bdf57600080fd5b8260208601602083",
  "013760006020848301015280955050505050509250929050565b6020808252825182820181905260009190848201",
  "906040850190845b81811015610c3b578351151583529284019291840191600101610c1d565b5090969550505050",
  "5050565b634e487b7160e01b600052603260045260246000fd5b600060018201610c7d57634e487b7160e01b6000",
  "52601160045260246000fd5b5060010190565b6020808252600990820152684e6f2061636365737360b81b604082",
  "015260600190565b6020808252601a90820152794e6f7420616c6c6f77656420746f20726169736520666c616773",
  "60301b604082015260600190565b6001600160a01b03841681526040602082018190528101829052818360608301",
  "376000818301606090810191909152601f909201601f1916010192915050565b600060208284031215610d2d5760",
  "0080fd5b8151801515811461045557600080fdfea26469706673582212207a80c72a55d52a53a1d8e4e8f31dee71",
  "ff7da558dc68138037d9b7a4a8d8dad264736f6c634300080d0033"]

/-- The typed methods. -/
def methods : List Method := [
  ⟨"check_enabled", "checkEnabled", [], .call [("", .bool)]⟩,
  ⟨"get_flag", "getFlag", [("subject", .address)], .call [("", .bool)]⟩,
  ⟨"get_flags", "getFlags", [("subjects", .list .address)], .call [("", .list .bool)]⟩,
  ⟨"has_access", "hasAccess", [("user", .address), ("calldata", .bytes)], .call [("", .bool)]⟩,
  ⟨"owner", "owner", [], .call [("", .address)]⟩,
  ⟨"raising_access_controller", "raisingAccessController", [], .call [("", .address)]⟩,
  ⟨"accept_ownership", "acceptOwnership", [], .transaction⟩,
  ⟨"add_access", "addAccess", [("user", .address)], .transaction⟩,
  ⟨"disable_access_check", "disableAccessCheck", [], .transaction⟩,
  ⟨"enable_access_check", "enableAccessCheck", [], .transaction⟩,
  ⟨"lower_flags", "lowerFlags", [("subjects", .list .address)], .transaction⟩,
  ⟨"raise_flag", "raiseFlag", [("subject", .address)], .transaction⟩,
  ⟨"raise_flags", "raiseFlags", [("subjects", .list .address)], .transaction⟩,
  ⟨"remove_access", "removeAccess", [("user", .address)], .transaction⟩,
  ⟨"set_raising_access_controller", "setRaisingAccessController",
    [("rac_address", .address)],
    .transaction⟩,
  ⟨"transfer_ownership", "transferOwnership", [("to", .address)], .transaction⟩]

/-- The typed events. -/
def events : List EventBinding := [
  ⟨"AddedAccess", "added_access", "AddedAccess", "AddedAccess(address)",
    [("user", .address)],
    []⟩,
  ⟨"CheckAccessDisabled", "check_access_disabled", "CheckAccessDisabled", "CheckAccessDisabled()",
    [],
    []⟩,
  ⟨"CheckAccessEnabled", "check_access_enabled", "CheckAccessEnabled", "CheckAccessEnabled()",
    [],
    []⟩,
  ⟨"FlagLowered", "flag_lowered", "FlagLowered", "FlagLowered(address)",
    [("subject", .address)],
    [("subject", .address)]⟩,
  ⟨"FlagRaised", "flag_raised", "FlagRaised", "FlagRaised(address)",
    [("subject", .address)],
    [("subject", .address)]⟩,
  ⟨"OwnershipTransferRequested", "ownership_transfer_requested", "OwnershipTransferRequested",
    "OwnershipTransferRequested(address,address)",
    [("from", .address), ("to", .address)],
    [("from", .address), ("to", .address)]⟩,
  ⟨"OwnershipTransferred", "ownership_transferred", "OwnershipTransferred",
    "OwnershipTransferred(address,address)",
    [("from", .address), ("to", .address)],
    [("from", .address), ("to", .address)]⟩,
  ⟨"RaisingAccessControllerUpdated", "raising_access_controller_updated",
    "RaisingAccessControllerUpdated",
    "RaisingAccessControllerUpdated(address,address)",
    [("previous", .address), ("current", .address)],
    [("previous", .address), ("current", .address)]⟩,
  ⟨"RemovedAccess", "removed_access", "RemovedAccess", "RemovedAccess(address)",
    [("user", .address)],
    []⟩]

/-- The typed methods and events, and the arguments of a deployment. -/
def binding : Binding where
  metadata := ⟨"Flags", documentText document, some bytecode⟩
  deployment? := some [("rac_address", .address)]
  methods := methods
  events := events

end AbiBindings.Bundled.Flags
