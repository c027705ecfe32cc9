import AbiBindings.Abi.Decode
import AbiBindings.Config
import AbiBindings.Typed.Shape

/-!
# Errors

Every failure of the library, by its cause.

* `Error.kind`, `Error.message`: the class of an error and its wording.
* `Error.ofRpc`: a failure that a node reports; one that speaks of a revert is a revert.
-/

namespace AbiBindings

/-- What is wrong with an ABI or with values used with it. -/
inductive AbiFault where
  | other (text : String)
  | notJson
  | badInterface (contract : String)
  | badDocument
  | badType (type parameter : String)
  | unnamedEvent
  | nothingToBind (contract : String)
  | unknownMethod (method : String)
  | unknownEvent (signature : String)
  | badArguments (method : String)
  | badConstructorArguments
  | surplusArguments (count : Nat)
  | tooManyTopics (event : String) (count : Nat)
  | badBytecode (contract : String) (cause : Hex.DecodeError)
  deriving Repr, DecidableEq

/-- The most indexed arguments that a filter can restrict. -/
def topicLimit : Nat := 3

/-- The wording of the fault. -/
def AbiFault.message : AbiFault → String
  | .other text => text
  | .notJson => "JSON parsing error: " ++ unstated
  | .badInterface contract => "Invalid ABI for " ++ contract ++ ": " ++ unstated
  | .badDocument => "Invalid ABI: " ++ unstated
  | .badType type parameter =>
    "Invalid ABI type '" ++ type ++ "' for parameter '" ++ parameter ++ "'"
  | .unnamedEvent => "Event must have a name"
  | .nothingToBind contract => "ABI for " ++ contract ++ " has no functions or events"
  | .unknownMethod method => "Method '" ++ method ++ "' not found in ABI"
  | .unknownEvent signature => "Event '" ++ signature ++ "' not found in ABI"
  | .badArguments method => "Failed to encode arguments for '" ++ method ++ "': Invalid data"
  | .badConstructorArguments => "Failed to encode constructor arguments: Invalid data"
  | .surplusArguments count =>
    "Constructor takes no arguments but " ++ toString count ++ " were given"
  | .tooManyTopics event count =>
    "Event '" ++ event ++ "' filter has " ++ toString count ++
      " indexed positions, at most " ++ toString topicLimit ++ " are allowed"
  | .badBytecode contract cause =>
    "Invalid bytecode for " ++ contract ++ ": " ++ cause.message

/-- Why returned data or a log does not have the expected form. -/
inductive DecodeFault where
  | other (text : String)
  | output (method : String) (cause : Abi.DecodeError)
  | otherEvent (event : String)
  | log (event : String) (cause : Abi.DecodeError)
  | mismatch (cause : Mismatch)
  deriving DecidableEq

/-- The wording of the fault. -/
def DecodeFault.message : DecodeFault → String
  | .other text => text
  | .output method cause => "Failed to decode output of '" ++ method ++ "': " ++ cause.message
  | .otherEvent event => "Log is not a " ++ event ++ " event (signature mismatch)"
  | .log event cause => "Failed to decode " ++ event ++ " log: " ++ cause.message
  | .mismatch cause => cause.message

/-- What is wrong with the configuration or with an input file. -/
inductive ConfigFault where
  | other (text : String)
  | io (text : String)
  | file (cause : Files.FileError)
  | invalid (cause : ConfigError)
  | badLevel (level : String)
  | otherChain (reported configured : Nat)
  | noSender
  | noBytecode (contract : String)
  | unnamedContract
  | emptyContractName
  | contractNameStart (name : String)
  | contractNameCharacter (name : String)
  | unreadableAbi (path : String) (cause : Files.FileError)
  | abiNotJson
  | unreadableBytecode (path : String) (cause : Files.FileError)
  | bytecodeNotHex (cause : Hex.DecodeError)
  | outputDirectory (cause : Files.FileError)
  | unwritable (path : String) (cause : Files.FileError)
  deriving Repr, DecidableEq

/-- The wording of the fault. -/
def ConfigFault.message : ConfigFault → String
  | .other text => text
  | .io text => "I/O error: " ++ text
  | .file cause => "I/O error: " ++ cause.message
  | .invalid cause => cause.message
  | .badLevel level => "Invalid log level '" ++ level ++ "': " ++ unstated
  | .otherChain reported configured =>
    "Node reports chain id " ++ toString reported ++ " but " ++ toString configured ++
      " was configured"
  | .noSender => "Deployment requires a sender address"
  | .noBytecode contract => contract ++ " has no bundled bytecode"
  | .unnamedContract => "Contract name is required"
  | .emptyContractName => "Contract name cannot be empty"
  | .contractNameStart name => "Contract name must start with a letter: " ++ name
  | .contractNameCharacter name =>
    "Contract name may only contain letters, digits and underscores: " ++ name
  | .unreadableAbi path cause => "Failed to read ABI file " ++ path ++ ": " ++ cause.message
  | .abiNotJson => "Invalid JSON in ABI file: " ++ unstated
  | .unreadableBytecode path cause =>
    "Failed to read bytecode file " ++ path ++ ": " ++ cause.message
  | .bytecodeNotHex cause => "Bytecode is not valid hex: " ++ cause.message
  | .outputDirectory cause => "Failed to create output directory: " ++ cause.message
  | .unwritable path cause => "Failed to write file " ++ path ++ ": " ++ cause.message

/-- Why a node could not be reached or did not answer. -/
inductive TransportFault where
  | other (text : String)
  | badUrl
  | websocket
  | chainId (text : String)
  | blockNumber (text : String)
  deriving Repr, DecidableEq

/-- The wording of the fault. -/
def TransportFault.message : TransportFault → String
  | .other text => text
  | .badUrl => "Failed to create Ethereum HTTP provider: " ++ unstated
  | .websocket => "Failed to connect to Ethereum node via WebSocket: " ++ unstated
  | .chainId text => "Failed to get chain id: " ++ text
  | .blockNumber text => "Failed to get block number: " ++ text

/-- Why a subscription failed. -/
inductive SubscriptionFault where
  | other (text : String)
  | streamEnded
  | exited
  deriving Repr, DecidableEq

/-- The wording of the fault. -/
def SubscriptionFault.message : SubscriptionFault → String
  | .other text => text
  | .streamEnded => "Log filter stream ended unexpectedly"
  | .exited => "Log watcher exited before installing its filter"

/-- A failure of the library. -/
inductive Error where
  | abi (fault : AbiFault)
  | transport (fault : TransportFault)
  | decode (fault : DecodeFault)
  | revert (text : String)
  | subscription (fault : SubscriptionFault)
  | noCode
  | config (fault : ConfigFault)
  | generic (text : String)
  /-- A failure from outside, with its own wording. -/
  | foreign (text : String)
  deriving DecidableEq

/-- The class of an error. -/
inductive ErrorKind where
  | abi
  | transport
  | decode
  | revert
  | subscription
  | noCode
  | config
  | generic
  | foreign
  deriving Repr, DecidableEq

namespace Error

/-- The class of an error. -/
def kind : Error → ErrorKind
  | .abi _ => .abi
  | .transport _ => .transport
  | .decode _ => .decode
  | .revert _ => .revert
  | .subscription _ => .subscription
  | .noCode => .noCode
  | .config _ => .config
  | .generic _ => .generic
  | .foreign _ => .foreign

/-- The wording of an error. -/
def message : Error → String
  | .abi fault => "ABI error: " ++ fault.message
  | .transport fault => "Transport error: " ++ fault.message
  | .decode fault => "Failed to decode: " ++ fault.message
  | .revert text => "Execution reverted: " ++ text
  | .subscription fault => "Subscription error: " ++ fault.message
  | .noCode => "No contract code at given address"
  | .config fault => "Configuration error: " ++ fault.message
  | .generic text => text
  | .foreign text => text

/-- Whether returned data or a log had an unexpected form. -/
def isDecode (e : Error) : Bool := e.kind == .decode

/-- Whether a text occurs inside another. -/
def occurs (part : List Char) : List Char → Bool
  | [] => part.isEmpty
  | c :: rest => part.isPrefixOf (c :: rest) || occurs part rest

/-- The word by which a node says that an execution was undone. -/
def revertWord : List Char := ['r', 'e', 'v', 'e', 'r', 't']

/-- A failure that a node reports. -/
def ofRpc (text : String) : Error :=
  if occurs revertWord (Text.lowerChars text.toList) then .revert text
  else .transport (.other text)

/-- A fault of the configuration as an error. -/
def ofConfig (e : ConfigError) : Error := .config (.invalid e)

/-- The check of a text that ought to be JSON. -/
def checkJson (text : String) : Except Error Unit :=
  match Json.parse text with
  | some _ => .ok ()
  | none => .error (.abi .notJson)

end Error

end AbiBindings
