import AbiBindings.Abi.Document
import AbiBindings.Abi.Encode
import AbiBindings.Abi.Log
import AbiBindings.Bytes.Rlp
import AbiBindings.Abi.Topic
import AbiBindings.Chain.Action

/-!
# Bound contracts

An interface at an address, and what can be done with it on a chain.

* `Contract.calldata`: the selector of a method and its encoded arguments.
* `Contract.call`: a constant call. Empty output is only decoded if there is code at the address.
* `Contract.transact`, `Contract.transfer`: a transaction; an open nonce is asked for if the sender
  is known.
* `Contract.deploy`: the creation of a contract at the address that sender and nonce determine.
* `Contract.pastLogs`, `Contract.subscribe`: the logs of an event.
* `Contract.unpack`: the typed record of a log.
-/

namespace AbiBindings

/-- An interface at an address. -/
structure Contract where
  address : Address
  interface : Abi.Interface
  deriving DecidableEq

/-- A transaction that a node has accepted, as it was handed over. -/
structure Pending where
  hash : Hash
  tx : Tx
  deriving Repr, DecidableEq

/-- A type of events: its name, its canonical signature, and how its values are read from decoded
arguments. -/
structure EventType where
  name : String
  signature : String
  Value : Type
  read : List Abi.Token → Except Mismatch Value

/-- The first topic of every log of the event type. -/
def EventType.topic (e : EventType) : Hash := Keccak.ofText e.signature

/-- An event with the log that it comes from. -/
structure Record (e : EventType) where
  event : e.Value
  log : Log

/-- Whether a reorganisation dropped the event. -/
def Record.removed {e : EventType} (r : Record e) : Bool := r.log.removed?.getD false

/-- The address of a contract that an account creates with a transaction of some nonce. -/
def createdAddress (creator : Address) (nonce : Nat) : Address :=
  let hash := keccak256 (Rlp.list [.bytes creator.toList, .number nonce]).encode
  Vector.ofFn fun i => hash[i.val + 12]

namespace Contract

/-- The interface of a text at an address. -/
def bind (address : Address) (text : String) : Except Error Contract :=
  match Abi.Interface.parse? text with
  | some interface => .ok ⟨address, interface⟩
  | none => .error (.abi .notJson)

/-! ## Calls -/

/-- The function that a method text selects. -/
def function (c : Contract) (method : String) : Except Error Abi.Function :=
  match c.interface.function? method with
  | some f => .ok f
  | none => .error (.abi (.unknownMethod method))

/-- The event of a canonical signature. -/
def event (c : Contract) (signature : String) : Except Error Abi.Event :=
  match c.interface.event? signature with
  | some e => .ok e
  | none => .error (.abi (.unknownEvent signature))

/-- The selector of a method and its encoded arguments. -/
def calldata (c : Contract) (method : String) (args : List Abi.Token) : Except Error Bytes :=
  match c.function method with
  | .error e => .error e
  | .ok f =>
    if Abi.fitsAll args f.inputTypes then .ok (f.selector ++ Abi.encode args)
    else .error (.abi (.badArguments method))

/-- The message call of some calldata. -/
def message (c : Contract) (o : CallOptions) (data : Bytes) : Tx where
  to? := some c.address
  from? := o.from?
  value? := none
  nonce? := none
  gas? := none
  gasPrice? := none
  data := data

/-- A constant call with calldata as it is. -/
def callRaw (c : Contract) (o : CallOptions) (data : Bytes) : Action Bytes := do
  let output ← Action.request (.call (c.message o data) o.state?)
  if output.isEmpty then
    let code ← Action.request (.code c.address o.state?)
    if code.isEmpty then .fail .noCode else pure output
  else pure output

/-- The values in the output of a function. -/
def decodeOutput (method : String) (f : Abi.Function) (output : Bytes) :
    Except Error (List Abi.Token) :=
  match Abi.decode f.outputTypes output with
  | .ok values => .ok values
  | .error cause => .error (.decode (.output method cause))

/-- A constant call of a method. -/
def call (c : Contract) (o : CallOptions) (method : String) (args : List Abi.Token) :
    Action (List Abi.Token) := do
  let f ← Action.ofExcept (c.function method)
  let data ← Action.ofExcept (c.calldata method args)
  let output ← c.callRaw o data
  Action.ofExcept (decodeOutput method f output)

/-- The values of types from decoded values. -/
def typed (fields : Fields) (values : List Abi.Token) : Except Error fields.Values :=
  match Fields.ofTokens fields values with
  | .ok v => .ok v
  | .error cause => .error (.decode (.mismatch cause))

/-- A constant call of a method whose output has given types. -/
def callTyped (fields : Fields) (c : Contract) (o : CallOptions) (method : String)
    (args : List Abi.Token) : Action fields.Values := do
  let values ← c.call o method args
  Action.ofExcept (typed fields values)

/-! ## Transactions -/

/-- The nonce of a transaction: the chosen one, else the next one of the sender, if there is one. -/
def nonceFor (o : TransactOptions) : Action (Option Nat) :=
  match o.nonce?, o.from? with
  | some n, _ => pure (some n)
  | none, some account => do
    let n ← Action.request (.nonce account)
    pure (some n)
  | none, none => pure none

/-- The transaction of the options with a nonce; its value is zero if none is chosen. -/
def transaction (o : TransactOptions) (to? : Option Address) (data : Bytes) (nonce? : Option Nat) :
    Tx where
  to? := to?
  from? := o.from?
  value? := some (o.value?.getD 0)
  nonce? := nonce?
  gas? := o.gasLimit?
  gasPrice? := o.gasPrice?
  data := data

/-- Sends a transaction. -/
def send (o : TransactOptions) (to? : Option Address) (data : Bytes) : Action Pending := do
  let nonce? ← nonceFor o
  let tx := transaction o to? data nonce?
  let hash ← Action.request (.send tx)
  pure ⟨hash, tx⟩

/-- A transaction with calldata as it is. -/
def transactRaw (c : Contract) (o : TransactOptions) (data : Bytes) : Action Pending :=
  send o (some c.address) data

/-- A transaction that calls a method. -/
def transact (c : Contract) (o : TransactOptions) (method : String) (args : List Abi.Token) :
    Action Pending := do
  let data ← Action.ofExcept (c.calldata method args)
  c.transactRaw o data

/-- A transaction without calldata. -/
def transfer (c : Contract) (o : TransactOptions) : Action Pending := c.transactRaw o []

/-- What became of a transaction; nothing while it is not in a block. -/
def receipt (p : Pending) : Action (Option Receipt) := Action.request (.receipt p.hash)

/-- The creation code followed by the encoded arguments of the constructor. -/
def creationData (interface : Abi.Interface) (code : Bytes) (args : List Abi.Token) :
    Except Error Bytes :=
  match interface.constructor? with
  | some inputs =>
    if Abi.fitsAll args (inputs.map (·.type)) then .ok (code ++ Abi.encode args)
    else .error (.abi .badConstructorArguments)
  | none =>
    if args.isEmpty then .ok code else .error (.abi (.surplusArguments args.length))

/-- Creates a contract: its address, the transaction, and the interface at the address. -/
def deploy (o : TransactOptions) (interface : Abi.Interface) (code : Bytes)
    (args : List Abi.Token) : Action (Address × Pending × Contract) :=
  match o.from? with
  | none => .fail (.config .noSender)
  | some creator => do
    let data ← Action.ofExcept (creationData interface code args)
    let nonce ←
      match o.nonce? with
      | some n => pure n
      | none => Action.request (.nonce creator)
    let address := createdAddress creator nonce
    let pending ← send (o.nonce nonce) none data
    pure (address, pending, ⟨address, interface⟩)

/-! ## Logs -/

/-- What a filter asks of the topic of one argument: one of the values, or anything if there are
none. -/
def topicSet (topics : List Hash) : TopicSet := if topics.isEmpty then .any else .oneOf topics

/-- The filter for logs of an event with one set of topics for each indexed argument. -/
def eventFilter (c : Contract) (e : Abi.Event) (topics : List (List Hash)) : Except Error Filter :=
  if topicLimit < topics.length then .error (.abi (.tooManyTopics e.name topics.length))
  else
    let sets := topics.map topicSet
    .ok {
      address? := some c.address
      from? := none
      to? := none
      topics := .one e.topic :: sets ++ List.replicate (topicLimit - sets.length) .any }

/-- The past logs of an event. -/
def pastLogs (c : Contract) (o : FilterOptions) (signature : String) (topics : List (List Hash)) :
    Action (List Log) := do
  let e ← Action.ofExcept (c.event signature)
  let filter ← Action.ofExcept (c.eventFilter e topics)
  let end_ := match o.last? with
    | some n => Block.number n
    | none => .latest
  Action.request (.logs { filter with from? := some (.number o.start), to? := some end_ })

/-- Subscribes to the logs of an event from now on. -/
def subscribe (c : Contract) (o : WatchOptions) (signature : String) (topics : List (List Hash)) :
    Action Unit := do
  let e ← Action.ofExcept (c.event signature)
  let filter ← Action.ofExcept (c.eventFilter e topics)
  Action.request (.subscribe { filter with from? := o.start?.map .number })

/-- The typed record of a log. -/
def unpack (c : Contract) (t : EventType) (log : Log) : Except Error (Record t) :=
  match c.event t.signature with
  | .error e => .error e
  | .ok e =>
    if log.topics.head? ≠ some e.topic then .error (.decode (.otherEvent t.name))
    else
      match e.decodeLog log.topics log.data with
      | .error cause => .error (.decode (.log t.name cause))
      | .ok values =>
        match t.read values with
        | .ok event => .ok ⟨event, log⟩
        | .error cause => .error (.decode (.mismatch cause))

/-- The text of a bound contract in a diagnostic. -/
def describe (c : Contract) : String :=
  "BoundContract \x7b address: " ++ Hex.encodePrefixed c.address.toList ++ " \x7d"

end Contract

end AbiBindings
