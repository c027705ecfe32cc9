import AbiBindings.Bytes.Basic

/-!
# What a chain holds and is asked

* `Log`, `Receipt`: what a chain reports.
* `Tx`: a message call or transaction as it is handed to a node.
* `Filter`: which logs are asked for; `Filter.matches` is the rule of the node.
* `CallOptions`, `TransactOptions`, `FilterOptions`, `WatchOptions`: the choices of a caller, and
  how they are built up.
-/

namespace AbiBindings

/-- A log entry. -/
structure Log where
  address : Address
  topics : List Hash
  data : Bytes
  block? : Option Nat
  blockHash? : Option Hash
  txHash? : Option Hash
  index? : Option Nat
  /-- Whether a reorganisation dropped the entry, if the node says so. -/
  removed? : Option Bool
  deriving Repr, DecidableEq

/-- What became of a transaction. -/
structure Receipt where
  hash : Hash
  block? : Option Nat
  status? : Option Nat
  contract? : Option Address
  deriving Repr, DecidableEq

/-- The state that a question is about. -/
inductive Block where
  | number (n : Nat)
  | latest
  | pending
  deriving Repr, DecidableEq

/-- A message call or transaction; what is unset is left to the node. -/
structure Tx where
  to? : Option Address
  from? : Option Address
  value? : Option Nat
  nonce? : Option Nat
  gas? : Option Nat
  gasPrice? : Option Nat
  data : Bytes
  deriving Repr, DecidableEq

/-- What a topic may be. -/
inductive TopicSet where
  | any
  | one (topic : Hash)
  | oneOf (topics : List Hash)
  deriving Repr, DecidableEq

/-- Which logs are asked for: those of an address, in a range of blocks, whose first four topics are
as given. -/
structure Filter where
  address? : Option Address
  from? : Option Block
  to? : Option Block
  topics : List TopicSet
  deriving Repr, DecidableEq

/-- The filter that restricts nothing. -/
def Filter.everything : Filter := ⟨none, none, none, [.any, .any, .any, .any]⟩

/-- Whether a position of a log may be as it is; a missing topic is only accepted where any is. -/
def TopicSet.accepts : TopicSet → Option Hash → Bool
  | .any, _ => true
  | .one topic, found => found == some topic
  | .oneOf topics, found => found.any topics.contains

/-- Whether the topics of a log are accepted, position by position. -/
def TopicSet.acceptAll : List TopicSet → List Hash → Bool
  | [], _ => true
  | s :: sets, topics => s.accepts topics.head? && acceptAll sets topics.tail

/-- Whether a log is asked for, apart from the range of blocks. -/
def Filter.matches (f : Filter) (log : Log) : Bool :=
  (f.address?.all (· == log.address)) && TopicSet.acceptAll f.topics log.topics

/-! ## Options -/

/-- The choices for a constant call. -/
structure CallOptions where
  pending : Bool
  from? : Option Address
  block? : Option Nat
  deriving Repr, DecidableEq

namespace CallOptions

/-- A call by nobody on the latest state. -/
def default : CallOptions := ⟨false, none, none⟩

/-- The call by an account. -/
def from_ (o : CallOptions) (account : Address) : CallOptions := { o with from? := some account }

/-- The call on the state of a block. -/
def atBlock (o : CallOptions) (block : Nat) : CallOptions := { o with block? := some block }

/-- The call on the pending state, whatever block is chosen. -/
def onPending (o : CallOptions) : CallOptions := { o with pending := true }

/-- The state that the call is about, if one is chosen. -/
def state? (o : CallOptions) : Option Block :=
  if o.pending then some .pending else o.block?.map .number

end CallOptions

/-- The choices for a transaction. -/
structure TransactOptions where
  from? : Option Address
  nonce? : Option Nat
  value? : Option Nat
  gasPrice? : Option Nat
  gasLimit? : Option Nat
  deriving Repr, DecidableEq

namespace TransactOptions

/-- A transaction for which everything is left open. -/
def default : TransactOptions := ⟨none, none, none, none, none⟩

/-- The transaction by an account. -/
def from_ (o : TransactOptions) (account : Address) : TransactOptions :=
  { o with from? := some account }

/-- The transaction with a nonce. -/
def nonce (o : TransactOptions) (n : Nat) : TransactOptions := { o with nonce? := some n }

/-- The transaction with a value. -/
def value (o : TransactOptions) (n : Nat) : TransactOptions := { o with value? := some n }

/-- The transaction with a gas price. -/
def gasPrice (o : TransactOptions) (n : Nat) : TransactOptions := { o with gasPrice? := some n }

/-- The transaction with a gas limit. -/
def gasLimit (o : TransactOptions) (n : Nat) : TransactOptions := { o with gasLimit? := some n }

end TransactOptions

/-- The range of blocks of a query for past logs; it ends at the latest block if no end is chosen.
-/
structure FilterOptions where
  start : Nat
  last? : Option Nat
  deriving Repr, DecidableEq

/-- The first block of a subscription, if one is chosen. -/
structure WatchOptions where
  start? : Option Nat
  deriving Repr, DecidableEq

end AbiBindings
