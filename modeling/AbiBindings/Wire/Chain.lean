import AbiBindings.Chain.Script
import AbiBindings.Contract
import AbiBindings.Wire.Basic

/-!
# Logs, transactions and requests as documents

* `log`, `tx`, `filter`, `request`, `receipt`, `pending`: what a chain holds and is asked.
* `log?`, `receipt?`, `script?`: what a scripted chain answers.
* `callOptions?`, `transactOptions?`, `filterOptions?`, `watchOptions?`: the choices of a caller,
  and `callChoice?`, `transactChoice?` one choice more.
-/

namespace AbiBindings.Wire

/-- A log. -/
def log (l : Log) : Json := .object [
  ("address", fixed l.address), ("topics", list fixed l.topics), ("data", hex l.data),
  ("block", optional decimal l.block?), ("block_hash", optional fixed l.blockHash?),
  ("tx_hash", optional fixed l.txHash?), ("log_index", optional decimal l.index?),
  ("removed", optional .bool l.removed?)]

/-- A log; what is missing is zero, empty or unknown. -/
def log? (j : Json) : Option Log := do
  some {
    address := ← givenOr j "address" (fixed? 20) Address.zero
    topics := ← givenOr j "topics" (list? (fixed? 32)) []
    data := ← givenOr j "data" bytes? []
    block? := ← given? j "block" natural?
    blockHash? := ← given? j "block_hash" (fixed? 32)
    txHash? := ← given? j "tx_hash" (fixed? 32)
    index? := ← given? j "log_index" natural?
    removed? := ← given? j "removed" Json.bool? }

/-- A message call or transaction. -/
def tx (t : Tx) : Json := .object [
  ("to", optional fixed t.to?), ("from", optional fixed t.from?),
  ("value", optional decimal t.value?), ("nonce", optional decimal t.nonce?),
  ("gas", optional decimal t.gas?), ("gas_price", optional decimal t.gasPrice?),
  ("data", hex t.data)]

/-- A transaction that a node has accepted. -/
def pending (p : Pending) : Json := .object [("hash", fixed p.hash), ("tx", tx p.tx)]

/-- The state that a question is about. -/
def block : Block → Json
  | .number n => decimal n
  | .latest => .text "latest"
  | .pending => .text "pending"

/-- What a topic may be. -/
def topicSet : TopicSet → Json
  | .any => .null
  | .one t => fixed t
  | .oneOf ts => list fixed ts

/-- A filter. -/
def filter (f : Filter) : Json := .object [
  ("address", optional fixed f.address?), ("from", optional block f.from?),
  ("to", optional block f.to?), ("topics", list topicSet f.topics)]

/-- A request by its name, with what it asks. -/
def request : Request → Json
  | .call t state? => .object [
    ("fn", .text "call_contract"), ("tx", tx t), ("block", optional block state?)]
  | .code contract state? => .object [
    ("fn", .text "code_at"), ("contract", fixed contract), ("block", optional block state?)]
  | .nonce account => .object [("fn", .text "pending_nonce_at"), ("account", fixed account)]
  | .send t => .object [("fn", .text "send_transaction"), ("tx", tx t)]
  | .receipt hash => .object [("fn", .text "transaction_receipt"), ("hash", fixed hash)]
  | .logs f => .object [("fn", .text "filter_logs"), ("filter", filter f)]
  | .subscribe f => .object [("fn", .text "subscribe_filter_logs"), ("filter", filter f)]

/-- What became of a transaction. -/
def receipt (r : Receipt) : Json := .object [
  ("hash", fixed r.hash), ("block", optional decimal r.block?),
  ("status", optional decimal r.status?), ("contract", optional fixed r.contract?)]

/-- What became of a transaction. -/
def receipt? (j : Json) : Option Receipt := do
  some {
    hash := ← givenOr j "hash" (fixed? 32) Hash.zero
    block? := ← given? j "block" natural?
    status? := ← given? j "status" natural?
    contract? := ← given? j "contract" (fixed? 20) }

/-- The answers of one kind. -/
def queue? (j : Json) (key : String) (read : Json → Option α) :
    Option (List (Except Error α)) :=
  givenOr j key (list? (answer? read)) []

/-- The answers of a scripted chain. -/
def script? (j : Json) : Option Script := do
  some {
    calls := ← queue? j "calls" bytes?
    codes := ← queue? j "codes" bytes?
    nonces := ← queue? j "nonces" natural?
    hashes := ← queue? j "hashes" (fixed? 32)
    receipts := ← queue? j "receipts" (optional? receipt?)
    logs := ← queue? j "logs" (list? log?)
    subscriptions := ← queue? j "subs" fun _ => some () }

/-! ## Options -/

/-- The choices for a constant call. -/
def callOptions? (j : Json) : Option CallOptions := do
  some {
    pending := ← givenOr j "pending" Json.bool? false
    from? := ← given? j "from" (fixed? 20)
    block? := ← given? j "block" natural? }

/-- The choices for a transaction. -/
def transactOptions? (j : Json) : Option TransactOptions := do
  some {
    from? := ← given? j "from" (fixed? 20)
    nonce? := ← given? j "nonce" natural?
    value? := ← given? j "value" natural?
    gasPrice? := ← given? j "gas_price" natural?
    gasLimit? := ← given? j "gas_limit" natural? }

/-- The range of blocks of a query, from the first block on if no start is chosen. -/
def filterOptions? (j : Json) : Option FilterOptions := do
  some { start := ← givenOr j "start" natural? 0, last? := ← given? j "end" natural? }

/-- The first block of a subscription. -/
def watchOptions? (j : Json) : Option WatchOptions := do
  some { start? := ← given? j "start" natural? }

/-- The choices for a constant call, with the state that they lead to. -/
def callOptions (o : CallOptions) : Json := .object [
  ("pending", .bool o.pending), ("from", optional fixed o.from?),
  ("block", optional decimal o.block?), ("block_id", optional block o.state?)]

/-- The choices for a transaction. -/
def transactOptions (o : TransactOptions) : Json := .object [
  ("from", optional fixed o.from?), ("nonce", optional decimal o.nonce?),
  ("value", optional decimal o.value?), ("gas_price", optional decimal o.gasPrice?),
  ("gas_limit", optional decimal o.gasLimit?)]

/-- A choice by its name, with its value if it has one. -/
def choice? : Json → Option (String × Json)
  | .array [.text name] => some (name, .null)
  | .array [.text name, value] => some (name, value)
  | _ => none

/-- One more choice for a constant call. -/
def callChoice? (o : CallOptions) : String × Json → Option CallOptions
  | ("from", v) => (fixed? 20 v).map o.from_
  | ("at_block", v) | ("block", v) => (natural? v).map o.atBlock
  | ("pending", _) => some o.onPending
  | ("opts", v) => callOptions? v
  | _ => none

/-- One more choice for a transaction. -/
def transactChoice? (o : TransactOptions) : String × Json → Option TransactOptions
  | ("from", v) => (fixed? 20 v).map o.from_
  | ("nonce", v) => (natural? v).map o.nonce
  | ("value", v) => (natural? v).map o.value
  | ("gas_price", v) => (natural? v).map o.gasPrice
  | ("gas_limit", v) => (natural? v).map o.gasLimit
  | ("opts", v) => transactOptions? v
  | _ => none

end AbiBindings.Wire
