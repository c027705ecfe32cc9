import AbiBindings.Chain.Basic
import AbiBindings.Rpc.Basic
import AbiBindings.Wire.Basic

/-!
# Values in calls of a node

Integers are written in hexadecimal digits after `0x` without leading zeros, byte strings with two
digits for each byte; the mark need not be there when they are read.

* `quantity`, `tx`, `block`, `filter`: what a node is asked with.
* `natural?`, `log?`, `receipt?`: what it answers with.
* `refusal?`: what it refuses a call with.
-/

namespace AbiBindings.Rpc

open Wire (fixed hex fixed? bytes? list? required given? present?)

/-! ## Writing -/

/-- A natural number. -/
def quantity (n : Nat) : Json := .text (String.ofList ('0' :: 'x' :: Text.hexDigits n))

/-- A member that is only there with a value. -/
def member (key : String) (write : α → Json) : Option α → List (String × Json)
  | none => []
  | some a => [(key, write a)]

/-- A message call or transaction of the oldest kind, with what is set of it. -/
def tx (t : Tx) : Json := .object (
  ("type", .text "0x00") :: member "from" fixed t.from? ++ member "to" fixed t.to? ++
    member "gas" quantity t.gas? ++ member "gasPrice" quantity t.gasPrice? ++
    member "value" quantity t.value? ++ [("data", hex t.data)] ++ member "nonce" quantity t.nonce?)

/-- A state of the chain. -/
def block : Block → Json
  | .number n => quantity n
  | .latest => .text "latest"
  | .pending => .text "pending"

/-- The state that a question is about, the latest one if none is chosen. -/
def stateOf (state? : Option Block) : Json := block (state?.getD .latest)

/-- What a topic may be. -/
def topicSet : TopicSet → Json
  | .any => .null
  | .one topic => fixed topic
  | .oneOf topics => .array (topics.map fixed)

/-- The positions up to the last one that is restricted. -/
def restricted : List TopicSet → List TopicSet
  | [] => []
  | s :: rest =>
    match s, restricted rest with
    | .any, [] => []
    | s, rest => s :: rest

/-- A filter. -/
def filter (f : Filter) : Json := .object (
  member "fromBlock" block f.from? ++ member "toBlock" block f.to? ++
    member "address" fixed f.address? ++ [("topics", .array ((restricted f.topics).map topicSet))])

/-! ## Reading -/

/-- A natural number of at most `size` bytes, as one to `2 * size` digits. -/
def natural? (size : Nat) (j : Json) : Option Nat := do
  let digits := utf8 (Hex.stripMark (← j.text?))
  if digits.isEmpty || 2 * size < digits.length then none
  else digits.foldlM (fun n d => (Hex.digitValue? d).map (16 * n + ·)) 0

/-- A log. -/
def log? (j : Json) : Option Log := do
  let _ ← given? j "transactionIndex" (natural? 8)
  let _ ← given? j "transactionLogIndex" (natural? 32)
  let _ ← given? j "logType" Json.text?
  some {
    address := ← required j "address" (fixed? 20)
    topics := ← required j "topics" (list? (fixed? 32))
    data := ← required j "data" bytes?
    block? := ← given? j "blockNumber" (natural? 8)
    blockHash? := ← given? j "blockHash" (fixed? 32)
    txHash? := ← given? j "transactionHash" (fixed? 32)
    index? := ← given? j "logIndex" (natural? 32)
    removed? := ← given? j "removed" Json.bool? }

/-- What became of a transaction. -/
def receipt? (j : Json) : Option Receipt := do
  let _ ← required j "transactionIndex" (natural? 8)
  let _ ← required j "from" (fixed? 20)
  let _ ← required j "cumulativeGasUsed" (natural? 32)
  let _ ← required j "logs" (list? log?)
  let _ ← required j "logsBloom" (fixed? 256)
  let _ ← given? j "blockHash" (fixed? 32)
  let _ ← given? j "to" (fixed? 20)
  let _ ← given? j "gasUsed" (natural? 32)
  let _ ← given? j "root" (fixed? 32)
  let _ ← given? j "type" (natural? 8)
  let _ ← given? j "effectiveGasPrice" (natural? 32)
  some {
    hash := ← required j "transactionHash" (fixed? 32)
    block? := ← given? j "blockNumber" (natural? 8)
    status? := ← given? j "status" (natural? 8)
    contract? := ← given? j "contractAddress" (fixed? 20) }

/-- An integer of 64 bits with its sign. -/
def integer? : Json → Option Int
  | .number (.natural n) => if n.toNat < UInt64.size / 2 then some n.toNat else none
  | .number (.negative n) => some (-(n.toNat + 1))
  | _ => none

/-- What a node refuses a call with. -/
def refusal? (j : Json) : Option Refusal := do
  some {
    code := ← required j "code" integer?
    message := ← required j "message" Json.text?
    data? := present? j "data" }

end AbiBindings.Rpc
