import AbiBindings.Chain.Action
import AbiBindings.Rpc.Url
import AbiBindings.Rpc.Value
import AbiBindings.Stream.Relay

/-!
# Nodes

A node is asked by calls; here it answers the requests of a chain.

* `Node.connect`: the connection that the settings describe. A pinned chain has to be the one that
  the node reports.
* `Node.chainId`, `Node.blockNumber`: what the node says about itself.
* `Node.chain`: the chain of a node. What is open of a transaction is asked for before it is sent.
* `Node.poll`, `Node.next`, `Node.leave`: a subscription is fed by asking the node for new logs,
  until the subscriber leaves; then the filter at the node is removed.
-/

namespace AbiBindings.Node

open Rpc AbiBindings.Stream

/-- The exchange with a node: the state of what answers, the calls that were made, and the
subscriptions that were opened, each in order. -/
structure Session (σ : Type) where
  remote : σ
  calls : List Call
  relays : List Relay

/-- The exchange that has not begun. -/
def Session.start (remote : σ) : Session σ := ⟨remote, [], []⟩

/-- How asking a node ends. -/
inductive Ending (α : Type) where
  | ok (value : α)
  | failed (e : Error)
  /-- The program stops, because a number has more than 64 bits. -/
  | aborted

/-- A call whose answer has the form that `read` reads. -/
def ask (e : Endpoint σ) (method : String) (args? : Option (List Json)) (read : Json → Option α)
    (s : Session σ) : Except Failure α × Session σ :=
  let call : Call := ⟨method, args?⟩
  let (answer, remote) := e.ask call read s.remote
  (answer, { s with remote := remote, calls := s.calls ++ [call] })

/-! ## The connection -/

/-- The chain that the node serves. -/
def chainId (e : Endpoint σ) (s : Session σ) : Ending Nat × Session σ :=
  match ask e "eth_chainId" none (Rpc.natural? 32) s with
  | (.error f, s) => (.failed (.transport (.chainId f.message)), s)
  | (.ok n, s) => (if n < UInt64.size then .ok n else .aborted, s)

/-- The number of the latest block. -/
def blockNumber (e : Endpoint σ) (s : Session σ) : Except Error Nat × Session σ :=
  match ask e "eth_blockNumber" none (Rpc.natural? 8) s with
  | (.error f, s) => (.error (.transport (.blockNumber f.message)), s)
  | (.ok n, s) => (.ok n, s)

/-- The check of the chain that a node reports against the one in the settings. -/
def checkChain (p : Provider) (reported : Nat) : Ending Unit :=
  match p.chainId with
  | none => .ok ()
  | some pinned =>
    if reported = pinned then .ok () else .failed (.config (.otherChain reported pinned))

/-- The address of the node in the settings. -/
def address (p : Provider) : Except Error Url :=
  match p.check with
  | .error e => .error (.ofConfig e)
  | .ok () =>
    if p.useWebsocket then .error (.transport .websocket)
    else
      match Url.parse? p.rpcUrl with
      | none => .error (.transport .badUrl)
      | some url => .ok url

/-- Connects to the node of the settings; `reach` says what answers at an address. -/
def connect (reach : Url → Endpoint σ) (p : Provider) (s : Session σ) :
    Ending (Endpoint σ) × Session σ :=
  match address p with
  | .error e => (.failed e, s)
  | .ok url =>
    match chainId (reach url) s with
    | (.failed e, s) => (.failed e, s)
    | (.aborted, s) => (.aborted, s)
    | (.ok reported, s) =>
      match checkChain p reported with
      | .ok () => (.ok (reach url), s)
      | .failed e => (.failed e, s)
      | .aborted => (.aborted, s)

/-! ## The chain of a node -/

/-- An answer as the chain gives it. -/
def asAnswer (r : Except Failure α × Session σ) : Except Error α × Session σ :=
  (r.1.mapError Failure.error, r.2)

/-- A transaction with a gas price. -/
def withPrice (e : Endpoint σ) (t : Tx) (s : Session σ) : Except Failure Tx × Session σ :=
  match t.gasPrice? with
  | some _ => (.ok t, s)
  | none =>
    match ask e "eth_gasPrice" none (Rpc.natural? 32) s with
    | (.error f, s) => (.error f, s)
    | (.ok n, s) => (.ok { t with gasPrice? := some n }, s)

/-- A transaction with a gas limit. -/
def withGas (e : Endpoint σ) (t : Tx) (s : Session σ) : Except Failure Tx × Session σ :=
  match t.gas? with
  | some _ => (.ok t, s)
  | none =>
    match ask e "eth_estimateGas" (some [Rpc.tx t]) (Rpc.natural? 32) s with
    | (.error f, s) => (.error f, s)
    | (.ok n, s) => (.ok { t with gas? := some n }, s)

/-- Sends a transaction, after asking for what is open. -/
def send (e : Endpoint σ) (t : Tx) (s : Session σ) : Except Failure Hash × Session σ :=
  match withPrice e t s with
  | (.error f, s) => (.error f, s)
  | (.ok t, s) =>
    match withGas e t s with
    | (.error f, s) => (.error f, s)
    | (.ok t, s) => ask e "eth_sendTransaction" (some [Rpc.tx t]) (Wire.fixed? 32) s

/-- Opens a subscription to the logs of a filter. -/
def subscribe (e : Endpoint σ) (f : Filter) (s : Session σ) : Except Error Unit × Session σ :=
  let (answer, s) := asAnswer (ask e "eth_newFilter" (some [Rpc.filter f]) (Rpc.natural? 32) s)
  let relay := Relay.start.install answer
  match relay.installed.poll.1 with
  | .ready (some (.ok ())) => (.ok (), { s with relays := s.relays ++ [relay] })
  | .ready (some (.error e)) => (.error e, s)
  | _ => (.error (.subscription .exited), s)

/-- The answer to a request. -/
def answer (e : Endpoint σ) : (r : Request) → Session σ → Except Error r.Answer × Session σ
  | .call t state?, s =>
    asAnswer (ask e "eth_call" (some [Rpc.tx t, Rpc.stateOf state?]) Wire.bytes? s)
  | .code contract state?, s =>
    asAnswer (ask e "eth_getCode" (some [Wire.fixed contract, Rpc.stateOf state?]) Wire.bytes? s)
  | .nonce account, s =>
    asAnswer (ask e "eth_getTransactionCount" (some [Wire.fixed account, Rpc.block .pending])
      (Rpc.natural? 32) s)
  | .send t, s => asAnswer (send e t s)
  | .receipt hash, s =>
    asAnswer (ask e "eth_getTransactionReceipt" (some [Wire.fixed hash])
      (Wire.optional? Rpc.receipt?) s)
  | .logs f, s => asAnswer (ask e "eth_getLogs" (some [Rpc.filter f]) (Wire.list? Rpc.log?) s)
  | .subscribe f, s => subscribe e f s

/-- The chain of a node. -/
def chain (e : Endpoint σ) : Chain (Session σ) := ⟨answer e⟩

/-! ## Subscriptions -/

/-- The exchange with another relay in the place of one. -/
def Session.setRelay (s : Session σ) (i : Nat) (r : Relay) : Session σ :=
  { s with relays := s.relays.set i r }

/-- Lets a relay go on until it has to wait for more than its filter to be removed. -/
def settle (e : Endpoint σ) (i : Nat) (r : Relay) (s : Session σ) : Session σ :=
  let r := r.settle 0
  match r.stage with
  | .removing filter =>
    let (_, s) := ask e "eth_uninstallFilter" (some [Rpc.quantity filter]) Json.bool? s
    s.setRelay i r.removed
  | _ => s.setRelay i r

/-- Asks the node for the logs of a subscription since the last such call; a call that fails brings
none. -/
def poll (e : Endpoint σ) (i : Nat) (s : Session σ) : Session σ :=
  match s.relays[i]? with
  | none => s
  | some r =>
    match r.stage with
    | .listening filter =>
      let (logs, s) :=
        ask e "eth_getFilterChanges" (some [Rpc.quantity filter]) (Wire.list? Rpc.log?) s
      settle e i (r.report (logs.toOption.getD [])) s
    | _ => s

/-- The next log of a subscription, for which the node is asked at most `polls` times. -/
def next (e : Endpoint σ) (i : Nat) : Nat → Session σ → Pass (Except Error (Option Log)) × Session σ
  | polls, s =>
    match s.relays[i]? with
    | none => (.misused, s)
    | some r =>
      match r.link.next 0 with
      | (.pending, l) =>
        let s := settle e i { r with link := l } s
        match polls with
        | 0 => (.pending, s)
        | polls + 1 => next e i polls (poll e i s)
      | (p, l) => (p, settle e i { r with link := l } s)

/-- A subscription does something that the relay may have to follow. -/
def act (e : Endpoint σ) (i : Nat) (f : Link → Link) (s : Session σ) : Session σ :=
  match s.relays[i]? with
  | none => s
  | some r => settle e i { r with link := f r.link } s

/-- The subscriber asks for no more logs. -/
def leave (e : Endpoint σ) (i : Nat) (s : Session σ) : Session σ := act e i Link.unsubscribe s

/-- The subscription goes away. -/
def drop (e : Endpoint σ) (i : Nat) (s : Session σ) : Session σ := act e i Link.dropSubscription s

end AbiBindings.Node
