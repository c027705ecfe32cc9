import AbiBindings.Chain.Basic
import AbiBindings.Error

/-!
# Actions on a chain

An action asks a chain one request after the other and ends with a value or an error. It says
nothing about what answers: that is a `Chain`, which may keep a state of its own.

* `Action.run`: the outcome of an action on a chain, the state of the chain afterwards, and the
  requests in the order in which they were made.
* `Action.bind`: one action after another; a failure ends both.
-/

namespace AbiBindings

/-- A question to a chain. -/
inductive Request where
  | call (tx : Tx) (state? : Option Block)
  | code (contract : Address) (state? : Option Block)
  | nonce (account : Address)
  | send (tx : Tx)
  | receipt (hash : Hash)
  | logs (filter : Filter)
  | subscribe (filter : Filter)
  deriving Repr, DecidableEq

/-- What a request is answered with. -/
@[reducible] def Request.Answer : Request → Type
  | .call _ _ | .code _ _ => Bytes
  | .nonce _ => Nat
  | .send _ => Hash
  | .receipt _ => Option Receipt
  | .logs _ => List Log
  | .subscribe _ => Unit

/-- A sequence of requests that ends with a value or an error. -/
inductive Action (α : Type) where
  | done (value : α)
  | fail (e : Error)
  | ask (r : Request) (next : Except Error r.Answer → Action α)

namespace Action

/-- One action after another. -/
def bind : Action α → (α → Action β) → Action β
  | .done a, f => f a
  | .fail e, _ => .fail e
  | .ask r next, f => .ask r fun answer => (next answer).bind f

instance : Monad Action where
  pure := .done
  bind := bind

/-- A value or error that is at hand. -/
def ofExcept : Except Error α → Action α
  | .ok a => .done a
  | .error e => .fail e

/-- A single request, whose failure is the failure of the action. -/
def request (r : Request) : Action r.Answer := .ask r ofExcept

end Action

/-- What answers requests; it may change with each of them. -/
structure Chain (σ : Type) where
  answer : (r : Request) → σ → Except Error r.Answer × σ

/-- What is left when an action has ended. -/
structure Outcome (σ α : Type) where
  result : Except Error α
  state : σ
  requests : List Request

/-- Runs an action on a chain. -/
def Action.run (chain : Chain σ) : Action α → σ → Outcome σ α
  | .done a, s => ⟨.ok a, s, []⟩
  | .fail e, s => ⟨.error e, s, []⟩
  | .ask r next, s =>
    let (answer, s) := chain.answer r s
    let outcome := (next answer).run chain s
    { outcome with requests := r :: outcome.requests }

end AbiBindings
