import AbiBindings.Contract
import AbiBindings.Metadata

/-!
# Typed bindings

A binding names the methods and events of a contract and gives types to their arguments and results.

* `Method`, `EventBinding`, `Binding`: what a binding consists of.
* `Handle`: a contract together with the options that calls and transactions have by default.
* `Handle.call`, `Handle.send`, `Handle.deploy`: the typed use of a contract.
-/

namespace AbiBindings

/-- Named values of given types. -/
abbrev NamedFields := List (String × Shape)

/-- The types without the names. -/
def NamedFields.shapes (fields : NamedFields) : Fields := fields.map (·.2)

/-- Round data as aggregators report it. -/
def roundData : NamedFields := [
  ("round_id", .unsigned 128), ("answer", .integer), ("started_at", .word), ("updated_at", .word),
  ("answered_in_round", .unsigned 128)]

/-- What a method does. -/
inductive MethodResult where
  /-- It returns values; a single one has no name. -/
  | call (outputs : NamedFields)
  | transaction
  deriving Repr, DecidableEq

/-- A typed method. -/
structure Method where
  name : String
  /-- The method in the interface. -/
  target : String
  params : NamedFields
  result : MethodResult
  deriving Repr, DecidableEq

/-- A typed event. -/
structure EventBinding where
  typeName : String
  /-- What the methods for the event are called after. -/
  method : String
  name : String
  signature : String
  fields : NamedFields
  /-- The indexed arguments, to which filters are restricted. -/
  topics : NamedFields
  deriving Repr, DecidableEq

/-- The event type of the binding. -/
@[reducible] def EventBinding.eventType (e : EventBinding) : EventType where
  name := e.name
  signature := e.signature
  Value := e.fields.shapes.Values
  read := Fields.ofTokens e.fields.shapes

/-- A typed binding of a contract. -/
structure Binding where
  metadata : Metadata
  /-- The arguments of a deployment, if there is creation code. -/
  deployment? : Option NamedFields
  methods : List Method
  events : List EventBinding

/-- The method of a name. -/
def Binding.method? (b : Binding) (name : String) : Option Method :=
  b.methods.find? fun m => m.name == name

/-- A contract with the default options of calls and transactions. -/
structure Handle where
  contract : Contract
  callOptions : CallOptions
  transactOptions : TransactOptions
  deriving DecidableEq

namespace Handle

/-- A contract with nothing chosen. -/
def ofContract (c : Contract) : Handle := ⟨c, .default, .default⟩

/-- A contract of some metadata at an address. -/
def bind (address : Address) (m : Metadata) : Except Error Handle :=
  match m.interface with
  | .error e => .error e
  | .ok interface => .ok (ofContract ⟨address, interface⟩)

/-- The address of the contract. -/
def address (h : Handle) : Address := h.contract.address

/-- The same contract with other options of calls. -/
def withCallOptions (h : Handle) (o : CallOptions) : Handle := { h with callOptions := o }

/-- The same contract with other options of transactions. -/
def withTransactOptions (h : Handle) (o : TransactOptions) : Handle :=
  { h with transactOptions := o }

/-- The calldata of a typed method. -/
def calldata (h : Handle) (m : Method) (args : m.params.shapes.Values) : Except Error Bytes :=
  h.contract.calldata m.target (Fields.toTokens m.params.shapes args)

/-- A typed call. -/
def call (h : Handle) (m : Method) (outputs : NamedFields) (o : CallOptions)
    (args : m.params.shapes.Values) : Action outputs.shapes.Values :=
  Contract.callTyped outputs.shapes h.contract o m.target (Fields.toTokens m.params.shapes args)

/-- A typed transaction. -/
def send (h : Handle) (m : Method) (o : TransactOptions) (args : m.params.shapes.Values) :
    Action Pending :=
  h.contract.transact o m.target (Fields.toTokens m.params.shapes args)

/-- A transaction without calldata, with the default options. -/
def transfer (h : Handle) : Action Pending := h.contract.transfer h.transactOptions

/-- Deploys a contract from its metadata. -/
def deploy (m : Metadata) (o : TransactOptions) (args : List Abi.Token) :
    Action (Address × Pending × Handle) := do
  let interface ← Action.ofExcept m.interface
  let code ← Action.ofExcept m.bytecode
  let (address, pending, contract) ← Contract.deploy o interface code args
  pure (address, pending, ofContract contract)

end Handle

/-- The topics that values of an indexed argument may have. -/
def Shape.topics (s : Shape) (values : List s.Value) : List Hash :=
  Abi.topicsOf (values.map s.toToken)

end AbiBindings
