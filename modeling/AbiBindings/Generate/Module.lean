import AbiBindings.Generate.Names

/-!
# Generated modules

What a generated module holds: a type for the contract, with a method for each function and three
for each event, and a type for each event.

* `Module.ofOutline`: the module of a contract. An overloaded function is addressed by its
  signature, any other by its name.
-/

namespace AbiBindings.Generate

/-- A name with a type. -/
structure Argument where
  name : String
  type : String
  deriving Repr, DecidableEq

/-- A method for a function. -/
structure Method where
  name : String
  /-- The signature for a reader. -/
  summary : String
  /-- The text by which the function is looked up. -/
  target : String
  arguments : List Argument
  /-- The type of the result of a call; a transaction has none. -/
  result? : Option String
  deriving Repr, DecidableEq

/-- A type for an event. -/
structure EventRecord where
  typeName : String
  /-- What the names of its methods end in. -/
  method : String
  /-- The signature for a reader. -/
  summary : String
  name : String
  signature : String
  fields : List Argument
  /-- The arguments by which logs can be selected. -/
  selectors : List Argument
  deriving Repr, DecidableEq

/-- A module for a contract. -/
structure Module where
  contract : String
  /-- The name of the module and of its files. -/
  stem : String
  typeName : String
  /-- The arguments of a deployment, if there is creation code. -/
  deployment? : Option (List Argument)
  methods : List Method
  events : List EventRecord
  deriving Repr, DecidableEq

/-- The arguments for parameters with their positions. -/
def argumentsFor (params : List (Outline.Param × Nat)) : List Argument :=
  params.map fun p => ⟨argumentName p.1 p.2, typeName p.1.type⟩

/-- The result of a call by its outputs. -/
def resultType : List Outline.Param → String
  | [] => "()"
  | [p] => typeName p.type
  | params => "(" ++ ", ".intercalate (params.map fun p => typeName p.type) ++ ")"

/-- The text by which a function is looked up. -/
def targetOf (o : Outline) (f : Outline.Function) : String :=
  if o.isOverloaded f.name then f.signature else f.name

/-- The method for a function. -/
def Method.ofFunction (o : Outline) (f : Outline.Function) (name : String) : Method where
  name := name
  summary := f.humanSignature
  target := targetOf o f
  arguments := argumentsFor f.inputs.zipIdx
  result? := if f.isConstant then some (resultType f.outputs) else none

/-- The type for an event. -/
def EventRecord.ofEvent (e : Outline.Event) (typeName : String) : EventRecord where
  typeName := typeName
  method := Text.snakeCase typeName
  summary := e.humanSignature
  name := e.name
  signature := e.signature
  fields := e.inputs.zipIdx.map fun p => ⟨argumentName p.1 p.2, fieldType p.1⟩
  selectors := argumentsFor (e.inputs.zipIdx.filter fun p => p.1.indexed)

/-- The names of the methods for functions. -/
def methodNames (o : Outline) : List String :=
  distinctNames fixedMethods (o.functions.map fun f => escape (Text.snakeCase f.name))

/-- The names of the types for events. -/
def eventTypeNames (contractType : String) (o : Outline) : List String :=
  distinctNames [contractType, "METADATA"] (o.events.map fun e => Text.pascalCase e.name)

/-- The arguments of the constructor. -/
def deploymentArguments (o : Outline) : List Argument :=
  match o.constructor? with
  | some f => argumentsFor f.inputs.zipIdx
  | none => []

/-- The module of a contract. -/
def Module.ofOutline (contract : String) (deployable : Bool) (o : Outline) : Module where
  contract := contract
  stem := Text.snakeCase contract
  typeName := Text.pascalCase contract
  deployment? := if deployable then some (deploymentArguments o) else none
  methods := (o.functions.zip (methodNames o)).map fun p => Method.ofFunction o p.1 p.2
  events :=
    (o.events.zip (eventTypeNames (Text.pascalCase contract) o)).map fun p =>
      EventRecord.ofEvent p.1 p.2

end AbiBindings.Generate
