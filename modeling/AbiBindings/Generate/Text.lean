import AbiBindings.Generate.Module

/-!
# The text of generated modules

A text is a list of lines; an inner line is four blanks further to the right than the lines around
it.

* `Module.lines`: the lines of a module.
* `Module.text`: the lines, each with a line break at its end.
-/

namespace AbiBindings.Generate

/-- The lines further to the right; empty lines stay empty. -/
def indent (lines : List String) : List String :=
  lines.map fun line => if line = "" then "" else "    " ++ line

/-- Lines in braces after a head. -/
def block (head : String) (body : List String) : List String :=
  [head ++ " \x7b"] ++ indent body ++ ["\x7d"]

/-- A function whose parameters have a line each. -/
def longFunction (name : String) (parameters : List String) (result : String)
    (body : List String) : List String :=
  [name ++ "("] ++ indent (parameters.map (· ++ ",")) ++ block (") -> " ++ result) body

/-- A parameter with its type. -/
def Argument.declaration (a : Argument) : String := a.name ++ ": " ++ a.type

/-- The values of arguments, made untyped. -/
def tokenList (arguments : List Argument) : String :=
  "vec![" ++ ", ".intercalate (arguments.map fun a => a.name ++ ".into_token()") ++ "]"

/-! ## The type of the contract -/

/-- How the module embeds its creation code. -/
def Module.codeText (m : Module) : String :=
  if m.deployment?.isSome then "Some(include_str!(\"" ++ m.stem ++ ".bin\"))" else "None"

/-- The head of the module. -/
def Module.head (m : Module) : List String := [
  "//! Bindings for the `" ++ m.contract ++ "` contract",
  "//!",
  "//! Generated by `contract-bindings generate`.",
  "",
  "use bindings_ethereum::prelude::*;",
  "",
  "pub static METADATA: ContractMetadata = ContractMetadata::new(",
  "    \"" ++ m.contract ++ "\",",
  "    include_str!(\"" ++ m.stem ++ ".json\"),",
  "    " ++ m.codeText ++ ",",
  ");",
  "",
  "/// `" ++ m.contract ++ "` bound to an address",
  "#[derive(Debug, Clone)]",
  "pub struct " ++ m.typeName ++ "(ContractHandle);",
  ""]

/-- The methods that bind the contract. -/
def bindingMethods : List String :=
  ["/// Bind to a deployed instance"] ++
  block
    "pub fn new<B: ContractBackend + 'static>(address: Address, backend: Arc<B>) -> Result<Self>"
    ["ContractHandle::bind(address, &METADATA, backend).map(Self)"] ++
  [""] ++
  block "pub fn from_handle(handle: ContractHandle) -> Self" ["Self(handle)"]

/-- The method that deploys the contract. -/
def deployMethod (arguments : List Argument) : List String :=
  ["", "/// Deploy a new instance"] ++
  longFunction "pub async fn deploy<B: ContractBackend + 'static>"
    (["opts: &TransactOpts", "backend: Arc<B>"] ++ arguments.map (·.declaration))
    "Result<(Address, PendingTx, Self)>"
    ["let args = " ++ (if arguments.isEmpty then "Vec::new()" else tokenList arguments) ++ ";",
      "let (address, pending, handle) =",
      "    ContractHandle::deploy(&METADATA, opts, backend, args).await?;",
      "Ok((address, pending, Self(handle)))"]

/-- The methods that every generated type has. -/
def commonMethods : List String :=
  [""] ++
  block "pub fn address(&self) -> Address" ["self.0.address()"] ++
  [""] ++
  block "pub fn handle(&self) -> &ContractHandle" ["&self.0"] ++
  ["", "/// Same contract with fixed call and transaction options"] ++
  block "pub fn session(&self, call_opts: CallOpts, transact_opts: TransactOpts) -> Self"
    ["Self(self.0.with_call_opts(call_opts).with_transact_opts(transact_opts))"] ++
  [""] ++
  block "pub fn caller_session(&self, call_opts: CallOpts) -> Self"
    ["Self(self.0.with_call_opts(call_opts))"] ++
  [""] ++
  block "pub fn transactor_session(&self, transact_opts: TransactOpts) -> Self"
    ["Self(self.0.with_transact_opts(transact_opts))"]

/-- The method for a function. -/
def Method.lines (m : Method) : List String :=
  let parameters := String.join (m.arguments.map fun a => ", " ++ a.declaration)
  let (kind, result) := match m.result? with
    | some type => ("call", "ContractCall<" ++ type ++ ">")
    | none => ("transact", "ContractTransaction")
  ["", "/// `" ++ m.summary ++ "`"] ++
  block ("pub fn " ++ m.name ++ "(&self" ++ parameters ++ ") -> " ++ result)
    ["self.0." ++ kind ++ "(\"" ++ m.target ++ "\", " ++ tokenList m.arguments ++ ")"]

namespace EventRecord

/-- The parameters by which logs can be selected. -/
def parameters (e : EventRecord) : List String :=
  e.selectors.map fun a => a.name ++ ": &[" ++ a.type ++ "]"

/-- The topics that select logs. -/
def topics (e : EventRecord) : String :=
  "vec![" ++ ", ".intercalate (e.selectors.map fun a => "topics(" ++ a.name ++ ")") ++ "]"

/-- The methods for an event. -/
def methods (e : EventRecord) : List String :=
  [""] ++
  longFunction ("pub async fn filter_" ++ e.method) (["&self", "opts: &FilterOpts"] ++ e.parameters)
    ("Result<EventIterator<" ++ e.typeName ++ ">>")
    ["self.0.filter(opts, " ++ e.topics ++ ").await"] ++
  [""] ++
  longFunction ("pub async fn watch_" ++ e.method)
    (["&self", "opts: &WatchOpts", "sink: mpsc::Sender<EventRecord<" ++ e.typeName ++ ">>"] ++
      e.parameters)
    "Result<WatchSubscription>"
    ["self.0.watch(opts, sink, " ++ e.topics ++ ").await"] ++
  [""] ++
  block
    ("pub fn parse_" ++ e.method ++ "(&self, log: &Log) -> Result<EventRecord<" ++ e.typeName ++
      ">>")
    ["self.0.parse(log)"]

/-! ## The types of events -/

/-- The declaration of the type. -/
def declaration (e : EventRecord) : List String :=
  let head := "pub struct " ++ e.typeName
  match e.fields with
  | [] => [head ++ ";"]
  | fields => block head (fields.map fun a => "pub " ++ a.declaration ++ ",")

/-- The function that makes a value from decoded arguments. -/
def reader (e : EventRecord) : List String :=
  match e.fields with
  | [] => block "fn from_tokens(_tokens: Vec<Token>) -> Result<Self>" ["Ok(Self)"]
  | [a] =>
    block "fn from_tokens(tokens: Vec<Token>) -> Result<Self>"
      (["Ok(Self \x7b"] ++ indent [a.name ++ ": detokenize(tokens)?,"] ++ ["\x7d)"])
  | fields =>
    block "fn from_tokens(tokens: Vec<Token>) -> Result<Self>"
      (["let (" ++ ", ".intercalate (fields.map (·.name)) ++ ") = detokenize(tokens)?;"] ++
        ["Ok(Self \x7b"] ++ indent (fields.map fun a => a.name ++ ",") ++ ["\x7d)"])

/-- The type for an event. -/
def typeLines (e : EventRecord) : List String :=
  ["", "/// `" ++ e.summary ++ "`", "#[derive(Debug, Clone, PartialEq)]"] ++
  e.declaration ++
  [""] ++
  block ("impl ContractEvent for " ++ e.typeName)
    (["const NAME: &'static str = \"" ++ e.name ++ "\";",
      "const SIGNATURE: &'static str = \"" ++ e.signature ++ "\";",
      ""] ++ e.reader)

end EventRecord

namespace Module

/-- The lines of a module. -/
def lines (m : Module) : List String :=
  let deployment := match m.deployment? with
    | some arguments => deployMethod arguments
    | none => []
  m.head ++
  block ("impl " ++ m.typeName)
    (bindingMethods ++ deployment ++ commonMethods ++ m.methods.flatMap (·.lines) ++
      m.events.flatMap (·.methods)) ++
  m.events.flatMap (·.typeLines)

/-- The text of a module. -/
def text (m : Module) : String := String.join (m.lines.map (· ++ "\n"))

end Module

end AbiBindings.Generate
