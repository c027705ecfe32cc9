import AbiBindings.Bytes.Hex
import AbiBindings.CommandLine.Options
import AbiBindings.Text.Digits

/-!
# Commands

* `Invocation.ofWords`: the command that the words of a command line give, and the path of the
  settings file. The path may stand before the command or after it; after it counts.
-/

namespace AbiBindings.CommandLine

/-- What the program can be asked to do. -/
inductive Command where
  | contracts
  | inspect (contract : String)
  | generate (abiFile contract : String) (codeFile? outputDir? : Option String) (dryRun : Bool)
  | watch (contract : String) (address : Address) (event? : Option String) (start? : Option Nat)
  deriving Repr, DecidableEq

/-- A command and the path of the settings file, if there is one. -/
structure Invocation where
  settings? : Option String
  command : Command
  deriving Repr, DecidableEq

/-- The option for the settings file. -/
def settingsSwitch : Switch := ⟨"config", some 'c', true⟩

/-- The grammar before the command. -/
def headGrammar : Grammar := ⟨[settingsSwitch], 0⟩

/-- An option with a value and without a letter. -/
def valued (long : String) : Switch := ⟨long, none, true⟩

/-- The grammar after a command. -/
def grammarOf? : String → Option Grammar
  | "contracts" => some ⟨[settingsSwitch], 0⟩
  | "inspect" => some ⟨[settingsSwitch], 1⟩
  | "generate" =>
    some ⟨[settingsSwitch, valued "name", valued "bin", valued "output-dir",
      ⟨"dry-run", none, false⟩], 1⟩
  | "watch" =>
    some ⟨[settingsSwitch, valued "address", valued "event", valued "from-block"], 1⟩
  | _ => none

/-- White space that may stand between the digits of an address. -/
def isAddressBlank (c : Char) : Bool := c = ' ' || c = '\t' || c = '\n' || c = '\r'

/-- The address of a text: forty digits, one mark `0x` allowed before them. -/
def address? (text : String) : Option Address :=
  let digits := (Hex.stripMark text).toList.filter (!isAddressBlank ·)
  match Hex.decode (String.ofList digits) with
  | .ok bytes => exactly? 20 bytes
  | .error _ => none

/-- A value that may be missing, read. -/
def optional? (read : String → Option α) : Option String → Option (Option α)
  | none => some none
  | some text => (read text).map some

/-- The command of a name and what the words after it say. -/
def Command.ofScanned? (name : String) (s : Scanned) : Option Command :=
  match name, s.operands with
  | "contracts", [] => some .contracts
  | "inspect", [contract] => some (.inspect contract)
  | "generate", [abiFile] => do
    let contract ← s.value? "name"
    some (.generate abiFile contract (s.value? "bin") (s.value? "output-dir") (s.has "dry-run"))
  | "watch", [contract] => do
    let address ← (s.value? "address").bind address?
    let start? ← optional? (fun text => Text.natural? text.toList) (s.value? "from-block")
    some (.watch contract address (s.value? "event") start?)
  | _, _ => none

/-- Asks for the version have no meaning after a command. -/
def afterCommand : Stop → Stop
  | .version => .usage
  | stop => stop

/-- What asking for help on some words leads to. -/
def helpOn : List String → Stop
  | [] => .help
  | [name] => if (grammarOf? name).isSome || name == "help" then .help else .usage
  | _ => .usage

/-- The invocation of a command line. -/
def Invocation.ofWords (words : List String) : Except Stop Invocation := do
  let (head, name, rest) ← scanHead headGrammar .empty none words
  if name == "help" then .error (helpOn rest)
  else
    match grammarOf? name with
    | none => .error .usage
    | some grammar =>
      let s ← (scan grammar rest).mapError afterCommand
      match Command.ofScanned? name s with
      | none => .error .usage
      | some command => .ok ⟨(s.value? "config").orElse fun _ => head.value? "config", command⟩

end AbiBindings.CommandLine
