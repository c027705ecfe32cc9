import AbiBindings.Bundled.Registry
import AbiBindings.CommandLine.Command
import AbiBindings.Contract
import AbiBindings.Generate.Run
import AbiBindings.Logging.Filter
import AbiBindings.Node

/-!
# Running a command line

* `run`: what the words of a command line do, given an environment, the files around the working
  directory, and what answers at the addresses of nodes.
* `configuration`: the configuration of a run. It comes before the command, and so do its faults.
* `Complaint.text`: how a failure is shown, with its causes.
-/

namespace AbiBindings.CommandLine

/-! ## Columns -/

/-- A text with blanks behind it up to a width. -/
def padRight (width : Nat) (s : String) : String :=
  s ++ String.ofList (List.replicate (width - s.length) ' ')

/-- A text with blanks in front of it up to a width. -/
def padLeft (width : Nat) (s : String) : String :=
  String.ofList (List.replicate (width - s.length) ' ') ++ s

/-! ## Failures -/

/-- Why a run failed, with the causes behind it. -/
structure Complaint where
  message : String
  causes : List String
  deriving Repr, DecidableEq

namespace Complaint

/-- An error without causes. -/
def ofError (e : Error) : Complaint := ⟨e.message, []⟩

/-- A text whose lines after the first are set in by blanks. -/
def setIn (blanks : Nat) (s : String) : String :=
  String.ofList (s.toList.flatMap fun c =>
    if c = '\n' then c :: List.replicate blanks ' ' else [c])

/-- A cause with its number. -/
def numbered (cause : String × Nat) : String :=
  "\n" ++ padLeft 5 (toString cause.2) ++ ": " ++ setIn 7 cause.1

/-- The causes, numbered if there are several. -/
def causesText : List String → String
  | [] => ""
  | [cause] => "\n\nCaused by:\n    " ++ setIn 4 cause
  | causes => "\n\nCaused by:" ++ String.join (causes.zipIdx.map numbered)

/-- How the failure is shown. -/
def text (c : Complaint) : String := "Error: " ++ c.message ++ causesText c.causes ++ "\n"

end Complaint

/-- What a run leaves behind. -/
structure Report where
  code : Nat
  printed : String
  /-- What is said about the failure, if the run failed. -/
  complaint? : Option String
  files : Files.Tree

namespace Report

/-- A run that succeeded. -/
def success (files : Files.Tree) (printed : String) : Report := ⟨0, printed, none, files⟩

/-- A run that failed. -/
def failure (files : Files.Tree) (c : Complaint) : Report := ⟨1, "", some c.text, files⟩

/-- A run that the program did not survive. -/
def abort (files : Files.Tree) : Report := ⟨101, "", some "aborted\n", files⟩

end Report

/-! ## The configuration -/

/-- The causes behind a fault of the configuration. -/
def causesOf (e : ConfigError) : List String :=
  match e with
  | .unreadable _ cause => [e.message, cause.message]
  | _ => [e.message]

/-- The configuration of the settings file, if there is one, and the environment. -/
def settings (files : Files.Tree) (env : Environment) : Option String → Except Complaint Config
  | some path =>
    match Config.load files path env with
    | .ok c => .ok c
    | .error e => .error ⟨"Failed to load config from " ++ path, causesOf e⟩
  | none =>
    match Config.default.override env with
    | (c, none) => .ok c
    | (_, some e) => .error ⟨e.message, []⟩

/-- The configuration of a run; its log level has to be a log filter. -/
def configuration (files : Files.Tree) (env : Environment) (path? : Option String) :
    Except Complaint Config :=
  match settings files env path? with
  | .error c => .error c
  | .ok config =>
    match Logging.Filter.checkIn env config.logging.level with
    | .error e => .error (.ofError e)
    | .ok () => .ok config

/-! ## The bundled contracts -/

/-- A line of the table of contracts. -/
def tableLine (name deployable functions events : String) : String :=
  padRight 20 name ++ " " ++ padRight 11 deployable ++ " " ++ padLeft 9 functions ++ " " ++
    padLeft 7 events ++ "\n"

/-- The line of a contract in the table. -/
def contractLine (b : Binding) : Except Error String :=
  b.metadata.interface.map fun i =>
    tableLine b.metadata.name (if b.metadata.isDeployable then "yes" else "no")
      (toString i.functions.length) (toString i.events.length)

/-- The table of the bundled contracts. -/
def contractsTable : Except Error String :=
  (Bundled.all.mapM contractLine).map fun lines =>
    tableLine "NAME" "DEPLOYABLE" "FUNCTIONS" "EVENTS" ++ String.join lines

/-- The bundled contract of a name, with its interface. -/
def lookup (name : String) : Except Complaint (Binding × Abi.Interface) :=
  match Bundled.lookup? name with
  | none => .error ⟨"Unknown contract: " ++ name, []⟩
  | some b =>
    match b.metadata.interface with
    | .ok i => .ok (b, i)
    | .error e => .error (.ofError e)

/-- Whether a function only looks at the state. -/
def isCall (m : Abi.Mutability) : Bool := m == .pure || m == .view

/-- The line of a function. -/
def functionLine (f : Abi.Function) : String :=
  "  " ++ padRight 9 (if isCall f.mutability then "call" else "transact") ++ " " ++ f.signature ++
    " -> " ++ Abi.signature "" f.outputTypes ++ "\n"

/-- The line of an event. -/
def eventLine (e : Abi.Event) : String := "  " ++ padRight 9 "event" ++ " " ++ e.signature ++ "\n"

/-- The line of the constructor. -/
def constructorLine (inputs : List Abi.Param) : String :=
  "  " ++ Abi.signature "constructor" (inputs.map (·.type)) ++ "\n"

/-- What an interface offers, a line for each part. -/
def description (name : String) (i : Abi.Interface) : String :=
  name ++ "\n" ++ (i.constructor?.map constructorLine).getD "" ++
    String.join (i.functions.map functionLine) ++ String.join (i.events.map eventLine)

/-! ## Watching -/

/-- The events of an interface, or those of one name; there has to be one. -/
def watchedEvents (i : Abi.Interface) (name? : Option String) :
    Except Complaint (List Abi.Event) :=
  match i.events.filter (fun e => name?.all (e.name == ·)), name? with
  | [], some name => .error ⟨"Event '" ++ name ++ "' not found", []⟩
  | [], none => .error ⟨"Contract has no events", []⟩
  | events, _ => .ok events

/-- Opens a subscription to each event. -/
def subscribeAll (e : Rpc.Endpoint σ) (c : Contract) (o : WatchOptions) :
    List Abi.Event → Node.Session σ → Except Error Unit × Node.Session σ
  | [], s => (.ok (), s)
  | event :: rest, s =>
    let outcome := (c.subscribe o event.signature []).run (Node.chain e) s
    match outcome.result with
    | .error f => (.error f, outcome.state)
    | .ok () => subscribeAll e c o rest outcome.state

/-- Connects to the node and subscribes to events of a contract. -/
def watchAll (reach : Rpc.Url → Rpc.Endpoint σ) (config : Config) (files : Files.Tree)
    (c : Contract) (o : WatchOptions) (events : List Abi.Event) (s : Node.Session σ) :
    Report × Node.Session σ :=
  match Node.connect reach config.provider s with
  | (.failed e, s) => (.failure files (.ofError e), s)
  | (.aborted, s) => (.abort files, s)
  | (.ok endpoint, s) =>
    match subscribeAll endpoint c o events s with
    | (.error e, s) => (.failure files (.ofError e), s)
    | (.ok (), s) => (.success files "", s)

/-! ## Commands -/

/-- The request that a command for bindings stands for. -/
def generation (config : Config) (contract : String) (codeFile? outputDir? : Option String)
    (dryRun : Bool) : Generate.Request :=
  ⟨contract, outputDir?.getD config.codegen.outputDir, codeFile?, dryRun⟩

/-- A text, or the failure in its place. -/
def printing (files : Files.Tree) : Except Complaint String → Report
  | .ok text => .success files text
  | .error c => .failure files c

/-- Carries out a command. -/
def Command.run (reach : Rpc.Url → Rpc.Endpoint σ) (config : Config) (files : Files.Tree)
    (s : Node.Session σ) : Command → Report × Node.Session σ
  | .contracts => (printing files (contractsTable.mapError .ofError), s)
  | .inspect name =>
    (printing files ((lookup name).map fun r => description r.1.metadata.name r.2), s)
  | .generate abiFile contract codeFile? outputDir? dryRun =>
    let outcome := (generation config contract codeFile? outputDir? dryRun).run files abiFile
    match outcome.result with
    | .ok _ => (.success outcome.files outcome.printed, s)
    | .error e => (.failure outcome.files (.ofError e), s)
  | .watch name address event? start? =>
    match lookup name with
    | .error c => (.failure files c, s)
    | .ok (_, i) =>
      match watchedEvents i event? with
      | .error c => (.failure files c, s)
      | .ok events => watchAll reach config files ⟨address, i⟩ ⟨start?⟩ events s

/-! ## Command lines -/

/-- The name of the program and its version. -/
def versionText : String := "contract-bindings 0.1.0\n"

/-- What the program can be asked to do. -/
def usageText : String :=
  "Usage: contract-bindings [-c FILE] contracts\n" ++
  "       contract-bindings [-c FILE] inspect NAME\n" ++
  "       contract-bindings [-c FILE] generate ABI --name NAME [--bin FILE] [--output-dir DIR] " ++
    "[--dry-run]\n" ++
  "       contract-bindings [-c FILE] watch NAME --address ADDRESS [--event NAME] " ++
    "[--from-block NUMBER]\n"

/-- The report of words that lead to no command. -/
def Stop.report (files : Files.Tree) : Stop → Report
  | .usage => ⟨2, "", some usageText, files⟩
  | .help => .success files usageText
  | .version => .success files versionText

/-- Runs a command line. -/
def run (reach : Rpc.Url → Rpc.Endpoint σ) (words : List String) (env : Environment)
    (files : Files.Tree) (s : Node.Session σ) : Report × Node.Session σ :=
  match Invocation.ofWords words with
  | .error stop => (stop.report files, s)
  | .ok invocation =>
    match configuration files env invocation.settings? with
    | .error c => (.failure files c, s)
    | .ok config => invocation.command.run reach config files s

end AbiBindings.CommandLine
