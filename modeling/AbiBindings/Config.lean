import AbiBindings.Files.Tree
import AbiBindings.Settings.FromJson
import AbiBindings.Settings.Toml.Document
import AbiBindings.Text.Case

/-!
# Configuration

Three layers make up a configuration: the defaults, a settings file, and the environment.

* `Config.ofSetting?`: the defaults changed by the sections of a settings document.
* `Config.override`: a configuration changed by the environment; on failure it holds the changes
  made before the variable that was refused.
* `Config.load`: the configuration of a file and an environment.
* `Provider.check`: what is wrong with the settings of the node connection.
-/

namespace AbiBindings

/-- Settings of the node connection. -/
structure Provider where
  rpcUrl : String
  useWebsocket : Bool
  /-- The chain that the node must report, if it is pinned. -/
  chainId : Option Nat
  pollIntervalMs : Nat
  deriving Repr, DecidableEq

/-- The form of log lines. -/
inductive LogFormat where
  | pretty
  | json
  deriving Repr, DecidableEq

/-- Settings of the log. -/
structure Logging where
  level : String
  format : LogFormat
  deriving Repr, DecidableEq

/-- Settings of the generator. -/
structure Codegen where
  outputDir : String
  deriving Repr, DecidableEq

/-- A configuration. -/
structure Config where
  provider : Provider
  logging : Logging
  codegen : Codegen
  deriving Repr, DecidableEq

/-- A node on this machine, asked once a second. -/
def Provider.default : Provider := ⟨"http://localhost:8545", false, none, 1000⟩

/-- Readable lines from the level `info` on. -/
def Logging.default : Logging := ⟨"info", .pretty⟩

/-- A directory below the working directory. -/
def Codegen.default : Codegen := ⟨"./generated"⟩

/-- The configuration without file and environment. -/
def Config.default : Config := ⟨.default, .default, .default⟩

/-- What is wrong with a configuration. -/
inductive ConfigError where
  | missingRpcUrl
  | invalidRpcUrl (url : String)
  | transportMismatch (url : String) (useWebsocket : Bool)
  | invalidPollInterval
  | unsupportedFormat (path : String)
  | unreadable (path : String) (cause : Files.FileError)
  | malformed (path : String)
  | invalidOverride (key value : String)
  deriving Repr, DecidableEq

/-- Stands for the words of a reader of some format. -/
def unstated : String := "*"

/-- The wording of the error. -/
def ConfigError.message : ConfigError → String
  | .missingRpcUrl => "Missing RPC URL"
  | .invalidRpcUrl url => "Invalid RPC URL '" ++ url ++ "': expected http(s):// or ws(s)://"
  | .transportMismatch url useWebsocket =>
    "RPC URL '" ++ url ++ "' does not match use_websocket = " ++
      (if useWebsocket then "true" else "false")
  | .invalidPollInterval => "Invalid poll interval: must be greater than 0"
  | .unsupportedFormat path =>
    "Unsupported configuration file format: " ++ path ++ ". Supported formats: .toml, .json"
  | .unreadable path cause =>
    "Failed to read configuration file " ++ path ++ ": " ++ cause.message
  | .malformed path => "Failed to parse configuration file " ++ path ++ ": " ++ unstated
  | .invalidOverride key value => "Invalid value for " ++ key ++ ": '" ++ value ++ "'"

/-! ## The settings file -/

/-- The settings of the node connection in a section. -/
def Provider.ofSetting? (d : Dialect) (s : Setting) : Option Provider := do
  let fields ← s.section? d ["rpc_url", "use_websocket", "chain_id", "poll_interval_ms"]
  let p := Provider.default
  some {
    rpcUrl := ← Setting.fieldOr fields "rpc_url" Setting.text? p.rpcUrl
    useWebsocket := ← Setting.fieldOr fields "use_websocket" Setting.bool? p.useWebsocket
    chainId := ← Setting.fieldOr fields "chain_id" Setting.optionalNatural? p.chainId
    pollIntervalMs :=
      ← Setting.fieldOr fields "poll_interval_ms" Setting.natural? p.pollIntervalMs }

/-- A form of log lines by its word. -/
def LogFormat.ofWord? : String → Option LogFormat
  | "pretty" => some .pretty
  | "json" => some .json
  | _ => none

/-- The settings of the log in a section. -/
def Logging.ofSetting? (d : Dialect) (s : Setting) : Option Logging := do
  let fields ← s.section? d ["level", "format"]
  let l := Logging.default
  some {
    level := ← Setting.fieldOr fields "level" Setting.text? l.level
    format := ←
      Setting.fieldOr fields "format" (fun s => (s.choice? d).bind LogFormat.ofWord?) l.format }

/-- The settings of the generator in a section. -/
def Codegen.ofSetting? (d : Dialect) (s : Setting) : Option Codegen := do
  let fields ← s.section? d ["output_dir"]
  some {
    outputDir := ← Setting.fieldOr fields "output_dir" Setting.text? Codegen.default.outputDir }

/-- The defaults changed by the sections of a document. -/
def Config.ofSetting? (d : Dialect) (s : Setting) : Option Config := do
  let fields ← s.section? d ["provider", "logging", "codegen"]
  some {
    provider := ← Setting.fieldOr fields "provider" (Provider.ofSetting? d) .default
    logging := ← Setting.fieldOr fields "logging" (Logging.ofSetting? d) .default
    codegen := ← Setting.fieldOr fields "codegen" (Codegen.ofSetting? d) .default }

/-! ## The environment -/

/-- The values of environment variables. -/
abbrev Environment := String → Option String

/-- A text in lower case. -/
def Text.lower (s : String) : String := String.ofList (Text.lowerChars s.toList)

/-- A truth value by its word, in any case. -/
def switch? (s : String) : Option Bool :=
  match Text.lower s with
  | "1" | "true" | "yes" => some true
  | "0" | "false" | "no" => some false
  | _ => none

/-- A form of log lines by its word, in any case. -/
def logFormat? (s : String) : Option LogFormat := LogFormat.ofWord? (Text.lower s)

/-- A change that an environment variable makes to a configuration, none if its value is refused. -/
structure Override where
  key : String
  change? : String → Config → Option Config

/-- The variables in the order in which they are looked at. -/
def overrides : List Override := [
  ⟨"BINDINGS_RPC_URL", fun value c =>
    some { c with provider := { c.provider with rpcUrl := value } }⟩,
  ⟨"BINDINGS_USE_WEBSOCKET", fun value c =>
    (switch? value).map fun b => { c with provider := { c.provider with useWebsocket := b } }⟩,
  ⟨"BINDINGS_LOG_LEVEL", fun value c =>
    some { c with logging := { c.logging with level := value } }⟩,
  ⟨"BINDINGS_LOG_FORMAT", fun value c =>
    (logFormat? value).map fun f => { c with logging := { c.logging with format := f } }⟩]

/-- Changes a configuration by some variables: what it is afterwards, and the variable that was
refused, if any. -/
def Config.overrideBy (env : Environment) : List Override → Config → Config × Option ConfigError
  | [], c => (c, none)
  | o :: rest, c =>
    match env o.key with
    | none => overrideBy env rest c
    | some value =>
      match o.change? value c with
      | none => (c, some (.invalidOverride o.key value))
      | some c => overrideBy env rest c

/-- Changes a configuration by the environment. -/
def Config.override (env : Environment) (c : Config) : Config × Option ConfigError :=
  c.overrideBy env overrides

/-! ## Loading and checking -/

/-- The configuration that the content of a file describes; its format is told by the path. -/
def Config.ofText (path content : String) : Except ConfigError Config :=
  match Files.Path.extension? path with
  | some "toml" =>
    match (Setting.ofTomlText? content).bind (Config.ofSetting? .toml) with
    | some c => .ok c
    | none => .error (.malformed path)
  | some "json" =>
    match (Setting.ofJsonText? content).bind (Config.ofSetting? .json) with
    | some c => .ok c
    | none => .error (.malformed path)
  | _ => .error (.unsupportedFormat path)

/-- The configuration of a file and an environment. -/
def Config.load (files : Files.Tree) (path : String) (env : Environment) :
    Except ConfigError Config :=
  match files.readText path with
  | .error cause => .error (.unreadable path cause)
  | .ok content =>
    match Config.ofText path content with
    | .error e => .error e
    | .ok c =>
      match c.override env with
      | (c, none) => .ok c
      | (_, some e) => .error e

/-- Whether a text starts with another. -/
def Text.startsWith (s start : String) : Bool := start.toList.isPrefixOf s.toList

/-- What is wrong with the settings of the node connection, if anything. -/
def Provider.check (p : Provider) : Except ConfigError Unit :=
  let isHttp := Text.startsWith p.rpcUrl "http://" || Text.startsWith p.rpcUrl "https://"
  let isWebsocket := Text.startsWith p.rpcUrl "ws://" || Text.startsWith p.rpcUrl "wss://"
  if p.rpcUrl = "" then .error .missingRpcUrl
  else if !isHttp && !isWebsocket then .error (.invalidRpcUrl p.rpcUrl)
  else if isWebsocket != p.useWebsocket then
    .error (.transportMismatch p.rpcUrl p.useWebsocket)
  else if p.pollIntervalMs = 0 then .error .invalidPollInterval
  else .ok ()

/-- What is wrong with a configuration, if anything. -/
def Config.check (c : Config) : Except ConfigError Unit := c.provider.check

end AbiBindings
