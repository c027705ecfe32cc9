import AbiBindings.Error
import AbiBindings.Json.Printer
import AbiBindings.Text.Digits

/-!
# Values as documents

How values are exchanged as JSON documents: byte strings in lower-case hexadecimal digits after
`0x`, integers of the chain as decimal texts, counts as numbers, what is missing as null.

* `hex`, `decimal`, `signed`, `count`, `optional`: writing values.
* `bytes?`, `fixed?`, `natural?`, `word?`: reading them.
* `required`, `given?`, `givenOr`: the members of an object; a member that is null counts as
  missing.
* `error`, `error?`: a failure by its class and wording.
-/

namespace AbiBindings.Wire

/-! ## Writing -/

/-- A byte string. -/
def hex (b : Bytes) : Json := .text (Hex.encodePrefixed b)

/-- A byte string of a fixed size. -/
def fixed (v : Vector UInt8 n) : Json := hex v.toList

/-- A natural number of the chain. -/
def decimal (n : Nat) : Json := .text (toString n)

/-- A word with its sign. -/
def signed (w : Word) : Json := .text (toString w.toInt)

/-- A count. -/
def count (n : Nat) : Json := .number (.natural (UInt64.ofNat n))

/-- A value that may be missing. -/
def optional (write : α → Json) : Option α → Json
  | none => .null
  | some a => write a

/-- A list of values. -/
def list (write : α → Json) (l : List α) : Json := .array (l.map write)

/-! ## Reading -/

/-- A byte string. -/
def bytes? (j : Json) : Option Bytes := do
  match Hex.decode (Hex.stripMark (← j.text?)) with
  | .ok b => some b
  | .error _ => none

/-- A byte string of a fixed size. -/
def fixed? (n : Nat) (j : Json) : Option (Vector UInt8 n) := do exactly? n (← bytes? j)

/-- The number that a text of digits spells. -/
def digits? : List Char → Option Nat
  | [] => none
  | cs => Text.decimalFrom? 0 cs

/-- A natural number, as a decimal text or as a number. -/
def natural? : Json → Option Nat
  | .text s => digits? s.toList
  | j => j.natural?

/-- An integer as a word, negative ones in two's complement. -/
def word? : Json → Option Word
  | .text s =>
    match s.toList with
    | '-' :: cs => (digits? cs).map fun n => BitVec.ofInt 256 (-n)
    | cs => (digits? cs).map (BitVec.ofNat 256)
  | j => j.natural?.map (BitVec.ofNat 256)

/-- A list of values. -/
def list? (read : Json → Option α) : Json → Option (List α)
  | .array items => items.mapM read
  | _ => none

/-- A value that is null when it is missing. -/
def optional? (read : Json → Option α) : Json → Option (Option α)
  | .null => some none
  | j => (read j).map some

/-- The members of an object. -/
def members? : Json → Option (List (String × Json))
  | .object members => some members
  | _ => none

/-- A member that is there and not null. -/
def present? (j : Json) (key : String) : Option Json :=
  match j.member? key with
  | none | some .null => none
  | some value => some value

/-- A member that has to be there. -/
def required (j : Json) (key : String) (read : Json → Option α) : Option α :=
  (present? j key).bind read

/-- A member that may be missing. -/
def given? (j : Json) (key : String) (read : Json → Option α) : Option (Option α) :=
  match present? j key with
  | none => some none
  | some value => (read value).map some

/-- A member with a default. -/
def givenOr (j : Json) (key : String) (read : Json → Option α) (default : α) : Option α := do
  some ((← given? j key read).getD default)

/-! ## Failures -/

/-- The word for a class of errors. -/
def kindName : ErrorKind → String
  | .abi => "Abi"
  | .transport => "Transport"
  | .decode => "Decode"
  | .revert => "Revert"
  | .subscription => "Subscription"
  | .noCode => "NoCode"
  | .config => "Config"
  | .generic => "Generic"
  | .foreign => "Other"

/-- The word for a fault of the configuration. -/
def configKindName : ConfigError → String
  | .missingRpcUrl => "MissingRpcUrl"
  | .invalidRpcUrl _ => "InvalidRpcUrl"
  | .transportMismatch _ _ => "TransportMismatch"
  | .invalidPollInterval => "InvalidPollInterval"
  | .unsupportedFormat _ => "UnsupportedFormat"
  | .unreadable _ _ => "Read"
  | .malformed _ => "Parse"
  | .invalidOverride _ _ => "InvalidOverride"

/-- A failure with the text of its own that a class of errors admits. `Rpc` stands for what a node
reports. -/
def error? (j : Json) : Option Error := do
  let message ← givenOr j "message" Json.text? ""
  match ← required j "error" Json.text? with
  | "Abi" => some (.abi (.other message))
  | "Transport" => some (.transport (.other message))
  | "Decode" => some (.decode (.other message))
  | "Revert" => some (.revert message)
  | "Subscription" => some (.subscription (.other message))
  | "NoCode" => some .noCode
  | "Config" => some (.config (.other message))
  | "Generic" => some (.generic message)
  | "Other" => some (.foreign message)
  | "Rpc" => some (Error.ofRpc message)
  | _ => none

/-- A value, or a failure in its place. -/
def answer? (read : Json → Option α) (j : Json) : Option (Except Error α) :=
  match present? j "error" with
  | some _ => (error? j).map .error
  | none => (read j).map .ok

end AbiBindings.Wire
