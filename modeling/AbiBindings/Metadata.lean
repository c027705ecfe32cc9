import AbiBindings.Abi.Document
import AbiBindings.Error
import AbiBindings.Text.Quoted

/-!
# Contract metadata

The ABI text of a contract with its creation code, if there is one.

* `Metadata.interface`: the interface that the text describes.
* `Metadata.bytecode`: the creation code; white space around its digits and one mark `0x` are
  dropped.
-/

namespace AbiBindings

/-- The ABI text and the creation code of a contract. -/
structure Metadata where
  name : String
  abi : String
  bin? : Option String
  deriving Repr, DecidableEq

namespace Metadata

/-- Whether there is creation code. -/
def isDeployable (m : Metadata) : Bool := m.bin?.isSome

/-- The interface that the ABI text describes. -/
def interface (m : Metadata) : Except Error Abi.Interface :=
  match Abi.Interface.parse? m.abi with
  | some interface => .ok interface
  | none => .error (.abi (.badInterface m.name))

/-- The bytes of a text of hexadecimal digits. -/
def codeOfText (text : String) : Except Hex.DecodeError Bytes :=
  Hex.decode (Hex.stripMark (Text.trim text))

/-- The creation code. -/
def bytecode (m : Metadata) : Except Error Bytes :=
  match m.bin? with
  | none => .error (.config (.noBytecode m.name))
  | some text =>
    match codeOfText text with
    | .ok code => .ok code
    | .error cause => .error (.abi (.badBytecode m.name cause))

/-- The text of the metadata in a diagnostic. -/
def describe (m : Metadata) : String :=
  "ContractMetadata \x7b name: " ++ Text.quoted m.name ++ ", deployable: " ++
    (if m.isDeployable then "true" else "false") ++ " \x7d"

end Metadata

end AbiBindings
