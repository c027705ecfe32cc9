import AbiBindings.Files.Tree
import AbiBindings.Generate.Text
import AbiBindings.Json.Printer
import AbiBindings.Metadata
import AbiBindings.Outline.Document

/-!
# Generating bindings

From files to files: an ABI document and, if the contract is to be deployable, its creation code are
read, and a module is written beside the document and the code that it embeds.

* `Request.render`: the files of an outline.
* `Request.generate`: reads and renders, then writes; on a dry run it prints instead.
* `Request.run`: checks name and files first, then generates, and reports the written files.
-/

namespace AbiBindings.Generate

/-- What to generate. -/
structure Request where
  contract : String
  outputDir : String
  /-- The path of the creation code, if the contract is deployable. -/
  codeFile? : Option String
  /-- Whether to print the files and write none. -/
  dryRun : Bool
  deriving Repr, DecidableEq

/-- A file to be written. -/
structure OutputFile where
  path : String
  content : String
  deriving Repr, DecidableEq

/-- What a run leaves behind. -/
structure Outcome (α : Type) where
  result : Except Error α
  files : Files.Tree
  printed : String

/-- A run that fails before it writes or prints anything. -/
def Outcome.failed (files : Files.Tree) (e : Error) : Outcome α := ⟨.error e, files, ""⟩

/-! ## Rendering -/

namespace Request

/-- The path of a file in the output directory. -/
def path (r : Request) (ending : String) : String :=
  Files.Path.join r.outputDir (Text.snakeCase r.contract ++ ending)

/-- The files of an outline and the text of the creation code. -/
def render (r : Request) (o : Outline) (code? : Option String) : Except Error (List OutputFile) :=
  if o.functions.isEmpty && o.events.isEmpty then .error (.abi (.nothingToBind r.contract))
  else
    let code := match code? with
      | some text => [⟨r.path ".bin", Text.trim text⟩]
      | none => []
    .ok ([⟨r.path ".rs", (Module.ofOutline r.contract code?.isSome o).text⟩,
      ⟨r.path ".json", o.document.pretty⟩] ++ code)

end Request

/-! ## Writing -/

/-- Writes files in order; those before a failure stay. -/
def writeAll (t : Files.Tree) : List OutputFile → Files.Tree × Except Error Unit
  | [] => (t, .ok ())
  | file :: rest =>
    match t.write file.path (utf8 file.content) with
    | .error cause => (t, .error (.config (.unwritable file.path cause)))
    | .ok t => writeAll t rest

/-- What a dry run prints for a file. -/
def preview (file : OutputFile) : String :=
  "\n--- " ++ file.path ++ " ---\n" ++ file.content ++ "\n"

namespace Request

/-- Writes files into the output directory, or prints them on a dry run; the result is their paths.
-/
def emit (r : Request) (t : Files.Tree) (files : List OutputFile) : Outcome (List String) :=
  let paths := files.map (·.path)
  if r.dryRun then ⟨.ok paths, t, String.join (files.map preview)⟩
  else
    match t.createAll r.outputDir with
    | (t, .error cause) => .failed t (.config (.outputDirectory cause))
    | (t, .ok ()) =>
      match writeAll t files with
      | (t, .error e) => .failed t e
      | (t, .ok ()) => ⟨.ok paths, t, ""⟩

/-- The text of the creation code, if there is a file for it. -/
def code? (r : Request) (t : Files.Tree) : Except Error (Option String) :=
  match r.codeFile? with
  | none => .ok none
  | some path =>
    match t.readText path with
    | .error cause => .error (.config (.unreadableBytecode path cause))
    | .ok text => .ok (some text)

/-- The files for an ABI document. -/
def filesFor (r : Request) (t : Files.Tree) (abiFile : String) :
    Except Error (List OutputFile) :=
  if r.contract = "" then .error (.config .unnamedContract)
  else
    match t.readText abiFile with
    | .error cause => .error (.config (.file cause))
    | .ok text =>
      match Outline.parse text with
      | .error e => .error e
      | .ok outline =>
        match r.code? t with
        | .error e => .error e
        | .ok code? => r.render outline code?

/-- Generates the bindings of an ABI document. -/
def generate (r : Request) (t : Files.Tree) (abiFile : String) : Outcome (List String) :=
  match r.filesFor t abiFile with
  | .error e => .failed t e
  | .ok files => r.emit t files

end Request

/-! ## Checks before a run -/

/-- Whether a character is a letter `A` to `Z` in either case. -/
def isAsciiLetter (c : Char) : Bool := ('a' ≤ c && c ≤ 'z') || ('A' ≤ c && c ≤ 'Z')

/-- Whether a character may stand in the name of a contract. -/
def isNameCharacter (c : Char) : Bool := isAsciiLetter c || Text.isAsciiDigit c || c == '_'

/-- The check of the name of a contract. -/
def checkName (name : String) : Except Error Unit :=
  match name.toList with
  | [] => .error (.config .emptyContractName)
  | c :: rest =>
    if !isAsciiLetter c then .error (.config (.contractNameStart name))
    else if !rest.all isNameCharacter then .error (.config (.contractNameCharacter name))
    else .ok ()

/-- The check of an ABI file: it can be read and holds JSON. -/
def checkAbiFile (t : Files.Tree) (path : String) : Except Error Unit :=
  match t.readText path with
  | .error cause => .error (.config (.unreadableAbi path cause))
  | .ok text =>
    match Json.parse text with
    | none => .error (.config .abiNotJson)
    | some _ => .ok ()

/-- The check of a text of creation code. -/
def checkCode (text : String) : Except Error Unit :=
  match Metadata.codeOfText text with
  | .error cause => .error (.config (.bytecodeNotHex cause))
  | .ok _ => .ok ()

/-- The check of a file of creation code: it can be read and holds hexadecimal digits. -/
def checkCodeFile (t : Files.Tree) (path : String) : Except Error Unit :=
  match t.readText path with
  | .error cause => .error (.config (.unreadableBytecode path cause))
  | .ok text => checkCode text

namespace Request

/-- The checks before a run. -/
def check (r : Request) (t : Files.Tree) (abiFile : String) : Except Error Unit :=
  match checkName r.contract with
  | .error e => .error e
  | .ok () =>
    match checkAbiFile t abiFile with
    | .error e => .error e
    | .ok () =>
      match r.codeFile? with
      | none => .ok ()
      | some path => checkCodeFile t path

/-- What is reported about the written files. -/
def report (paths : List String) : String := String.join (paths.map fun p => "wrote " ++ p ++ "\n")

/-- Checks, generates, and reports the written files. -/
def run (r : Request) (t : Files.Tree) (abiFile : String) : Outcome (List String) :=
  match r.check t abiFile with
  | .error e => .failed t e
  | .ok () =>
    let outcome := r.generate t abiFile
    match outcome.result with
    | .error _ => outcome
    | .ok paths =>
      if r.dryRun then outcome else { outcome with printed := outcome.printed ++ report paths }

end Request

end AbiBindings.Generate
