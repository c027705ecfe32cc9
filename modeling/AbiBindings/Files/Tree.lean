import AbiBindings.Bytes.Utf8
import AbiBindings.Files.Path

/-!
# Directory trees

The files and directories around a working directory. A place is the list of names that leads to it
from the working directory; `..` in front goes up from there, and `/` in front starts at the root.

* `Tree.find`: the place that a path leads to; every name but none of the last has to exist.
* `Tree.read`, `Tree.readText`: the content of a file.
* `Tree.createAll`: a directory with every missing directory above it.
* `Tree.write`: a file with a given content.
-/

namespace AbiBindings.Files

/-- Why a file operation fails. -/
inductive FileError where
  | missing
  | alreadyThere
  | notDirectory
  | isDirectory
  | nameTooLong
  | nulInPath
  | notText
  deriving Repr, DecidableEq

/-- The wording of the error. -/
def FileError.message : FileError → String
  | .missing => "No such file or directory (os error 2)"
  | .alreadyThere => "File exists (os error 17)"
  | .notDirectory => "Not a directory (os error 20)"
  | .isDirectory => "Is a directory (os error 21)"
  | .nameTooLong => "File name too long (os error 36)"
  | .nulInPath => "file name contained an unexpected NUL byte"
  | .notText => "stream did not contain valid UTF-8"

/-- The names that lead to a file or directory. -/
abbrev Place := List String

/-- What stands at a place. -/
inductive Node where
  | file (content : Bytes)
  | directory
  deriving Repr, DecidableEq

/-- The files and directories around a working directory. -/
structure Tree where
  entries : List (Place × Node)
  deriving Repr, DecidableEq

/-- The tree of an empty working directory. -/
def Tree.empty : Tree := ⟨[]⟩

/-- Whether the place is the working directory, a directory above it, or the root. -/
def Place.isGiven (p : Place) : Bool := p.all (· == "..") || p == ["/"]

/-- The directory above a place. -/
def Place.above (p : Place) : Place :=
  if p == ["/"] then p
  else if p.all (· == "..") then p ++ [".."]
  else p.dropLast

namespace Tree

/-- What stands at a place. -/
def at? (t : Tree) (p : Place) : Option Node :=
  if Place.isGiven p then some .directory
  else (t.entries.find? fun e => e.1 == p).map (·.2)

/-- Puts a node into the entries, in place of the one at the same place. -/
def putEntry (p : Place) (node : Node) : List (Place × Node) → List (Place × Node)
  | [] => [(p, node)]
  | e :: rest => if e.1 = p then (p, node) :: rest else e :: putEntry p node rest

/-- The tree with a node at a place. -/
def put (t : Tree) (p : Place) (node : Node) : Tree := ⟨putEntry p node t.entries⟩

/-- The longest name of a file or directory, in bytes. -/
def nameLimit : Nat := 255

/-- The longest path, in bytes. -/
def pathLimit : Nat := 4095

/-- The directory or file that a part leads to from a place, whether or not it exists. -/
def step (t : Tree) (p : Place) (part : String) : Except FileError Place :=
  match t.at? p with
  | none => .error .missing
  | some (.file _) => .error .notDirectory
  | some .directory =>
    if Path.isStay part then .ok p
    else if part = ".." then .ok (Place.above p)
    else if nameLimit < part.utf8ByteSize then .error .nameTooLong
    else .ok (p ++ [part])

/-- The place that the parts lead to from a place. -/
def walk (t : Tree) (p : Place) : List String → Except FileError Place
  | [] => .ok p
  | part :: rest =>
    match t.step p part with
    | .error e => .error e
    | .ok p => t.walk p rest

/-- The place where the parts of a path start. -/
def start (parts : List String) : Place :=
  match parts with
  | "" :: _ :: _ => ["/"]
  | _ => []

/-- The place that a path leads to; the last name need not exist. -/
def find (t : Tree) (path : String) : Except FileError Place :=
  if path = "" then .error .missing
  else if path.toList.contains '\x00' then .error .nulInPath
  else if pathLimit < path.utf8ByteSize then .error .nameTooLong
  else
    let parts := Path.parts path
    t.walk (start parts) parts

/-- The content of a file. -/
def read (t : Tree) (path : String) : Except FileError Bytes :=
  match t.find path with
  | .error e => .error e
  | .ok p =>
    match t.at? p with
    | none => .error .missing
    | some .directory => .error .isDirectory
    | some (.file content) => .ok content

/-- The content of a file as a text. -/
def readText (t : Tree) (path : String) : Except FileError String :=
  match t.read path with
  | .error e => .error e
  | .ok content =>
    match utf8? content with
    | some s => .ok s
    | none => .error .notText

/-- Makes the directory that the parts lead to; the directory above it has to exist. -/
def makeDirectory (t : Tree) (parts : List String) : Except FileError Tree :=
  match t.walk (start parts) parts with
  | .error e => .error e
  | .ok p =>
    match t.at? p with
    | some _ => .error .alreadyThere
    | none => .ok (t.put p .directory)

/-- Whether the parts lead to a directory. -/
def isDirectory (t : Tree) (parts : List String) : Bool :=
  match t.walk (start parts) parts with
  | .error _ => false
  | .ok p => t.at? p == some .directory

/-- Makes the directory that the parts lead to, and at most `fuel` directories above it; those made
before a failure stay. -/
def createParts (t : Tree) (parts : List String) : Nat → Tree × Except FileError Unit
  | 0 => (t, .ok ())
  | fuel + 1 =>
    if parts.isEmpty then (t, .ok ())
    else
      match t.makeDirectory parts with
      | .ok t => (t, .ok ())
      | .error .missing =>
        match t.createParts (Path.parent parts) fuel with
        | (t, .error e) => (t, .error e)
        | (t, .ok ()) =>
          match t.makeDirectory parts with
          | .ok t => (t, .ok ())
          | .error e => (t, if t.isDirectory parts then .ok () else .error e)
      | .error e => (t, if t.isDirectory parts then .ok () else .error e)

/-- Makes a directory and every missing directory above it; those made before a failure stay. -/
def createAll (t : Tree) (path : String) : Tree × Except FileError Unit :=
  if path = "" then (t, .ok ())
  else if path.toList.contains '\x00' then (t, .error .nulInPath)
  else if pathLimit < path.utf8ByteSize then (t, .error .nameTooLong)
  else
    let parts := ((Path.parts path).reverse.dropWhile (· == "")).reverse
    t.createParts parts (parts.length + 1)

/-- Writes a file; the directory above it has to exist. -/
def write (t : Tree) (path : String) (content : Bytes) : Except FileError Tree :=
  match t.find path with
  | .error e => .error e
  | .ok p =>
    match t.at? p with
    | some .directory => .error .isDirectory
    | _ =>
      if (Path.parts path).getLast? = some "" then .error .isDirectory
      else .ok (t.put p (.file content))

end Tree

end AbiBindings.Files
