/-!
# File paths

Paths are texts whose parts are separated by slashes. An empty part and the part `.` stand for the
directory that was reached so far.

* `Path.parts`: the parts of a path.
* `Path.fileName?`, `Path.extension?`: the last name of a path, and what follows its last point.
* `Path.parent`: a path without its last name.
* `Path.join`: a path below another; an absolute one stands for itself.
-/

namespace AbiBindings.Files

namespace Path

/-- The pieces of a text between slashes. -/
def split : List Char → List (List Char)
  | [] => [[]]
  | c :: rest =>
    if c = '/' then [] :: split rest
    else
      match split rest with
      | [] => [[c]]
      | piece :: pieces => (c :: piece) :: pieces

/-- The parts of a path, empty ones included. -/
def parts (path : String) : List String := (split path.toList).map String.ofList

/-- Whether a part stands for the directory that was reached so far. -/
def isStay (part : String) : Bool := part == "" || part == "."

/-- Whether a path starts at the root. -/
def isAbsolute (path : String) : Bool := path.toList.head? == some '/'

/-- The last name of a path; a path that ends by going up has none. -/
def fileName? (path : String) : Option String :=
  match (parts path).reverse.dropWhile isStay with
  | [] => none
  | name :: _ => if name = ".." then none else some name

/-- The text after the last point of a name that does not start with its only point. -/
def extension? (path : String) : Option String := do
  let name ← fileName? path
  let backwards := name.toList.reverse
  match backwards.dropWhile (· ≠ '.') with
  | _ :: _ :: _ => some (String.ofList (backwards.takeWhile (· ≠ '.')).reverse)
  | _ => none

/-- The parts of a path without its last name. -/
def parent (parts : List String) : List String :=
  ((((parts.reverse.dropWhile isStay).drop 1).dropWhile isStay).reverse)

/-- A path below another. -/
def join (base path : String) : String :=
  if isAbsolute path then path
  else if base = "" then path
  else if base.toList.getLast? = some '/' then base ++ path
  else base ++ "/" ++ path

end Path

end AbiBindings.Files
