/-!
# Settings documents

What the formats of settings files have in common: values, lists and sections of named values.

* `Setting`: a document.
* `Dialect`: in what the formats differ when sections and choices are read.
* `Setting.section?`: the named fields of a section; a list stands for a section whose fields come
  in order.
* `Setting.choice?`: the word of a choice.
-/

namespace AbiBindings

/-- A settings document. -/
inductive Setting where
  | nothing
  | bool (b : Bool)
  | natural (n : Nat)
  | text (s : String)
  | date
  /-- A value that no setting can have, such as a fraction or a negative number. -/
  | other
  | list (items : List Setting)
  | table (members : List (String × Setting))
  deriving Inhabited

/-- In what formats differ. -/
structure Dialect where
  /-- Whether a list may go on after the last field of a section. -/
  surplus : Bool
  /-- Whether a value may stand after the word of a choice. -/
  closes : Setting → Bool

namespace Setting

/-- The truth value, if the document is one. -/
def bool? : Setting → Option Bool
  | .bool b => some b
  | _ => none

/-- The natural number, if the document is one. -/
def natural? : Setting → Option Nat
  | .natural n => some n
  | _ => none

/-- The text, if the document is one. -/
def text? : Setting → Option String
  | .text s => some s
  | _ => none

/-- The natural number, or none for nothing. -/
def optionalNatural? : Setting → Option (Option Nat)
  | .nothing => some none
  | s => s.natural?.map some

/-- Whether no key of the list occurs twice among the members. -/
def distinct (keys : List String) (members : List (String × Setting)) : Bool :=
  keys.all fun key => (members.filter fun m => m.1 == key).length ≤ 1

/-- The fields of a section with the given keys; unknown keys are left out. -/
def section? (d : Dialect) (keys : List String) : Setting → Option (List (String × Setting))
  | .table members =>
    if distinct keys members then some (members.filter fun m => keys.contains m.1) else none
  | .list items =>
    if items.length ≤ keys.length || d.surplus then some (keys.zip items) else none
  | .date => some []
  | _ => none

/-- The field of a key, or the default if it is missing. -/
def fieldOr (fields : List (String × Setting)) (key : String) (read : Setting → Option α)
    (default : α) : Option α :=
  match fields.lookup key with
  | none => some default
  | some value => read value

/-- The word of a choice: a text, or the only key of a table whose value may stand after it. -/
def choice? (d : Dialect) : Setting → Option String
  | .text s => some s
  | .table [(word, value)] => if d.closes value then some word else none
  | _ => none

end Setting

end AbiBindings
