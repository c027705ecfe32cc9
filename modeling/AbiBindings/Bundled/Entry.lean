import AbiBindings.Json.Printer

/-!
# Entries of ABI documents

The entries from which the documents of the bundled contracts are built, with their members in the
order of the keys.

* `documentText`: the text of a document.
-/

namespace AbiBindings.Bundled

/-- The text of a document, with a line break at the end. -/
def documentText (document : Json) : String := document.pretty ++ "\n"

namespace Entry

/-- An argument or result with its type in the source language of the contract. -/
def value (name type internalType : String) : Json :=
  .object [("internalType", .text internalType), ("name", .text name), ("type", .text type)]

/-- An argument or result. -/
def plainValue (name type : String) : Json :=
  .object [("name", .text name), ("type", .text type)]

/-- An argument of an event with its type in the source language of the contract. -/
def argument (indexed : Bool) (name type internalType : String) : Json :=
  .object [("indexed", .bool indexed), ("internalType", .text internalType), ("name", .text name),
    ("type", .text type)]

/-- An argument of an event. -/
def plainArgument (indexed : Bool) (name type : String) : Json :=
  .object [("indexed", .bool indexed), ("name", .text name), ("type", .text type)]

/-- A constructor. -/
def constructor (inputs : List Json) : Json :=
  .object [("inputs", .array inputs), ("stateMutability", .text "nonpayable"),
    ("type", .text "constructor")]

/-- A constructor with the older flag for payments. -/
def flaggedConstructor (inputs : List Json) : Json :=
  .object [("inputs", .array inputs), ("payable", .bool false),
    ("stateMutability", .text "nonpayable"), ("type", .text "constructor")]

/-- A function. -/
def function (name : String) (inputs outputs : List Json) (mutability : String) : Json :=
  .object [("inputs", .array inputs), ("name", .text name), ("outputs", .array outputs),
    ("stateMutability", .text mutability), ("type", .text "function")]

/-- A function with the older flags for constant calls and payments. -/
def flaggedFunction (constant : Bool) (name : String) (inputs outputs : List Json)
    (mutability : String) : Json :=
  .object [("constant", .bool constant), ("inputs", .array inputs), ("name", .text name),
    ("outputs", .array outputs), ("payable", .bool false), ("stateMutability", .text mutability),
    ("type", .text "function")]

/-- An event. -/
def event (name : String) (inputs : List Json) : Json :=
  .object [("anonymous", .bool false), ("inputs", .array inputs), ("name", .text name),
    ("type", .text "event")]

/-- An error. -/
def error (name : String) (inputs : List Json) : Json :=
  .object [("inputs", .array inputs), ("name", .text name), ("type", .text "error")]

end Entry

end AbiBindings.Bundled
