import AbiBindings.Json.Basic
import AbiBindings.Text.Quoted

/-!
# Printing JSON documents

* `Json.pretty`: a document over several lines, two blanks per level, no blank line inside an empty
  array or object. Characters beyond ASCII stay, control characters are escaped.
* `Json.compact`: a document on one line without blanks.
* `Json.describe`: a document in a diagnostic, every part after the name of its kind.
-/

namespace AbiBindings.Json

/-- A character of a text literal. -/
def escapeChar (c : Char) : List Char :=
  if c = '"' then ['\\', '"']
  else if c = '\\' then ['\\', '\\']
  else if c = '\x08' then ['\\', 'b']
  else if c = '\x0c' then ['\\', 'f']
  else if c = '\n' then ['\\', 'n']
  else if c = '\r' then ['\\', 'r']
  else if c = '\t' then ['\\', 't']
  else if c.toNat < 0x20 then
    ['\\', 'u', '0', '0', Text.hexDigit (c.toNat / 16), Text.hexDigit (c.toNat % 16)]
  else [c]

/-- A text literal. -/
def renderText (s : String) : List Char := '"' :: s.toList.flatMap escapeChar ++ ['"']

/-- A line break and the blanks of a level. -/
def newline (level : Nat) : List Char := '\n' :: List.replicate (2 * level) ' '

mutual

/-- A document whose first line stands at a level. -/
def prettyChars (level : Nat) : Json → List Char
  | .null | .faulty => ['n', 'u', 'l', 'l']
  | .bool true => ['t', 'r', 'u', 'e']
  | .bool false => ['f', 'a', 'l', 's', 'e']
  | .number n => n.render
  | .text s => renderText s
  | .array [] => ['[', ']']
  | .array (x :: rest) =>
    '[' :: newline (level + 1) ++ prettyChars (level + 1) x ++ prettyItems (level + 1) rest ++
      newline level ++ [']']
  | .object [] => ['\x7b', '\x7d']
  | .object ((k, x) :: rest) =>
    '\x7b' :: newline (level + 1) ++ renderText k ++ ':' :: ' ' :: prettyChars (level + 1) x ++
      prettyMembers (level + 1) rest ++ newline level ++ ['\x7d']

/-- Further items, each after a comma on a line of its own. -/
def prettyItems (level : Nat) : List Json → List Char
  | [] => []
  | x :: rest => ',' :: newline level ++ prettyChars level x ++ prettyItems level rest

/-- Further members, each after a comma on a line of its own. -/
def prettyMembers (level : Nat) : List (String × Json) → List Char
  | [] => []
  | (k, x) :: rest =>
    ',' :: newline level ++ renderText k ++ ':' :: ' ' :: prettyChars level x ++
      prettyMembers level rest

end

/-- The document over several lines. -/
def pretty (j : Json) : String := String.ofList (prettyChars 0 j)

mutual

/-- A document on one line. -/
def compactChars : Json → List Char
  | .array [] => ['[', ']']
  | .array (x :: rest) => '[' :: compactChars x ++ compactItems rest
  | .object [] => ['\x7b', '\x7d']
  | .object ((k, x) :: rest) =>
    '\x7b' :: renderText k ++ ':' :: compactChars x ++ compactMembers rest
  | x => prettyChars 0 x

/-- Further items and the bracket that ends them. -/
def compactItems : List Json → List Char
  | [] => [']']
  | x :: rest => ',' :: compactChars x ++ compactItems rest

/-- Further members and the brace that ends them. -/
def compactMembers : List (String × Json) → List Char
  | [] => ['\x7d']
  | (k, x) :: rest => ',' :: renderText k ++ ':' :: compactChars x ++ compactMembers rest

end

/-- The document on one line. -/
def compact (j : Json) : String := String.ofList (compactChars j)

/-! ## Diagnostics -/

mutual

/-- A document in a diagnostic. -/
def describe : Json → String
  | .null | .faulty => "Null"
  | .bool true => "Bool(true)"
  | .bool false => "Bool(false)"
  | .number n => "Number(" ++ String.ofList n.render ++ ")"
  | .text s => "String(" ++ Text.quoted s ++ ")"
  | .array items => "Array [" ++ ", ".intercalate (describeItems items) ++ "]"
  | .object members => "Object \x7b" ++ ", ".intercalate (describeMembers members) ++ "\x7d"

/-- The items of an array in a diagnostic. -/
def describeItems : List Json → List String
  | [] => []
  | x :: rest => x.describe :: describeItems rest

/-- The members of an object in a diagnostic. -/
def describeMembers : List (String × Json) → List String
  | [] => []
  | (k, x) :: rest => (Text.quoted k ++ ": " ++ x.describe) :: describeMembers rest

end

end AbiBindings.Json
