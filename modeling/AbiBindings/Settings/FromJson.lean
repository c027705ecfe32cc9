import AbiBindings.Json.Reader
import AbiBindings.Settings.Basic

/-!
# Settings in JSON

* `Setting.ofJson`: the settings document of a JSON document.
* `Dialect.json`: a list must not be longer than its section, and null follows the word of a choice.
* `Setting.ofJsonText?`: the settings document of a text.
-/

namespace AbiBindings

/-- The rules of JSON settings. -/
def Dialect.json : Dialect where
  surplus := false
  closes
    | .nothing => true
    | _ => false

namespace Setting

mutual

/-- The settings document of a JSON document. -/
def ofJson : Json → Setting
  | .null => .nothing
  | .bool b => .bool b
  | .number (.natural n) => .natural n.toNat
  | .number _ => .other
  | .text s => .text s
  | .array items => .list (ofJsonItems items)
  | .object members => .table (ofJsonMembers members)
  | .faulty => .other

/-- The settings documents of the items. -/
def ofJsonItems : List Json → List Setting
  | [] => []
  | x :: rest => ofJson x :: ofJsonItems rest

/-- The settings documents of the members. -/
def ofJsonMembers : List (String × Json) → List (String × Setting)
  | [] => []
  | (key, x) :: rest => (key, ofJson x) :: ofJsonMembers rest

end

/-- The settings document of a text. Parts that no setting looks at need not stand for a value. -/
def ofJsonText? (s : String) : Option Setting := (Json.read s).map ofJson

end Setting

end AbiBindings
