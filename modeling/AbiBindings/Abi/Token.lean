import AbiBindings.Abi.Ty
import AbiBindings.Bytes.Basic
import AbiBindings.Bytes.Hex
import AbiBindings.Text.Quoted

/-!
# ABI values

* `Token`: a value as it is encoded. An integer is its 256-bit word, for signed ones in two's
  complement.
* `Token.same_iff`: equality of values is decided by comparing their parts.
* `Token.isDynamic`: whether its encoding is placed behind an offset.
* `Token.fits`, `fitsAll`: the check of arguments against types. Integer widths are not looked at, a
  fixed byte string may be shorter than its type, and a tuple may end early.
* `Token.describe`: the text of a value in a diagnostic.

**Deviation.** The check that is modelled looks up the type of every component of a tuple by its
position, so a tuple with more components than its type stops the program. Here it is refused like
any other value that does not fit.
-/

namespace AbiBindings.Abi

/-- A value as it is encoded. -/
inductive Token where
  | address (a : Address)
  | uint (w : Word)
  | int (w : Word)
  | bool (b : Bool)
  | string (s : String)
  | bytes (b : Bytes)
  | fixed (b : Bytes)
  | array (items : List Token)
  | farray (items : List Token)
  | tuple (items : List Token)
  deriving Inhabited

namespace Token

mutual

/-- Whether two values are the same. -/
def same : Token → Token → Bool
  | .address a, .address b => a == b
  | .uint v, .uint w | .int v, .int w => v == w
  | .bool a, .bool b => a == b
  | .string a, .string b => a == b
  | .bytes a, .bytes b | .fixed a, .fixed b => a == b
  | .array ss, .array ts | .farray ss, .farray ts | .tuple ss, .tuple ts => sameAll ss ts
  | _, _ => false

/-- Whether two lists of values are the same. -/
def sameAll : List Token → List Token → Bool
  | [], [] => true
  | s :: ss, t :: ts => s.same t && sameAll ss ts
  | _, _ => false

end

mutual

theorem same_iff : ∀ s t : Token, s.same t = true ↔ s = t
  | .address _, t | .uint _, t | .int _, t | .bool _, t | .string _, t | .bytes _, t
  | .fixed _, t => by cases t <;> simp [same]
  | .array ss, t | .farray ss, t | .tuple ss, t => by cases t <;> simp [same, sameAll_iff ss]

theorem sameAll_iff : ∀ ss ts : List Token, sameAll ss ts = true ↔ ss = ts
  | [], ts => by cases ts <;> simp [sameAll]
  | s :: ss, ts => by cases ts <;> simp [sameAll, same_iff s, sameAll_iff ss]

end

instance : DecidableEq Token := fun s t => decidable_of_iff _ (same_iff s t)

mutual

/-- Whether the encoding of the value is placed behind an offset. -/
def isDynamic : Token → Bool
  | .string _ | .bytes _ | .array _ => true
  | .farray items | .tuple items => anyDynamic items
  | _ => false

/-- Whether one of the values is dynamic. -/
def anyDynamic : List Token → Bool
  | [] => false
  | t :: rest => t.isDynamic || anyDynamic rest

end

mutual

/-- Whether the value is accepted for the type. -/
def fits : Token → Ty → Bool
  | .address _, .address => true
  | .uint _, .uint _ => true
  | .int _, .int _ => true
  | .bool _, .bool => true
  | .string _, .string => true
  | .bytes _, .bytes => true
  | .fixed b, .fixed size => b.length ≤ size
  | .array items, .array item => allFit items item
  | .farray items, .farray item size => items.length == size && allFit items item
  | .tuple items, .tuple types => startFits items types
  | _, _ => false

/-- Whether every value is accepted for the type. -/
def allFit : List Token → Ty → Bool
  | [], _ => true
  | t :: rest, type => t.fits type && allFit rest type

/-- Whether the values are accepted for the first of the types, and there are not more of them. -/
def startFits : List Token → List Ty → Bool
  | [], _ => true
  | _ :: _, [] => false
  | t :: rest, type :: types => t.fits type && startFits rest types

end

mutual

/-- The text of the value in a diagnostic. -/
def describe : Token → String
  | .address a => "Address(" ++ Hex.encodePrefixed a.toList ++ ")"
  | .uint w => "Uint(" ++ toString w.toNat ++ ")"
  | .int w => "Int(" ++ toString w.toNat ++ ")"
  | .bool b => "Bool(" ++ (if b then "true" else "false") ++ ")"
  | .string s => "String(" ++ Text.quoted s ++ ")"
  | .bytes b => "Bytes(" ++ describeBytes b ++ ")"
  | .fixed b => "FixedBytes(" ++ describeBytes b ++ ")"
  | .array items => "Array([" ++ ", ".intercalate (describeAll items) ++ "])"
  | .farray items => "FixedArray([" ++ ", ".intercalate (describeAll items) ++ "])"
  | .tuple items => "Tuple([" ++ ", ".intercalate (describeAll items) ++ "])"

/-- The texts of the values. -/
def describeAll : List Token → List String
  | [] => []
  | t :: rest => t.describe :: describeAll rest

/-- The text of a byte string in a diagnostic: its bytes in decimal. -/
def describeBytes (b : Bytes) : String :=
  "[" ++ ", ".intercalate (b.map fun x => toString x.toNat) ++ "]"

end

end Token

/-- Whether the values are accepted as arguments of the types. -/
def fitsAll (values : List Token) (types : List Ty) : Bool :=
  values.length == types.length && Token.startFits values types

end AbiBindings.Abi
