/-!
# ABI types

The types of contract parameters.

* `Ty.same_iff`: equality of types is decided by comparing their parts.
* `Ty.canonical`: the text of a type in signatures.
* `Ty.isDynamic`: whether an encoded value is placed behind an offset.
* `signature`: a name with the canonical types of its inputs.
-/

namespace AbiBindings.Abi

/-- A parameter type. Widths are in bits for integers and in bytes for fixed byte strings. -/
inductive Ty where
  | address
  | bool
  | string
  | bytes
  | uint (width : Nat)
  | int (width : Nat)
  | fixed (size : Nat)
  | array (item : Ty)
  | farray (item : Ty) (size : Nat)
  | tuple (items : List Ty)
  deriving Inhabited

namespace Ty

mutual

/-- Whether two types are the same. -/
def same : Ty → Ty → Bool
  | .address, .address | .bool, .bool | .string, .string | .bytes, .bytes => true
  | .uint v, .uint w | .int v, .int w | .fixed v, .fixed w => v == w
  | .array s, .array t => s.same t
  | .farray s m, .farray t n => s.same t && m == n
  | .tuple ss, .tuple ts => sameAll ss ts
  | _, _ => false

/-- Whether two lists of types are the same. -/
def sameAll : List Ty → List Ty → Bool
  | [], [] => true
  | s :: ss, t :: ts => s.same t && sameAll ss ts
  | _, _ => false

end

mutual

theorem same_iff : ∀ s t : Ty, s.same t = true ↔ s = t
  | .address, t | .bool, t | .string, t | .bytes, t | .uint _, t | .int _, t | .fixed _, t => by
    cases t <;> simp [same]
  | .array s, t => by cases t <;> simp [same, same_iff s]
  | .farray s _, t => by cases t <;> simp [same, same_iff s]
  | .tuple ss, t => by cases t <;> simp [same, sameAll_iff ss]

theorem sameAll_iff : ∀ ss ts : List Ty, sameAll ss ts = true ↔ ss = ts
  | [], ts => by cases ts <;> simp [sameAll]
  | s :: ss, ts => by cases ts <;> simp [sameAll, same_iff s, sameAll_iff ss]

end

instance : DecidableEq Ty := fun s t => decidable_of_iff _ (same_iff s t)

mutual

/-- The text of the type in signatures. -/
def canonical : Ty → String
  | .address => "address"
  | .bool => "bool"
  | .string => "string"
  | .bytes => "bytes"
  | .uint width => "uint" ++ toString width
  | .int width => "int" ++ toString width
  | .fixed size => "bytes" ++ toString size
  | .array item => item.canonical ++ "[]"
  | .farray item size => item.canonical ++ "[" ++ toString size ++ "]"
  | .tuple items => "(" ++ ",".intercalate (canonicals items) ++ ")"

/-- The texts of the types. -/
def canonicals : List Ty → List String
  | [] => []
  | t :: rest => t.canonical :: canonicals rest

end

mutual

/-- Whether an encoded value of the type is placed behind an offset. -/
def isDynamic : Ty → Bool
  | .string | .bytes | .array _ => true
  | .farray item _ => item.isDynamic
  | .tuple items => anyDynamic items
  | _ => false

/-- Whether one of the types is dynamic. -/
def anyDynamic : List Ty → Bool
  | [] => false
  | t :: rest => t.isDynamic || anyDynamic rest

end

/-- Whether an absent encoding counts as one of a value of the type. -/
def acceptsNothing : Ty → Bool
  | .fixed 0 | .farray _ 0 => true
  | _ => false

/-- The canonical texts of the types, joined by commas. -/
def list (ts : List Ty) : String := ",".intercalate (canonicals ts)

end Ty

/-- The canonical signature of a function or event. -/
def signature (name : String) (inputs : List Ty) : String := name ++ "(" ++ Ty.list inputs ++ ")"

end AbiBindings.Abi
