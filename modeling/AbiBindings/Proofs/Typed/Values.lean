import AbiBindings.Proofs.Abi.Sizes
import AbiBindings.Typed.Shape

/-!
# Typed values as ABI values

A typed value is turned into an ABI value and back without loss, and it is an exact value of every
ABI type that its type stands for.

* `Shape.standsFor`, `Fields.standFor`: the ABI types of typed values.

Results:
* `Shape.hasType_toToken`, `Fields.haveTypes_toTokens`: typed values are exact values.
* `Shape.ofToken_toToken`, `Fields.ofTokens_toTokens`: typed values are got back.
* `Fields.toTokens_injective`: different typed values are different ABI values.
-/

namespace AbiBindings

open Abi (Token Ty)

/-! ## Single values -/

namespace Shape

/-- Whether the values of the type stand for values of an ABI type. -/
def standsFor : Shape → Ty → Bool
  | .bool, .bool | .address, .address | .bytes, .bytes | .text, .string => true
  | .unsigned width, .uint _ => width ≤ 256
  | .word, .uint _ | .integer, .int _ => true
  | .hash, .fixed size => size == 32
  | .list item, .array type => item.standsFor type
  | _, _ => false

/-- Whether no value is cut when it is turned into an ABI value. -/
def isKept : Shape → Bool
  | .unsigned width => width ≤ 256
  | .list item => item.isKept
  | _ => true

theorem isKept_of_standsFor {s : Shape} {type : Ty} (h : s.standsFor type = true) :
    s.isKept = true := by
  induction s generalizing type with
  | list item ih =>
    cases type <;> simp [standsFor] at h
    exact ih h
  | unsigned width => cases type <;> simp_all [standsFor, isKept]
  | _ => rfl

theorem haveTypes_replicate {items : List Token} {type : Ty}
    (h : ∀ t ∈ items, t.hasType type = true) :
    Token.haveTypes items (List.replicate items.length type) = true := by
  induction items with
  | nil => rfl
  | cons t rest ih =>
    simp only [List.length_cons, List.replicate_succ, Token.haveTypes, Bool.and_eq_true]
    exact ⟨h t List.mem_cons_self, ih fun u hu => h u (List.mem_cons_of_mem t hu)⟩

/-- A typed value is an exact value of each ABI type that its type stands for. -/
theorem hasType_toToken {s : Shape} {type : Ty} (h : s.standsFor type = true) (v : s.Value) :
    (s.toToken v).hasType type = true := by
  induction s generalizing type with
  | list item ih =>
    cases type <;> simp [standsFor] at h
    refine haveTypes_replicate fun t ht => ?_
    obtain ⟨w, -, rfl⟩ := List.mem_map.mp ht
    exact ih h w
  | hash =>
    cases type <;> simp [standsFor] at h
    simp [toToken, Token.hasType, h]
  | _ => cases type <;> simp_all [standsFor, toToken, Token.hasType]

/-- A typed value is got back from its ABI value. -/
theorem ofToken_toToken {s : Shape} (h : s.isKept = true) (v : s.Value) :
    s.ofToken (s.toToken v) = .ok v := by
  induction s with
  | unsigned width =>
    have hwidth : width ≤ 256 := by simpa [isKept] using h
    have hkept : (v.setWidth 256).setWidth width = v := by
      rw [BitVec.setWidth_setWidth_of_le _ hwidth, BitVec.setWidth_eq]
    simp [toToken, ofToken, wordOf?, hkept]
  | list item ih =>
    show (v.map item.toToken).mapM item.ofToken = .ok v
    induction v with
    | nil => rfl
    | cons w rest ihrest =>
      rw [List.map_cons, List.mapM_cons, ih h w, ihrest]
      rfl
  | _ => simp [toToken, ofToken, wordOf?]

end Shape

/-! ## Several values -/

namespace Fields

/-- Whether the values of the types stand for values of as many ABI types. -/
def standFor : Fields → List Ty → Bool
  | [], [] => true
  | s :: rest, type :: types => s.standsFor type && standFor rest types
  | _, _ => false

/-- Typed values are exact values of the ABI types that their types stand for. -/
theorem haveTypes_toTokens : ∀ {fields : Fields} {types : List Ty},
    fields.standFor types = true → ∀ v : fields.Values,
      Token.haveTypes (fields.toTokens v) types = true
  | [], types, h, v => by cases types <;> simp_all [standFor, toTokens, Token.haveTypes]
  | [s], types, h, v => by
    obtain ⟨type, rfl⟩ : ∃ type, types = [type] := by
      rcases types with _ | ⟨type, _ | _⟩ <;> simp_all [standFor]
    simp only [standFor, Bool.and_eq_true] at h
    simp [toTokens, Token.haveTypes, Shape.hasType_toToken h.1 v]
  | s :: t :: rest, types, h, (value, values) => by
    obtain ⟨type, types, rfl⟩ : ∃ type rest, types = type :: rest := by
      cases types <;> simp_all [standFor]
    rw [standFor, Bool.and_eq_true] at h
    simp only [toTokens, Token.haveTypes, Bool.and_eq_true]
    exact ⟨Shape.hasType_toToken h.1 value, haveTypes_toTokens h.2 values⟩

theorem isKept_of_standFor : ∀ {fields : Fields} {types : List Ty},
    fields.standFor types = true → fields.all Shape.isKept = true
  | [], _, _ => rfl
  | s :: rest, types, h => by
    obtain ⟨type, types, rfl⟩ : ∃ type rest, types = type :: rest := by
      cases types <;> simp_all [standFor]
    rw [standFor, Bool.and_eq_true] at h
    rw [List.all_cons, Shape.isKept_of_standsFor h.1, Bool.true_and]
    exact isKept_of_standFor h.2

@[simp] theorem length_toTokens : ∀ (fields : Fields) (v : fields.Values),
    (fields.toTokens v).length = fields.length
  | [], _ => rfl
  | [_], _ => rfl
  | s :: t :: rest, (value, values) => by simp [toTokens, length_toTokens (t :: rest) values]

theorem ofList_toTokens : ∀ {fields : Fields}, fields.all Shape.isKept = true →
    ∀ v : fields.Values, fields.ofList (fields.toTokens v) = .ok v
  | [], _, _ => rfl
  | [s], h, v => by
    have hs : s.isKept = true := by simpa using h
    exact Shape.ofToken_toToken hs v
  | s :: t :: rest, h, (value, values) => by
    rw [List.all_cons, Bool.and_eq_true] at h
    rw [toTokens, ofList, Shape.ofToken_toToken h.1, ofList_toTokens h.2]

theorem joined_eq_tuple {tokens : List Token} (h : 2 ≤ tokens.length) :
    joined tokens = .tuple tokens := by
  match tokens, h with
  | _ :: _ :: _, _ => rfl

/-- Typed values are got back from their ABI values. -/
theorem ofTokens_toTokens {fields : Fields} (h : fields.all Shape.isKept = true)
    (v : fields.Values) : fields.ofTokens (fields.toTokens v) = .ok v := by
  match fields, h, v with
  | [], _, _ => rfl
  | [s], h, v => exact ofList_toTokens h v
  | s :: t :: rest, h, v =>
    have hlen := length_toTokens (s :: t :: rest) v
    rw [ofTokens, joined_eq_tuple (by simp), ofTuple, if_pos hlen, ofList_toTokens h]

/-- Different typed values are different ABI values. -/
theorem toTokens_injective {fields : Fields} (h : fields.all Shape.isKept = true)
    {v w : fields.Values} (hvw : fields.toTokens v = fields.toTokens w) : v = w := by
  have hv := ofTokens_toTokens h v
  rw [hvw, ofTokens_toTokens h w, Except.ok.injEq] at hv
  exact hv.symm

end Fields

end AbiBindings
