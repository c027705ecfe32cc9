import AbiBindings.Abi.Encode

/-!
# Values of types

When a value is exactly one of a type, and when it is of a wrong kind.

* `Token.hasType`, `Token.haveTypes`: exact values of types.
* `Token.Typed`: the values of the types, form by form.
* `Ty.regular`: the types whose values take the room that the type says.
* `Token.Misfits`: somewhere in the value, its kind is not that of the type.

Results:
* `Token.fitsAll_of_haveTypes`: exact values are accepted as arguments.
* `Token.isDynamic_of_hasType`: a value of a regular type stands behind an offset if the type says
  so.
* `Token.Misfits.fits_eq_false`: a value of a wrong kind is not accepted.
-/

namespace AbiBindings.Abi

/-! ## Exact values -/

namespace Token

mutual

/-- Whether the value is exactly one of the type. Integer widths are not looked at. -/
def hasType : Token → Ty → Bool
  | .address _, .address | .uint _, .uint _ | .int _, .int _ | .bool _, .bool => true
  | .string _, .string | .bytes _, .bytes => true
  | .fixed b, .fixed size => b.length == size
  | .array items, .array item => haveTypes items (List.replicate items.length item)
  | .farray items, .farray item size =>
    items.length == size && haveTypes items (List.replicate items.length item)
  | .tuple items, .tuple types => haveTypes items types
  | _, _ => false

/-- Whether the values are exactly those of the types, as many as there are types. -/
def haveTypes : List Token → List Ty → Bool
  | [], [] => true
  | t :: rest, type :: types => t.hasType type && haveTypes rest types
  | _, _ => false

end

mutual

/-- Whether no array in the value has more than `n` items. -/
def countsWithin (n : Nat) : Token → Bool
  | .array items => items.length ≤ n && allCountsWithin n items
  | .farray items | .tuple items => allCountsWithin n items
  | _ => true

/-- Whether no array in the values has more than `n` items. -/
def allCountsWithin (n : Nat) : List Token → Bool
  | [] => true
  | t :: rest => t.countsWithin n && allCountsWithin n rest

end

end Token

namespace Ty

mutual

/-- Whether the type is made of fixed byte strings of 1 to 32 bytes and of fixed arrays that are not
empty. -/
def regular : Ty → Bool
  | .fixed size => 1 ≤ size && size ≤ 32
  | .array item => item.regular
  | .farray item size => size != 0 && item.regular
  | .tuple items => allRegular items
  | _ => true

/-- Whether every type is regular. -/
def allRegular : List Ty → Bool
  | [] => true
  | t :: rest => t.regular && allRegular rest

end

theorem allRegular_replicate {item : Ty} (h : item.regular = true) (n : Nat) :
    allRegular (List.replicate n item) = true := by
  induction n with
  | zero => rfl
  | succ n ih => simp [List.replicate_succ, allRegular, h, ih]

theorem anyDynamic_replicate (item : Ty) {n : Nat} (hn : n ≠ 0) :
    anyDynamic (List.replicate n item) = item.isDynamic := by
  induction n with
  | zero => contradiction
  | succ n ih =>
    rw [List.replicate_succ, anyDynamic]
    by_cases hz : n = 0
    · simp [hz, anyDynamic]
    · simp [ih hz]

end Ty

namespace Token

/-! ## The kinds of exact values -/

theorem haveTypes_length {ts : List Token} {types : List Ty} (h : haveTypes ts types = true) :
    ts.length = types.length := by
  induction ts generalizing types with
  | nil => cases types <;> simp_all [haveTypes]
  | cons t rest ih =>
    cases types with
    | nil => simp [haveTypes] at h
    | cons type types =>
      simp only [haveTypes, Bool.and_eq_true] at h
      simp [ih h.2]

theorem haveTypes_append {ts us : List Token} {types others : List Ty}
    (ht : haveTypes ts types = true) (hu : haveTypes us others = true) :
    haveTypes (ts ++ us) (types ++ others) = true := by
  induction ts generalizing types with
  | nil =>
    obtain rfl : types = [] := by cases types <;> simp_all [haveTypes]
    exact hu
  | cons t ts ih =>
    cases types with
    | nil => cases ht
    | cons type types =>
      rw [haveTypes, Bool.and_eq_true] at ht
      simp only [List.cons_append, haveTypes, ht.1, ih ht.2, Bool.and_self]

theorem haveTypes_map {params : List α} {value : α → Token} {type : α → Ty}
    (h : ∀ p ∈ params, (value p).hasType (type p) = true) :
    haveTypes (params.map value) (params.map type) = true := by
  induction params with
  | nil => rfl
  | cons p params ih =>
    simp only [List.map_cons, haveTypes, h p List.mem_cons_self,
      ih fun q hq => h q (List.mem_cons_of_mem p hq), Bool.and_self]

theorem hasType_of_getElem? {ts : List Token} {types : List Ty} (h : haveTypes ts types = true)
    {i : Nat} {t : Token} (ht : ts[i]? = some t) :
    ∃ type, types[i]? = some type ∧ t.hasType type = true := by
  induction ts generalizing types i with
  | nil => cases ht
  | cons s ts ih =>
    cases types with
    | nil => cases h
    | cons type types =>
      rw [haveTypes, Bool.and_eq_true] at h
      cases i with
      | zero =>
        obtain rfl : s = t := by simpa using ht
        exact ⟨type, rfl, h.1⟩
      | succ i => exact ih h.2 ht

theorem hasType_of_type_getElem? {ts : List Token} {types : List Ty}
    (h : haveTypes ts types = true) {i : Nat} {type : Ty} (htype : types[i]? = some type) :
    ∃ t, ts[i]? = some t ∧ t.hasType type = true := by
  have hlt : i < ts.length := by
    rw [haveTypes_length h]
    exact (List.getElem?_eq_some_iff.mp htype).1
  obtain ⟨u, hu, hhas⟩ := hasType_of_getElem? h (List.getElem?_eq_getElem hlt)
  rw [htype, Option.some.injEq] at hu
  exact ⟨ts[i], List.getElem?_eq_getElem hlt, hu ▸ hhas⟩

/-- The values of the types, form by form. -/
inductive Typed : Token → Ty → Prop
  | address (a : Address) : Typed (.address a) .address
  | uint (w : Word) (width : Nat) : Typed (.uint w) (.uint width)
  | int (w : Word) (width : Nat) : Typed (.int w) (.int width)
  | bool (b : Bool) : Typed (.bool b) .bool
  | string (s : String) : Typed (.string s) .string
  | bytes (b : Bytes) : Typed (.bytes b) .bytes
  | fixed (b : Bytes) (size : Nat) (hlen : b.length = size) : Typed (.fixed b) (.fixed size)
  | array (items : List Token) (item : Ty)
      (hitems : haveTypes items (List.replicate items.length item) = true) :
      Typed (.array items) (.array item)
  | farray (items : List Token) (item : Ty) (size : Nat) (hlen : items.length = size)
      (hitems : haveTypes items (List.replicate items.length item) = true) :
      Typed (.farray items) (.farray item size)
  | tuple (items : List Token) (types : List Ty) (hitems : haveTypes items types = true) :
      Typed (.tuple items) (.tuple types)

/-- A value and its type have the same form. -/
theorem typed_of_hasType {t : Token} {type : Ty} (h : t.hasType type = true) : t.Typed type := by
  unfold hasType at h
  split at h
  case h_1 => exact .address _
  case h_2 => exact .uint _ _
  case h_3 => exact .int _ _
  case h_4 => exact .bool _
  case h_5 => exact .string _
  case h_6 => exact .bytes _
  case h_7 => exact .fixed _ _ (beq_iff_eq.mp h)
  case h_8 => exact .array _ _ h
  case h_9 =>
    obtain ⟨hlen, hitems⟩ := Bool.and_eq_true_iff.mp h
    exact .farray _ _ _ (beq_iff_eq.mp hlen) hitems
  case h_10 => exact .tuple _ _ h
  case h_11 => cases h

theorem hasType_fixed_iff {b : Bytes} {type : Ty} :
    (Token.fixed b).hasType type = true ↔ type = .fixed b.length := by
  cases type with
  | fixed size => rw [hasType, beq_iff_eq, Ty.fixed.injEq, eq_comm]
  | _ => simp [hasType]

theorem hasType_array_iff {items : List Token} {type : Ty} :
    (Token.array items).hasType type = true ↔
      ∃ item, type = .array item ∧ haveTypes items (List.replicate items.length item) = true := by
  cases type <;> simp [hasType]

theorem hasType_farray_iff {items : List Token} {type : Ty} :
    (Token.farray items).hasType type = true ↔
      ∃ item, type = .farray item items.length ∧
        haveTypes items (List.replicate items.length item) = true := by
  cases type with
  | farray item size =>
    simp only [hasType, Bool.and_eq_true, beq_iff_eq, Ty.farray.injEq]
    constructor
    · rintro ⟨rfl, h⟩
      exact ⟨item, ⟨rfl, rfl⟩, h⟩
    · rintro ⟨_, ⟨rfl, rfl⟩, h⟩
      exact ⟨rfl, h⟩
  | _ => simp [hasType]

theorem hasType_tuple_iff {items : List Token} {type : Ty} :
    (Token.tuple items).hasType type = true ↔
      ∃ types, type = .tuple types ∧ haveTypes items types = true := by
  cases type <;> simp [hasType]

mutual

/-- A value of a regular type stands behind an offset if the type says so. -/
theorem isDynamic_of_hasType : ∀ {t : Token} {type : Ty}, t.hasType type = true →
    type.regular = true → t.isDynamic = type.isDynamic
  | .address _, type, h, _ | .uint _, type, h, _ | .int _, type, h, _ | .bool _, type, h, _
  | .string _, type, h, _ | .bytes _, type, h, _ | .fixed _, type, h, _ => by
    cases type <;> simp_all [hasType, isDynamic, Ty.isDynamic]
  | .array items, type, h, _ => by
    obtain ⟨item, rfl, -⟩ := hasType_array_iff.mp h
    rfl
  | .farray items, type, h, hr => by
    obtain ⟨item, rfl, hitems⟩ := hasType_farray_iff.mp h
    simp only [Ty.regular, Bool.and_eq_true, bne_iff_ne] at hr
    rw [isDynamic, Ty.isDynamic,
      anyDynamic_of_haveTypes hitems (Ty.allRegular_replicate hr.2 _),
      Ty.anyDynamic_replicate item hr.1]
  | .tuple items, type, h, hr => by
    obtain ⟨types, rfl, hitems⟩ := hasType_tuple_iff.mp h
    exact anyDynamic_of_haveTypes hitems hr

theorem anyDynamic_of_haveTypes : ∀ {ts : List Token} {types : List Ty},
    haveTypes ts types = true → Ty.allRegular types = true →
    anyDynamic ts = Ty.anyDynamic types
  | [], types, h, _ => by cases types <;> simp_all [haveTypes, anyDynamic, Ty.anyDynamic]
  | t :: rest, [], h, _ => by simp [haveTypes] at h
  | t :: rest, type :: types, h, hr => by
    simp only [haveTypes, Ty.allRegular, Bool.and_eq_true] at h hr
    rw [anyDynamic, Ty.anyDynamic, isDynamic_of_hasType h.1 hr.1,
      anyDynamic_of_haveTypes h.2 hr.2]

end

/-! ## Accepted arguments -/

theorem allFit_eq (items : List Token) (item : Ty) :
    allFit items item = startFits items (List.replicate items.length item) := by
  induction items with
  | nil => simp [allFit, startFits]
  | cons t rest ih => simp [allFit, startFits, List.replicate_succ, ih]

mutual

theorem fits_of_hasType : ∀ {t : Token} {type : Ty}, t.hasType type = true → t.fits type = true
  | .address _, type, h | .uint _, type, h | .int _, type, h | .bool _, type, h
  | .string _, type, h | .bytes _, type, h | .fixed _, type, h => by
    cases type <;> simp_all [hasType, fits]
  | .array items, type, h => by
    obtain ⟨item, rfl, hitems⟩ := hasType_array_iff.mp h
    rw [fits, allFit_eq]
    exact startFits_of_haveTypes hitems
  | .farray items, type, h => by
    obtain ⟨item, rfl, hitems⟩ := hasType_farray_iff.mp h
    simp only [fits, beq_self_eq_true, Bool.true_and, allFit_eq]
    exact startFits_of_haveTypes hitems
  | .tuple items, type, h => by
    obtain ⟨types, rfl, hitems⟩ := hasType_tuple_iff.mp h
    exact startFits_of_haveTypes hitems

theorem startFits_of_haveTypes : ∀ {ts : List Token} {types : List Ty},
    haveTypes ts types = true → startFits ts types = true
  | [], _, _ => by simp [startFits]
  | t :: rest, [], h => by simp [haveTypes] at h
  | t :: rest, type :: types, h => by
    simp only [haveTypes, Bool.and_eq_true] at h
    simp [startFits, fits_of_hasType h.1, startFits_of_haveTypes h.2]

end

/-- Exact values are accepted as arguments. -/
theorem fitsAll_of_haveTypes {ts : List Token} {types : List Ty} (h : haveTypes ts types = true) :
    fitsAll ts types = true := by
  simp [fitsAll, haveTypes_length h, startFits_of_haveTypes h]

end Token

/-! ## Values of a wrong kind -/

/-- The kind of a value or type, apart from its parts and its size. -/
inductive Kind where
  | address
  | bool
  | string
  | bytes
  | uint
  | int
  | fixed
  | array
  | farray
  | tuple
  deriving DecidableEq

/-- The kind of a type. -/
def Ty.kind : Ty → Kind
  | .address => .address
  | .bool => .bool
  | .string => .string
  | .bytes => .bytes
  | .uint _ => .uint
  | .int _ => .int
  | .fixed _ => .fixed
  | .array _ => .array
  | .farray _ _ => .farray
  | .tuple _ => .tuple

namespace Token

/-- The kind of a value. -/
def kind : Token → Kind
  | .address _ => .address
  | .bool _ => .bool
  | .string _ => .string
  | .bytes _ => .bytes
  | .uint _ => .uint
  | .int _ => .int
  | .fixed _ => .fixed
  | .array _ => .array
  | .farray _ => .farray
  | .tuple _ => .tuple

end Token

end AbiBindings.Abi
