import AbiBindings.Outline.Basic
import AbiBindings.Proofs.Abi.TypeText
import Mathlib.Data.List.Forall2

/-!
# Types of parameters

A parameter names its type by a text. The text is read as an ABI type, and it is written into
signatures as it stands, with tuples spelled out. Both agree where the text is in canonical
spelling.

* `Param.ty?`: the ABI type that a parameter names.
* `Param.Spelled`: the parameters whose types are made of given words, dimensions and tuples.

Results:
* `Param.canonical_of_spelled`: a type in canonical spelling is written into signatures as its ABI
  type is.
* `signature_eq_iff`: with the words `uint` and `int` allowed, signatures agree exactly where
  neither of them occurs.
-/

namespace AbiBindings.Outline

open Abi (Ty)

/-! ## The types that parameters name -/

mutual

/-- The ABI type that a parameter names, if its text and its components can be read. -/
def Param.ty? : Param → Option Ty
  | ⟨_, type, components?, _⟩ =>
    match componentTypes? components? with
    | none => none
    | some types => (Ty.ofText? type).bind (Abi.fillTuple? types)

/-- The types of components, if there are any. -/
def componentTypes? : Option (List Param) → Option (Option (List Ty))
  | none => some none
  | some params => (types? params).map some

/-- The types of parameters. -/
def types? : List Param → Option (List Ty)
  | [] => some []
  | p :: rest =>
    match p.ty? with
    | none => none
    | some t => (types? rest).map (t :: ·)

end

/-- Whether the types are those that the parameters name. -/
def Named (params : List Param) (types : List Ty) : Prop :=
  List.Forall₂ (fun p t => p.ty? = some t) params types

theorem types?_eq_some {params : List Param} {types : List Ty} :
    types? params = some types ↔ Named params types := by
  induction params generalizing types with
  | nil =>
    rw [types?, Named, List.forall₂_nil_left_iff, Option.some.injEq, eq_comm]
  | cons p rest ih =>
    rw [types?, Named, List.forall₂_cons_left_iff]
    cases hp : p.ty? with
    | none => simp
    | some t =>
      simp only [Option.map_eq_some_iff, ih, Named, Option.some.injEq]
      constructor
      · rintro ⟨more, hmore, rfl⟩
        exact ⟨t, more, rfl, hmore, rfl⟩
      · rintro ⟨_, more, rfl, hmore, rfl⟩
        exact ⟨more, hmore, rfl⟩

/-! ## Spelling -/

/-- The parameters whose types are made of words, dimensions and tuples. -/
inductive Param.Spelled (Words : String → Ty → Prop) : Param → Prop
  | word {name word : String} {t : Ty} {ds : List (Option Nat)} {components? : Option (List Param)}
      {indexed : Bool} (hword : Words word t) (hsizes : ∀ d ∈ ds, ∀ n ∈ d, n < UInt64.size) :
      Spelled Words ⟨name, word ++ String.ofList (Abi.dimensions ds), components?, indexed⟩
  | tuple {name : String} {ds : List (Option Nat)} {components : List Param} {indexed : Bool}
      (hsizes : ∀ d ∈ ds, ∀ n ∈ d, n < UInt64.size)
      (hcomponents : ∀ p ∈ components, Spelled Words p) :
      Spelled Words
        ⟨name, "tuple" ++ String.ofList (Abi.dimensions ds), some components, indexed⟩

/-- A word is spelled by itself. -/
theorem Param.spelled_word {Words : String → Ty → Prop} {name word : String} {t : Ty}
    {indexed : Bool} (hword : Words word t) :
    Param.Spelled Words ⟨name, word, none, indexed⟩ := by
  have htype : word ++ String.ofList (Abi.dimensions []) = word := String.append_empty
  rw [← htype]
  exact .word hword (by simp)

theorem Param.spelled_uint256 (name : String) (indexed : Bool) :
    Param.Spelled Ty.Keyword ⟨name, "uint256", none, indexed⟩ := by
  have htype : "uint" ++ toString 256 = "uint256" := by decide
  rw [← htype]
  exact spelled_word (.uint (by decide))

theorem Param.spelled_address (name : String) (indexed : Bool) :
    Param.Spelled Ty.Keyword ⟨name, "address", none, indexed⟩ :=
  spelled_word .address

section

variable {name word : String} {t t' : Ty} {ds : List (Option Nat)} {indexed : Bool}

theorem ty?_word {components? : Option (List Param)} (hword : Ty.Elementary word t)
    (hsizes : ∀ d ∈ ds, ∀ n ∈ d, n < UInt64.size)
    (h : Param.ty? ⟨name, word ++ String.ofList (Abi.dimensions ds), components?, indexed⟩ =
      some t') : t' = t.withDimensions ds := by
  rw [Param.ty?] at h
  split at h
  · cases h
  · rw [hword.ofText? hsizes, Option.bind_some, Abi.fillTuple?_withDimensions, hword.whole] at h
    exact (Option.some.inj h).symm

theorem ty?_tuple {components : List Param} (hsizes : ∀ d ∈ ds, ∀ n ∈ d, n < UInt64.size)
    (h : Param.ty? ⟨name, "tuple" ++ String.ofList (Abi.dimensions ds), some components, indexed⟩ =
      some t') : ∃ types, Named components types ∧ t' = (Ty.tuple types).withDimensions ds := by
  rw [Param.ty?, componentTypes?] at h
  cases htypes : types? components with
  | none => simp [htypes] at h
  | some types =>
    rw [htypes] at h
    refine ⟨types, types?_eq_some.mp htypes, ?_⟩
    simp only [Option.map_some, Abi.Ty.ofText?_tuple hsizes, Option.bind_some,
      Abi.fillTuple?_withDimensions, Abi.fillTuple?, List.nil_append, Option.some.injEq] at h
    exact h.symm

theorem afterStart?_append (start cs : List Char) :
    Text.afterStart? start (start ++ cs) = some cs := by
  induction start with
  | nil => rfl
  | cons c start ih => rw [List.cons_append, Text.afterStart?, if_pos rfl, ih]

theorem canonical_word {components? : Option (List Param)} (hword : Ty.Elementary word t) :
    Param.canonical ⟨name, word ++ String.ofList (Abi.dimensions ds), components?, indexed⟩ =
      word ++ String.ofList (Abi.dimensions ds) := by
  rw [Param.canonical]
  cases components? with
  | none => rfl
  | some components =>
    obtain ⟨c, cs, hcs, hc⟩ := hword.first
    have hnone : Text.afterStart? tupleWord
        (word ++ String.ofList (Abi.dimensions ds)).toList = none := by
      rw [String.toList_append, hcs, List.cons_append, tupleWord, Text.afterStart?,
        if_neg (Ne.symm hc)]
    rw [canonicalWith, hnone]

theorem canonical_tuple {components : List Param} :
    Param.canonical
        ⟨name, "tuple" ++ String.ofList (Abi.dimensions ds), some components, indexed⟩ =
      "(" ++ ",".intercalate (canonicals components) ++ ")" ++
        String.ofList (Abi.dimensions ds) := by
  have hsome : Text.afterStart? tupleWord
      ("tuple" ++ String.ofList (Abi.dimensions ds)).toList = some (Abi.dimensions ds) := by
    have htext : ("tuple" ++ String.ofList (Abi.dimensions ds)).toList =
        tupleWord ++ Abi.dimensions ds := by
      rw [String.toList_append, String.toList_ofList, String.toList_ofList]
      rfl
    rw [htext, afterStart?_append]
  rw [Param.canonical, canonicalWith, hsome]

end

/-! ## Canonical spelling -/

theorem canonicals_of_named {params : List Param} {types : List Ty} (h : Named params types)
    (hsame : ∀ p ∈ params, ∀ t, p.ty? = some t → p.canonical = t.canonical) :
    canonicals params = Ty.canonicals types := by
  induction h with
  | nil => rfl
  | @cons p t rest types hp _ ih =>
    have hfirst := hsame p List.mem_cons_self t hp
    have hrest := ih fun q hq => hsame q (List.mem_cons_of_mem p hq)
    rw [canonicals, Ty.canonicals, hfirst, hrest]

/-- A type in canonical spelling is written into signatures as its ABI type is. -/
theorem Param.canonical_of_spelled {p : Param} {t : Ty} (hp : p.Spelled Ty.Keyword)
    (ht : p.ty? = some t) : p.canonical = t.canonical := by
  induction hp generalizing t with
  | word hword hsizes =>
    rw [ty?_word hword.elementary hsizes ht, canonical_word hword.elementary,
      Ty.canonical_withDimensions, hword.canonical]
  | tuple hsizes hcomponents ih =>
    obtain ⟨types, htypes, rfl⟩ := ty?_tuple hsizes ht
    rw [canonical_tuple, canonicals_of_named htypes fun p hp t => ih p hp,
      Ty.canonical_withDimensions]
    rfl

/-- Inputs in canonical spelling make the same signature as their ABI types. -/
theorem signature_of_spelled {inputs : List Param} {types : List Ty} (name : String)
    (h : Named inputs types) (hspelled : ∀ p ∈ inputs, p.Spelled Ty.Keyword) :
    signature name inputs = Abi.signature name types := by
  have hsame := canonicals_of_named h fun p hp t => Param.canonical_of_spelled (hspelled p hp)
  rw [signature, hsame, Abi.signature, Ty.list]

/-! ## Words of another spelling -/

/-- The words that are read as elementary types: those in canonical spelling, `uint` and `int`. -/
def Readable (word : String) (t : Ty) : Prop := Ty.Keyword word t ∨ Ty.Alias word t

theorem Readable.elementary {word : String} {t : Ty} (h : Readable word t) :
    Ty.Elementary word t :=
  h.elim (·.elementary) (·.elementary)

theorem length_intercalate_le {xs ys : List String}
    (h : List.Forall₂ (fun x y => x.length ≤ y.length) xs ys) :
    (",".intercalate xs).length ≤ (",".intercalate ys).length ∧
      ((",".intercalate xs).length = (",".intercalate ys).length →
        List.Forall₂ (fun x y => x.length = y.length) xs ys) := by
  induction h with
  | nil => exact ⟨Nat.le_refl _, fun _ => .nil⟩
  | @cons x y xs ys hxy hrest ih =>
    obtain ⟨hle, heq⟩ := ih
    cases hrest with
    | nil =>
      rw [String.intercalate_singleton, String.intercalate_singleton]
      exact ⟨hxy, fun hsame => .cons hsame .nil⟩
    | @cons x' y' xs ys =>
      simp only [String.intercalate_cons_cons, String.length_append] at hle heq ⊢
      refine ⟨by omega, fun hsame => ?_⟩
      have hfirst : x.length = y.length := by omega
      exact .cons hfirst (heq (by omega))

/-- Whether a type is written into signatures no longer than its ABI type, and shorter unless it is
in canonical spelling. -/
def Param.Shortens (p : Param) (t : Ty) : Prop :=
  p.canonical.length ≤ t.canonical.length ∧
    (p.canonical.length = t.canonical.length → p.Spelled Ty.Keyword)

theorem length_of_named {params : List Param} {types : List Ty} (h : Named params types)
    (hshort : ∀ p ∈ params, ∀ t, p.ty? = some t → p.Shortens t) :
    (",".intercalate (canonicals params)).length ≤ (",".intercalate (Ty.canonicals types)).length ∧
      ((",".intercalate (canonicals params)).length =
        (",".intercalate (Ty.canonicals types)).length → ∀ p ∈ params, p.Spelled Ty.Keyword) := by
  have hlists : List.Forall₂ (fun x y => x.length ≤ y.length) (canonicals params)
        (Ty.canonicals types) ∧
      (List.Forall₂ (fun x y => x.length = y.length) (canonicals params) (Ty.canonicals types) →
        ∀ p ∈ params, p.Spelled Ty.Keyword) := by
    induction h with
    | nil => exact ⟨.nil, fun _ p hp => nomatch hp⟩
    | @cons p t rest types hp _ ih =>
      obtain ⟨hle, heq⟩ := hshort p List.mem_cons_self t hp
      obtain ⟨hrestle, hresteq⟩ := ih fun q hq => hshort q (List.mem_cons_of_mem p hq)
      rw [canonicals, Ty.canonicals]
      refine ⟨.cons hle hrestle, fun hsame q hq => ?_⟩
      obtain ⟨hfirst, hsame⟩ := List.forall₂_cons.mp hsame
      rcases List.mem_cons.mp hq with rfl | hq
      · exact heq hfirst
      · exact hresteq hsame q hq
  obtain ⟨hle, heq⟩ := length_intercalate_le hlists.1
  exact ⟨hle, fun hsame => hlists.2 (heq hsame)⟩

/-- Where aliases are allowed, a type is no longer than its ABI type, and shorter if it contains
one. -/
theorem Param.shortens {p : Param} {t : Ty} (hp : p.Spelled Readable) (ht : p.ty? = some t) :
    p.Shortens t := by
  induction hp generalizing t with
  | word hword hsizes =>
    rw [Shortens, ty?_word hword.elementary hsizes ht, canonical_word hword.elementary,
      Ty.canonical_withDimensions, String.length_append, String.length_append]
    rcases hword with hword | hword
    · rw [hword.canonical]
      exact ⟨Nat.le_refl _, fun _ => .word hword hsizes⟩
    · have hshorter : ∀ {word t}, Ty.Alias word t → word.length < t.canonical.length := by
        intro word t halias
        cases halias <;> decide
      have hlt := hshorter hword
      exact ⟨by omega, fun heq => by omega⟩
  | tuple hsizes hcomponents ih =>
    obtain ⟨types, htypes, rfl⟩ := ty?_tuple hsizes ht
    obtain ⟨hle, heq⟩ := length_of_named htypes fun p hp t => ih p hp
    have hcanonical : (Ty.tuple types).canonical =
        "(" ++ ",".intercalate (Ty.canonicals types) ++ ")" := rfl
    rw [Shortens, canonical_tuple, Ty.canonical_withDimensions, hcanonical]
    simp only [String.length_append]
    exact ⟨by omega, fun hsame => .tuple hsizes (heq (by omega))⟩

/-- With the words `uint` and `int` allowed, inputs make the same signature as their ABI types
exactly where neither of them occurs. -/
theorem signature_eq_iff {inputs : List Param} {types : List Ty} (name : String)
    (h : Named inputs types) (hspelled : ∀ p ∈ inputs, p.Spelled Readable) :
    signature name inputs = Abi.signature name types ↔ ∀ p ∈ inputs, p.Spelled Ty.Keyword := by
  constructor
  · intro hsame
    have hlength := congrArg String.length hsame
    simp only [signature, Abi.signature, Ty.list, String.length_append] at hlength
    exact (length_of_named h fun p hp t => Param.shortens (hspelled p hp)).2 (by omega)
  · exact signature_of_spelled name h

end AbiBindings.Outline
