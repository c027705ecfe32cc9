import AbiBindings.Abi.Document
import AbiBindings.Proofs.Json.Numbers
import Mathlib.Data.List.Forall2

/-!
# Documents that describe the same interface

What a reader of ABI documents looks at is the texts, the truth values, the items and the values of
keys that are there once. A document that tells the same as another one describes the same
interface.

* `Retells`: a relation between documents under which the second tells what the first one tells.
* `entries?`: the entries of a document in order.

Results:
* `Retells.entries`: a document that is retold has the same entries.
* `entries?_normal`: the value of a document has the entries of the document.
* `entries?_mapNumbers`: the numbers of a document count for nothing.
-/

namespace AbiBindings.Abi

/-- The entries that a document describes. -/
def entries? : Json → Option (List Entry)
  | .array items => items.mapM Entry.ofJson?
  | _ => none

theorem Interface.ofJson?_eq (j : Json) :
    Interface.ofJson? j = (entries? j).map Interface.ofEntries := by
  cases j <;> rfl

/-- Whether the values of every key that one object has at most once are told by another object. -/
def Retold (R : Json → Json → Prop) (members others : List (String × Json)) : Prop :=
  ∀ key, (valuesOf key members).length ≤ 1 →
    List.Forall₂ R (valuesOf key members) (valuesOf key others)

/-- A relation under which the second document tells a reader what the first one tells. -/
structure Retells (R : Json → Json → Prop) : Prop where
  text : ∀ {x y s}, R x y → x.text? = some s → y.text? = some s
  bool : ∀ {x y b}, R x y → x.bool? = some b → y.bool? = some b
  flag : ∀ {x y}, R x y → flag? x = some () → flag? y = some ()
  items : ∀ {xs y}, R (.array xs) y → ∃ ys, y = .array ys ∧ List.Forall₂ R xs ys
  members : ∀ {ms y}, R (.object ms) y → ∃ ns, y = .object ns ∧ Retold R ms ns

section Retold

variable {R : Json → Json → Prop} {key : String} {members others : List (String × Json)}
  {x y : Json}

theorem Retold.field? (h : Retold R members others) (hx : field? key members = some x) :
    ∃ y, Abi.field? key others = some y ∧ R x y := by
  have hvalues : valuesOf key members = [x] := by
    unfold Abi.field? at hx
    split at hx
    · cases hx
      assumption
    · cases hx
  have hsame := h key (by rw [hvalues]; rfl)
  rw [hvalues] at hsame
  obtain ⟨y, ys, hxy, hnone, hothers⟩ := List.forall₂_cons_left_iff.mp hsame
  obtain rfl := List.forall₂_nil_left_iff.mp hnone
  exact ⟨y, by rw [Abi.field?, hothers], hxy⟩

theorem Retold.optionalField?_none (h : Retold R members others)
    (hx : optionalField? key members = some none) : optionalField? key others = some none := by
  have hvalues : valuesOf key members = [] := by
    unfold optionalField? at hx
    split at hx
    · assumption
    · cases hx
    · cases hx
  have hsame := h key (by rw [hvalues]; simp)
  rw [hvalues] at hsame
  rw [optionalField?, List.forall₂_nil_left_iff.mp hsame]

theorem Retold.optionalField?_some (h : Retold R members others)
    (hx : optionalField? key members = some (some x)) :
    ∃ y, optionalField? key others = some (some y) ∧ R x y := by
  have hfield : Abi.field? key members = some x := by
    unfold optionalField? at hx
    unfold Abi.field?
    split at hx
    · cases hx
    · cases hx
      simp_all
    · cases hx
  obtain ⟨y, hy, hxy⟩ := h.field? hfield
  refine ⟨y, ?_, hxy⟩
  unfold Abi.field? at hy
  unfold optionalField?
  split at hy
  · cases hy
    simp_all
  · cases hy

theorem Retold.optionalField? {x? : Option Json} (h : Retold R members others)
    (hx : Abi.optionalField? key members = some x?) :
    ∃ y?, Abi.optionalField? key others = some y? ∧ Option.Rel R x? y? := by
  cases x? with
  | none => exact ⟨none, h.optionalField?_none hx, .none⟩
  | some x =>
    obtain ⟨y, hy, hxy⟩ := h.optionalField?_some hx
    exact ⟨some y, hy, .some hxy⟩

/-- What is read from the value of a key is read from its value in the other object. -/
theorem Retold.field?_bind {f g : Json → Option α} {a : α} (h : Retold R members others)
    (hfg : ∀ x y, R x y → f x = some a → g y = some a)
    (ha : (Abi.field? key members).bind f = some a) :
    (Abi.field? key others).bind g = some a := by
  obtain ⟨x, hx, ha⟩ := Option.bind_eq_some_iff.mp ha
  obtain ⟨y, hy, hxy⟩ := h.field? hx
  exact Option.bind_eq_some_iff.mpr ⟨y, hy, hfg x y hxy ha⟩

theorem Retold.optionalField?_bind {f g : Option Json → Option α} {a : α}
    (h : Retold R members others)
    (hfg : ∀ x? y?, Option.Rel R x? y? → f x? = some a → g y? = some a)
    (ha : (Abi.optionalField? key members).bind f = some a) :
    (Abi.optionalField? key others).bind g = some a := by
  obtain ⟨x?, hx, ha⟩ := Option.bind_eq_some_iff.mp ha
  obtain ⟨y?, hy, hxy⟩ := h.optionalField? hx
  exact Option.bind_eq_some_iff.mpr ⟨y?, hy, hfg x? y? hxy ha⟩

theorem mem_of_field? (h : field? key members = some x) : (key, x) ∈ members := by
  have hx : x ∈ valuesOf key members := by
    unfold field? at h
    split at h
    · cases h
      simp_all
    · cases h
  obtain ⟨m, hm, rfl⟩ := List.mem_map.mp hx
  obtain ⟨hmem, hkey⟩ := List.mem_filter.mp hm
  obtain rfl : m.1 = key := by simpa using hkey
  exact hmem

theorem mem_of_optionalField? (h : optionalField? key members = some (some x)) :
    (key, x) ∈ members := by
  apply mem_of_field?
  unfold optionalField? at h
  unfold field?
  split at h <;> simp_all

theorem nodes_pos (j : Json) : 0 < nodes j := by
  cases j <;> simp [nodes]

theorem nodesOfMembers_pos (members : List (String × Json)) : 0 < nodesOfMembers members := by
  induction members with
  | nil => rw [nodesOfMembers]; omega
  | cons m rest ih => rw [nodesOfMembers]; omega

theorem nodes_lt_of_mem (h : (key, x) ∈ members) : nodes x < nodesOfMembers members := by
  induction members with
  | nil => cases h
  | cons m rest ih =>
    have hpos := nodesOfMembers_pos rest
    rw [nodesOfMembers]
    rcases List.mem_cons.mp h with rfl | h
    · show nodes x < nodes x + nodesOfMembers rest
      omega
    · have hrest := ih h
      omega

end Retold

/-! ## Reading parameters -/

section Reading

variable {fuel : Nat} {members : List (String × Json)} {key : String}

theorem textOrMissing?_eq_some : textOrMissing? key members = some () ↔
    optionalField? key members = some none ∨
      ∃ s, optionalField? key members = some (some (.text s)) := by
  unfold textOrMissing?
  cases hfield : optionalField? key members with
  | none => simp
  | some value? =>
    cases value? with
    | none => simp
    | some value => cases value <;> simp [Json.text?]

/-- What a type takes: a text, and components if there are any. -/
theorem typeOf?_eq_some {t : Ty} : typeOf? (fuel + 1) members = some t ↔
    ∃ text, field? "type" members = some text ∧
      ((optionalField? "components" members = some none ∧ typeWith? text none = some t) ∨
        ∃ items types, optionalField? "components" members = some (some (.array items)) ∧
          componentTypes? fuel items = some types ∧ typeWith? text (some types) = some t) := by
  rw [typeOf?]
  cases htext : field? "type" members with
  | none => simp
  | some text =>
    cases hcomponents : optionalField? "components" members with
    | none => simp
    | some value? =>
      cases value? with
      | none => simp
      | some value => cases value <;> simp [items?, Option.bind_eq_some_iff]

theorem componentTypes?_cons {item : Json} {rest : List Json} {ts : List Ty} :
    componentTypes? (fuel + 1) (item :: rest) = some ts ↔
      ∃ ms t more, item = .object ms ∧ textOrMissing? "name" ms = some () ∧
        textOrMissing? "internalType" ms = some () ∧ typeOf? fuel ms = some t ∧
        componentTypes? fuel rest = some more ∧ ts = t :: more := by
  rw [componentTypes?]
  cases item <;> simp [members?, Option.bind_eq_some_iff, eq_comm (a := ts)]
  grind

theorem text?_eq_some {x : Json} {s : String} : x.text? = some s ↔ x = .text s := by
  cases x <;> simp [Json.text?]

theorem bool?_eq_some {x : Json} {b : Bool} : x.bool? = some b ↔ x = .bool b := by
  cases x <;> simp [Json.bool?]

theorem Param.ofJson?_eq_some {x : Json} {p : Param} : Param.ofJson? x = some p ↔
    ∃ ms, x = .object ms ∧ field? "name" ms = some (.text p.name) ∧
      textOrMissing? "internalType" ms = some () ∧ typeOf? (2 * nodes x) ms = some p.type := by
  obtain ⟨name, type⟩ := p
  cases x with
  | object ms =>
    simp only [Param.ofJson?, members?, Option.bind_eq_bind, Option.bind_some,
      Option.bind_eq_some_iff, text?_eq_some, Option.some.injEq, Param.mk.injEq, Json.object.injEq,
      exists_eq_left']
    constructor
    · rintro ⟨_, hn, n, rfl, _, hinternal, t, ht, rfl, rfl⟩
      exact ⟨hn, hinternal, ht⟩
    · rintro ⟨hn, hinternal, ht⟩
      exact ⟨_, hn, name, rfl, (), hinternal, type, ht, rfl, rfl⟩
  | _ => simp [Param.ofJson?, members?]

/-- An argument without a mark is not indexed. -/
theorem EventParam.ofJson?_eq_some {x : Json} {p : EventParam} : EventParam.ofJson? x = some p ↔
    ∃ ms, x = .object ms ∧ field? "name" ms = some (.text p.name) ∧
      typeOf? (2 * nodes x) ms = some p.type ∧
      (optionalField? "indexed" ms = some none ∧ p.indexed = false ∨
        optionalField? "indexed" ms = some (some (.bool p.indexed))) := by
  obtain ⟨name, type, indexed⟩ := p
  cases x with
  | object ms =>
    cases hindexed : optionalField? "indexed" ms with
    | none =>
      simp [EventParam.ofJson?, members?, hindexed]
    | some value? =>
      cases value? with
      | none =>
        simp [EventParam.ofJson?, members?, Option.bind_eq_some_iff, text?_eq_some, hindexed]
      | some value =>
        simp only [EventParam.ofJson?, members?, Option.bind_eq_bind, Option.bind_some, hindexed,
          Option.bind_eq_some_iff, text?_eq_some, bool?_eq_some, Option.some.injEq,
          EventParam.mk.injEq, Json.object.injEq, exists_eq_left', reduceCtorEq, false_and,
          false_or]
        constructor
        · rintro ⟨_, hn, n, rfl, t, ht, b, rfl, rfl, rfl, rfl⟩
          exact ⟨hn, ht, rfl⟩
        · rintro ⟨hn, ht, rfl⟩
          exact ⟨_, hn, name, rfl, type, ht, indexed, rfl, rfl, rfl, rfl⟩
  | _ => simp [EventParam.ofJson?, members?]

/-- A function without a mutability is nonpayable. -/
theorem function?_eq_some {name inputs outputs : Json} {constant mutability : Option Json}
    {e : Entry} : function? name inputs outputs constant mutability = some e ↔
      ∃ n is os m, name? name = some n ∧ params? inputs = some is ∧ params? outputs = some os ∧
        (∀ x ∈ constant, flag? x = some ()) ∧
        mutability.elim (some .nonpayable) Mutability.ofJson? = some m ∧
        e = .function ⟨n, is, os, m⟩ := by
  unfold function?
  simp only [Option.bind_eq_bind, Option.bind_eq_some_iff]
  cases constant <;> cases mutability <;>
    simp [Option.bind_eq_some_iff, Unique.exists_iff, eq_comm (a := e)]

end Reading

/-! ## Retold documents -/

theorem mapM_eq_some_of_forall₂ {R : Json → Json → Prop} {f : Json → Option α}
    (hf : ∀ x y a, R x y → f x = some a → f y = some a) {xs ys : List Json} {as : List α}
    (h : List.Forall₂ R xs ys) (hxs : xs.mapM f = some as) : ys.mapM f = some as := by
  induction h generalizing as with
  | nil => exact hxs
  | cons hxy _ ih =>
    rw [List.mapM_cons] at hxs ⊢
    obtain ⟨a, ha, hxs⟩ := Option.bind_eq_some_iff.mp hxs
    obtain ⟨more, hmore, hxs⟩ := Option.bind_eq_some_iff.mp hxs
    rw [hf _ _ _ hxy ha, ih hmore]
    exact hxs

namespace Retells

variable {R : Json → Json → Prop} {members others : List (String × Json)} {x y : Json}
  {key : String}

section

variable (hR : Retells R)
include hR

theorem items? {xs : List Json} (hxy : R x y) (hx : Abi.items? x = some xs) :
    ∃ ys, Abi.items? y = some ys ∧ List.Forall₂ R xs ys := by
  cases x with
  | array items =>
    obtain rfl := Option.some.inj hx
    obtain ⟨ys, rfl, hsame⟩ := hR.items hxy
    exact ⟨ys, rfl, hsame⟩
  | _ => cases hx

theorem members? (hxy : R x y) (hx : Abi.members? x = some members) :
    ∃ others, Abi.members? y = some others ∧ Retold R members others := by
  cases x with
  | object ms =>
    obtain rfl := Option.some.inj hx
    obtain ⟨ns, rfl, hsame⟩ := hR.members hxy
    exact ⟨ns, rfl, hsame⟩
  | _ => cases hx

theorem textOrMissing? (h : Retold R members others)
    (hkey : Abi.textOrMissing? key members = some ()) :
    Abi.textOrMissing? key others = some () := by
  rcases textOrMissing?_eq_some.mp hkey with hnone | ⟨s, hsome⟩
  · exact textOrMissing?_eq_some.mpr (.inl (h.optionalField?_none hnone))
  · obtain ⟨y, hy, hxy⟩ := h.optionalField?_some hsome
    have htext : y.text? = some s := hR.text hxy rfl
    cases y with
    | text s' => exact textOrMissing?_eq_some.mpr (.inr ⟨s', hy⟩)
    | _ => cases htext

theorem typeWith? {types : Option (List Ty)} {t : Ty} (hxy : R x y)
    (hx : Abi.typeWith? x types = some t) : Abi.typeWith? y types = some t := by
  obtain ⟨s, hs, hx⟩ := Option.bind_eq_some_iff.mp hx
  exact Option.bind_eq_some_iff.mpr ⟨s, hR.text hxy hs, hx⟩

/-- The type of a parameter is the same in both documents, and so are the types of components, if
there is fuel for the nodes of the second document. -/
theorem types (fuel : Nat) :
    (∀ {members others t fuel'}, Abi.typeOf? fuel members = some t → Retold R members others →
      2 * nodesOfMembers others ≤ fuel' → Abi.typeOf? fuel' others = some t) ∧
    ∀ {xs ys ts fuel'}, Abi.componentTypes? fuel xs = some ts → List.Forall₂ R xs ys →
      2 * nodesOfItems ys ≤ fuel' → Abi.componentTypes? fuel' ys = some ts := by
  induction fuel with
  | zero =>
    constructor
    · intro members others t fuel' ht
      cases ht
    · intro xs ys ts fuel' hts
      cases hts
  | succ fuel ih =>
    constructor
    · intro members others t fuel' ht hsame hfuel
      have hpos := nodesOfMembers_pos others
      obtain ⟨fuel', rfl⟩ : ∃ n, fuel' = n + 1 := ⟨fuel' - 1, by omega⟩
      obtain ⟨text, htext, ht⟩ := typeOf?_eq_some.mp ht
      obtain ⟨text', htext', htexts⟩ := hsame.field? htext
      refine typeOf?_eq_some.mpr ⟨text', htext', ?_⟩
      rcases ht with ⟨hnone, ht⟩ | ⟨items, types, hsome, htypes, ht⟩
      · exact .inl ⟨hsame.optionalField?_none hnone, hR.typeWith? htexts ht⟩
      · obtain ⟨y, hy, hxy⟩ := hsame.optionalField?_some hsome
        obtain ⟨ys, rfl, hitems⟩ := hR.items hxy
        have hnodes : nodes (.array ys) < nodesOfMembers others :=
          nodes_lt_of_mem (mem_of_optionalField? hy)
        rw [nodes] at hnodes
        exact .inr ⟨ys, types, hy, ih.2 htypes hitems (by omega), hR.typeWith? htexts ht⟩
    · intro xs ys ts fuel' hts hsame hfuel
      cases hsame with
      | nil =>
        rw [nodesOfItems] at hfuel
        obtain ⟨fuel', rfl⟩ : ∃ n, fuel' = n + 1 := ⟨fuel' - 1, by omega⟩
        rw [Abi.componentTypes?] at hts ⊢
        exact hts
      | @cons x y xs ys hxy hsame =>
        rw [nodesOfItems] at hfuel
        obtain ⟨ms, t, more, rfl, hname, hinternal, ht, hmore, rfl⟩ := componentTypes?_cons.mp hts
        obtain ⟨ns, rfl, hmembers⟩ := hR.members hxy
        rw [nodes] at hfuel
        obtain ⟨fuel', rfl⟩ : ∃ n, fuel' = n + 1 := ⟨fuel' - 1, by omega⟩
        refine componentTypes?_cons.mpr ⟨ns, t, more, rfl, hR.textOrMissing? hmembers hname,
          hR.textOrMissing? hmembers hinternal, ih.1 ht hmembers (by omega),
          ih.2 hmore hsame (by omega), rfl⟩

theorem typeOf? {t : Ty} (hxy : R x y) (hx : Abi.members? x = some members)
    (ht : Abi.typeOf? (2 * nodes x) members = some t) :
    ∃ others, Abi.members? y = some others ∧ Retold R members others ∧
      Abi.typeOf? (2 * nodes y) others = some t := by
  obtain ⟨others, hothers, hsame⟩ := hR.members? hxy hx
  refine ⟨others, hothers, hsame, (hR.types _).1 ht hsame ?_⟩
  cases y with
  | object ns =>
    obtain rfl := Option.some.inj hothers
    rw [nodes]
    omega
  | _ => cases hothers

theorem param {p : Param} (hxy : R x y) (hx : Param.ofJson? x = some p) :
    Param.ofJson? y = some p := by
  obtain ⟨ms, rfl, hname, hinternal, ht⟩ := Param.ofJson?_eq_some.mp hx
  obtain ⟨ns, hns, hsame, ht⟩ := hR.typeOf? hxy rfl ht
  obtain ⟨name, hname', hnames⟩ := hsame.field? hname
  obtain rfl := text?_eq_some.mp (hR.text hnames rfl)
  obtain ⟨others, rfl, -⟩ := hR.members hxy
  obtain rfl := Option.some.inj hns
  exact Param.ofJson?_eq_some.mpr ⟨_, rfl, hname', hR.textOrMissing? hsame hinternal, ht⟩

theorem eventParam {p : EventParam} (hxy : R x y) (hx : EventParam.ofJson? x = some p) :
    EventParam.ofJson? y = some p := by
  obtain ⟨ms, rfl, hname, ht, hindexed⟩ := EventParam.ofJson?_eq_some.mp hx
  obtain ⟨ns, hns, hsame, ht⟩ := hR.typeOf? hxy rfl ht
  obtain ⟨name, hname', hnames⟩ := hsame.field? hname
  obtain rfl := text?_eq_some.mp (hR.text hnames rfl)
  obtain ⟨others, rfl, -⟩ := hR.members hxy
  obtain rfl := Option.some.inj hns
  refine EventParam.ofJson?_eq_some.mpr ⟨_, rfl, hname', ht, ?_⟩
  rcases hindexed with ⟨hnone, hfalse⟩ | hsome
  · exact .inl ⟨hsame.optionalField?_none hnone, hfalse⟩
  · obtain ⟨b, hb, hbools⟩ := hsame.optionalField?_some hsome
    obtain rfl := bool?_eq_some.mp (hR.bool hbools rfl)
    exact .inr hb

theorem params? {ps : List Param} (hxy : R x y) (hx : Abi.params? x = some ps) :
    Abi.params? y = some ps := by
  obtain ⟨xs, hxs, hx⟩ := Option.bind_eq_some_iff.mp hx
  obtain ⟨ys, hys, hsame⟩ := hR.items? hxy hxs
  exact Option.bind_eq_some_iff.mpr
    ⟨ys, hys, mapM_eq_some_of_forall₂ (f := Param.ofJson?) (fun _ _ _ => hR.param) hsame hx⟩

theorem eventParams? {ps : List EventParam} (hxy : R x y) (hx : Abi.eventParams? x = some ps) :
    Abi.eventParams? y = some ps := by
  obtain ⟨xs, hxs, hx⟩ := Option.bind_eq_some_iff.mp hx
  obtain ⟨ys, hys, hsame⟩ := hR.items? hxy hxs
  exact Option.bind_eq_some_iff.mpr
    ⟨ys, hys,
      mapM_eq_some_of_forall₂ (f := EventParam.ofJson?) (fun _ _ _ => hR.eventParam) hsame hx⟩

theorem name? {name : String} (hxy : R x y) (hx : Abi.name? x = some name) :
    Abi.name? y = some name := by
  obtain ⟨s, hs, rfl⟩ := Option.map_eq_some_iff.mp hx
  exact Option.map_eq_some_iff.mpr ⟨s, hR.text hxy hs, rfl⟩

theorem mutability {m : Mutability} (hxy : R x y) (hx : Mutability.ofJson? x = some m) :
    Mutability.ofJson? y = some m := by
  cases x with
  | text s =>
    obtain rfl := text?_eq_some.mp (hR.text hxy rfl)
    exact hx
  | _ => cases hx

/-! ### Entries -/

variable {name name' inputs inputs' outputs outputs' : Json} {e : Entry}

theorem function? {constant constant' mutability mutability' : Option Json} (hname : R name name')
    (hinputs : R inputs inputs') (houtputs : R outputs outputs')
    (hconstant : Option.Rel R constant constant')
    (hmutability : Option.Rel R mutability mutability')
    (he : Abi.function? name inputs outputs constant mutability = some e) :
    Abi.function? name' inputs' outputs' constant' mutability' = some e := by
  obtain ⟨n, is, os, m, hn, his, hos, hflag, hm, rfl⟩ := function?_eq_some.mp he
  refine function?_eq_some.mpr ⟨n, is, os, m, hR.name? hname hn, hR.params? hinputs his,
    hR.params? houtputs hos, ?_, ?_, rfl⟩
  · intro y hy
    cases hconstant with
    | none => cases hy
    | some hxy =>
      obtain rfl := Option.some.inj hy
      exact hR.flag hxy (hflag _ rfl)
  · cases hmutability with
    | none => exact hm
    | some hxy => exact hR.mutability hxy hm

theorem event? {anonymous anonymous' : Json} (hname : R name name') (hinputs : R inputs inputs')
    (hanonymous : R anonymous anonymous') (he : Abi.event? name inputs anonymous = some e) :
    Abi.event? name' inputs' anonymous' = some e := by
  obtain ⟨n, hn, he⟩ := Option.bind_eq_some_iff.mp he
  obtain ⟨is, his, he⟩ := Option.bind_eq_some_iff.mp he
  obtain ⟨b, hb, he⟩ := Option.bind_eq_some_iff.mp he
  refine Option.bind_eq_some_iff.mpr ⟨n, hR.name? hname hn, ?_⟩
  refine Option.bind_eq_some_iff.mpr ⟨is, hR.eventParams? hinputs his, ?_⟩
  exact Option.bind_eq_some_iff.mpr ⟨b, hR.bool hanonymous hb, he⟩

theorem error? (hname : R name name') (hinputs : R inputs inputs')
    (he : Abi.error? name inputs = some e) : Abi.error? name' inputs' = some e := by
  obtain ⟨n, hn, he⟩ := Option.bind_eq_some_iff.mp he
  obtain ⟨is, his, he⟩ := Option.bind_eq_some_iff.mp he
  refine Option.bind_eq_some_iff.mpr ⟨n, hR.name? hname hn, ?_⟩
  exact Option.bind_eq_some_iff.mpr ⟨is, hR.params? hinputs his, he⟩

theorem entryOfMembers? {tag : String} (h : Retold R members others)
    (he : Abi.entryOfMembers? tag members = some e) :
    Abi.entryOfMembers? tag others = some e := by
  unfold Abi.entryOfMembers? at he ⊢
  split at he
  case h_1 =>
    refine h.field?_bind (fun inputs inputs' hinputs he => ?_) he
    obtain ⟨is, his, he⟩ := Option.bind_eq_some_iff.mp he
    exact Option.bind_eq_some_iff.mpr ⟨is, hR.params? hinputs his, he⟩
  case h_2 =>
    refine h.field?_bind (fun name name' hname he => ?_) he
    refine h.field?_bind (fun inputs inputs' hinputs he => ?_) he
    refine h.field?_bind (fun outputs outputs' houtputs he => ?_) he
    refine h.optionalField?_bind (fun constant constant' hconstant he => ?_) he
    refine h.optionalField?_bind (fun mutability mutability' hmutability he => ?_) he
    exact hR.function? hname hinputs houtputs hconstant hmutability he
  case h_3 =>
    refine h.field?_bind (fun name name' hname he => ?_) he
    refine h.field?_bind (fun inputs inputs' hinputs he => ?_) he
    refine h.field?_bind (fun anonymous anonymous' hanonymous he => ?_) he
    exact hR.event? hname hinputs hanonymous he
  case h_4 =>
    refine h.field?_bind (fun name name' hname he => ?_) he
    refine h.field?_bind (fun inputs inputs' hinputs he => ?_) he
    exact hR.error? hname hinputs he
  case h_5 => exact he
  case h_6 => exact he
  case h_7 => cases he

theorem entryOfItems? {tag : String} {xs ys : List Json} (h : List.Forall₂ R xs ys)
    (he : Abi.entryOfItems? tag xs = some e) : Abi.entryOfItems? tag ys = some e := by
  unfold Abi.entryOfItems? at he
  split at he
  case h_1 inputs =>
    obtain ⟨is, his, rfl⟩ := Option.map_eq_some_iff.mp he
    rcases h with _ | ⟨hinputs, _ | _⟩
    exact Option.map_eq_some_iff.mpr ⟨is, hR.params? hinputs his, rfl⟩
  case h_2 name inputs outputs constant =>
    rcases h with _ | ⟨hname, _ | ⟨hinputs, _ | ⟨houtputs, _ | ⟨hconstant, _ | _⟩⟩⟩⟩
    exact hR.function? hname hinputs houtputs (.some hconstant) .none he
  case h_3 name inputs outputs constant mutability =>
    rcases h with
      _ | ⟨hname, _ | ⟨hinputs, _ | ⟨houtputs, _ | ⟨hconstant, _ | ⟨hmutability, _ | _⟩⟩⟩⟩⟩
    exact hR.function? hname hinputs houtputs (.some hconstant) (.some hmutability) he
  case h_4 name inputs anonymous =>
    rcases h with _ | ⟨hname, _ | ⟨hinputs, _ | ⟨hanonymous, _ | _⟩⟩⟩
    exact hR.event? hname hinputs hanonymous he
  case h_5 name inputs =>
    rcases h with _ | ⟨hname, _ | ⟨hinputs, _ | _⟩⟩
    exact hR.error? hname hinputs he
  case h_6 =>
    cases h
    exact he
  case h_7 =>
    cases h
    exact he
  case h_8 => cases he

theorem entry (hxy : R x y) (he : Entry.ofJson? x = some e) : Entry.ofJson? y = some e := by
  unfold Entry.ofJson? at he
  split at he
  case h_1 ms =>
    obtain ⟨ns, rfl, hsame⟩ := hR.members hxy
    refine hsame.field?_bind (fun type type' htypes he => ?_) he
    obtain ⟨tag, htag, he⟩ := Option.bind_eq_some_iff.mp he
    exact Option.bind_eq_some_iff.mpr ⟨tag, hR.text htypes htag, hR.entryOfMembers? hsame he⟩
  case h_2 tag items =>
    obtain ⟨name, hname, he⟩ := Option.bind_eq_some_iff.mp he
    obtain ⟨ys, rfl, hsame⟩ := hR.items hxy
    obtain ⟨tag', ys, htags, hitems, rfl⟩ := List.forall₂_cons_left_iff.mp hsame
    exact Option.bind_eq_some_iff.mpr ⟨name, hR.text htags hname, hR.entryOfItems? hitems he⟩
  case h_3 => cases he

/-- A document that is retold has the same entries. -/
theorem entries {es : List Entry} (hxy : R x y) (hes : entries? x = some es) :
    entries? y = some es := by
  cases x with
  | array xs =>
    obtain ⟨ys, rfl, hsame⟩ := hR.items hxy
    exact mapM_eq_some_of_forall₂ (f := Entry.ofJson?) (fun _ _ _ => hR.entry) hsame hes
  | _ => cases hes

end

end Retells

/-! ## Values and numbers of documents -/

section Ascending

variable {members : List (String × Json)} {key : String}

theorem valuesOf_eq_nil (h : ∀ m ∈ members, m.1 ≠ key) : valuesOf key members = [] := by
  have hfilter : members.filter (fun m => m.1 == key) = [] := by
    rw [List.filter_eq_nil_iff]
    intro m hm
    simpa using h m hm
  rw [valuesOf, hfilter, List.map_nil]

/-- Where keys ascend, a key has the value that it is looked up with. -/
theorem valuesOf_of_ascending (h : Json.Ascending members) :
    valuesOf key members = (members.lookup key).toList := by
  induction members with
  | nil => rfl
  | cons m rest ih =>
    obtain ⟨k, x⟩ := m
    obtain ⟨hk, hrest⟩ := List.pairwise_cons.mp h
    rw [Json.lookup_cons]
    by_cases hkey : key = k
    · subst hkey
      have hnone : valuesOf key rest = [] := valuesOf_eq_nil fun m hm => ne_of_gt (hk m hm)
      rw [valuesOf] at hnone
      simp [valuesOf, hnone]
    · rw [if_neg hkey, ← ih hrest]
      simp [valuesOf, Ne.symm hkey]

theorem optionalField?_of_ascending (h : Json.Ascending members) :
    optionalField? key members = some (members.lookup key) := by
  rw [optionalField?, valuesOf_of_ascending h]
  cases members.lookup key <;> rfl

theorem field?_of_ascending (h : Json.Ascending members) :
    field? key members = members.lookup key := by
  rw [field?, valuesOf_of_ascending h]
  cases members.lookup key <;> rfl

end Ascending

/-- A key that is there at most once has the value of its value in the value of an object. -/
theorem valuesOf_normalMembers {members : List (String × Json)} {key : String}
    (h : (valuesOf key members).length ≤ 1) :
    valuesOf key (Json.normalMembers members []) = (valuesOf key members).map Json.normal := by
  have hascending : Json.Ascending (Json.normalMembers members []) :=
    Json.Ascending.normalMembers List.Pairwise.nil
  rw [valuesOf_of_ascending hascending, Json.lookup_normalMembers]
  rw [valuesOf, List.length_map] at h
  rw [valuesOf]
  match hfilter : members.filter (fun m => m.1 == key) with
  | [] => rw [hfilter]; rfl
  | [m] => rw [hfilter]; rfl
  | _ :: _ :: _ => simp [hfilter] at h

/-- A function that keeps texts and truth values and goes through items and members retells. -/
theorem retells_map {f : Json → Json} (hnull : f .null = .null) (hbool : ∀ b, f (.bool b) = .bool b)
    (htext : ∀ s, f (.text s) = .text s) (hitems : ∀ xs, f (.array xs) = .array (xs.map f))
    (hmembers : ∀ ms, ∃ ns, f (.object ms) = .object ns ∧ ∀ key,
      (valuesOf key ms).length ≤ 1 → valuesOf key ns = (valuesOf key ms).map f) :
    Retells fun x y => y = f x where
  text := by
    rintro x _ s rfl hx
    obtain rfl := text?_eq_some.mp hx
    rw [htext, Json.text?]
  bool := by
    rintro x _ b rfl hx
    obtain rfl := bool?_eq_some.mp hx
    rw [hbool, Json.bool?]
  flag := by
    rintro x _ rfl hx
    cases x with
    | null => rw [hnull, flag?]
    | bool b => rw [hbool, flag?]
    | _ => cases hx
  items := by
    rintro xs _ rfl
    refine ⟨xs.map f, hitems xs, ?_⟩
    exact List.forall₂_map_right_iff.mpr (List.forall₂_same.mpr fun _ _ => rfl)
  members := by
    rintro ms _ rfl
    obtain ⟨ns, hns, hvalues⟩ := hmembers ms
    refine ⟨ns, hns, fun key hkey => ?_⟩
    rw [hvalues key hkey]
    exact List.forall₂_map_right_iff.mpr (List.forall₂_same.mpr fun _ _ => rfl)

theorem retells_normal : Retells fun x y => y = x.normal :=
  retells_map rfl (fun _ => rfl) (fun _ => rfl)
    (fun _ => by rw [Json.normal, Json.normalItems_eq_map])
    fun _ => ⟨_, by rw [Json.normal], fun _ => valuesOf_normalMembers⟩

theorem valuesOf_mapNumbers (g : Json.Number → Json.Number) (key : String)
    (members : List (String × Json)) :
    valuesOf key (members.map fun m => (m.1, m.2.mapNumbers g)) =
      (valuesOf key members).map (Json.mapNumbers g) := by
  simp [valuesOf, List.filter_map, Function.comp_def]

theorem retells_mapNumbers (g : Json.Number → Json.Number) :
    Retells fun x y => y = x.mapNumbers g :=
  retells_map rfl (fun _ => rfl) (fun _ => rfl)
    (fun _ => by rw [Json.mapNumbers, Json.mapNumbersItems_eq_map])
    fun _ => ⟨_, by rw [Json.mapNumbers, Json.mapNumbersMembers_eq_map],
      fun key _ => valuesOf_mapNumbers g key _⟩

theorem retells_of_mapNumbers (g : Json.Number → Json.Number) :
    Retells fun x y => x = y.mapNumbers g where
  text := by
    rintro _ y s rfl hy
    cases y with
    | text => exact hy
    | _ => cases hy
  bool := by
    rintro _ y b rfl hy
    cases y with
    | bool => exact hy
    | _ => cases hy
  flag := by
    rintro _ y rfl hy
    cases y with
    | null | bool => rfl
    | _ => cases hy
  items := by
    rintro xs y hy
    cases y with
    | array ys =>
      rw [Json.mapNumbers, Json.mapNumbersItems_eq_map, Json.array.injEq] at hy
      subst hy
      refine ⟨ys, rfl, List.forall₂_map_left_iff.mpr (List.forall₂_same.mpr fun _ _ => rfl)⟩
    | _ => cases hy
  members := by
    rintro ms y hy
    cases y with
    | object ns =>
      rw [Json.mapNumbers, Json.mapNumbersMembers_eq_map, Json.object.injEq] at hy
      subst hy
      refine ⟨ns, rfl, fun key _ => ?_⟩
      rw [valuesOf_mapNumbers]
      exact List.forall₂_map_left_iff.mpr (List.forall₂_same.mpr fun _ _ => rfl)
    | _ => cases hy

/-- The value of a document has the entries of the document. -/
theorem entries?_normal {j : Json} {es : List Entry} (h : entries? j = some es) :
    entries? j.normal = some es :=
  retells_normal.entries rfl h

/-- The numbers of a document count for nothing. -/
theorem entries?_mapNumbers (g : Json.Number → Json.Number) (j : Json) :
    entries? (j.mapNumbers g) = entries? j := by
  refine Option.ext fun es => ⟨fun h => ?_, fun h => ?_⟩
  · exact (retells_of_mapNumbers g).entries rfl h
  · exact (retells_mapNumbers g).entries rfl h

end AbiBindings.Abi
