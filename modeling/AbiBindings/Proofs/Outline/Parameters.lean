import AbiBindings.Outline.Document
import AbiBindings.Proofs.Abi.Documents
import AbiBindings.Proofs.Outline.Types

/-!
# Parameters that can be bound

A binding reads the document of an outline again, and is stricter: it takes no defaults for what a
document leaves out. A parameter that spells out enough is read as what the outline says about it.

* `isParam`, `isEventParam`, `isComponent`: the records that spell out what a binding needs.
* `Param.abi?`, `Param.abiEvent?`: what a binding makes of a parameter of an outline.
* `Translates`: a reader that reads what another one has read, where a check allows it.

Results:
* `typesAgree`: the type that a binding reads from a record is the one that the parameter names.
* `translates_param`, `translates_eventParam`: what a binding reads from a parameter that an outline
  has read.
-/

namespace AbiBindings.Outline

open Abi (Ty)

/-! ## What a binding needs -/

/-- Whether the internal type of a record, if there is one, is a text. -/
def hasInternalType (members : List (String × Json)) : Bool :=
  members.all fun m => m.1 != "internalType" || m.2.text?.isSome

mutual

/-- Whether the components of a record, if there are any, are records that can be bound. -/
def hasComponents : List (String × Json) → Bool
  | [] => true
  | (k, x) :: rest => (k != "components" || areComponents x) && hasComponents rest

/-- Whether a document is an array of records that can be bound. -/
def areComponents : Json → Bool
  | .array items => allComponents items
  | _ => false

/-- Whether all items are records that can be bound. -/
def allComponents : List Json → Bool
  | [] => true
  | x :: rest => isComponent x && allComponents rest

/-- Whether a document is a record of a component that can be bound. -/
def isComponent : Json → Bool
  | .object members => hasInternalType members && hasComponents members
  | _ => false

end

/-- Whether a document is a record of a parameter that can be bound. -/
def isParam : Json → Bool
  | .object members =>
    (members.lookup "name").isSome && hasInternalType members && hasComponents members
  | _ => false

/-- Whether a document is a record of an event parameter that can be bound. -/
def isEventParam : Json → Bool
  | .object members => (members.lookup "name").isSome && hasComponents members
  | _ => false

/-! ## What a binding makes of a parameter -/

/-- A parameter with the type that it names. -/
def Param.abi? (p : Param) : Option Abi.Param := p.ty?.map fun t => ⟨p.name, t⟩

/-- An event parameter with the type that it names. -/
def Param.abiEvent? (p : Param) : Option Abi.EventParam := p.ty?.map fun t => ⟨p.name, t, p.indexed⟩

/-! ## Fields of records -/

section Fields

variable {members : List (String × Json)} {key : String}

/-- A check of the members of a key, where keys ascend. -/
theorem all_eq_lookup_all (h : Json.Ascending members) (f : Json → Bool) :
    (members.all fun m => m.1 != key || f m.2) = (members.lookup key).all f := by
  induction members with
  | nil => rfl
  | cons m rest ih =>
    obtain ⟨k, x⟩ := m
    obtain ⟨hk, hrest⟩ := List.pairwise_cons.mp h
    rw [List.all_cons, ih hrest, Json.lookup_cons]
    by_cases hkey : key = k
    · subst hkey
      have hnone : rest.lookup key = none := by
        rw [List.lookup_eq_none_iff]
        intro m hm
        simpa using ne_of_lt (hk m hm)
      rw [hnone, if_pos rfl]
      simp
    · rw [if_neg hkey]
      simp [Ne.symm hkey]

theorem hasComponents_eq_all (members : List (String × Json)) :
    hasComponents members = members.all fun m => m.1 != "components" || areComponents m.2 := by
  induction members with
  | nil => rfl
  | cons m rest ih => rw [hasComponents, ih, List.all_cons]

theorem hasComponents_of_ascending (h : Json.Ascending members) :
    hasComponents members = (members.lookup "components").all areComponents := by
  rw [hasComponents_eq_all, all_eq_lookup_all h]

theorem textOrMissing?_of_ascending (h : Json.Ascending members) :
    Abi.textOrMissing? key members = some () ↔
      (members.lookup key).all (fun x => x.text?.isSome) = true := by
  rw [Abi.textOrMissing?_eq_some, Abi.optionalField?_of_ascending h]
  cases members.lookup key with
  | none => simp
  | some x => cases x <;> simp [Json.text?]

theorem hasInternalType_iff (h : Json.Ascending members) :
    hasInternalType members = true ↔ Abi.textOrMissing? "internalType" members = some () := by
  rw [textOrMissing?_of_ascending h, hasInternalType, ← all_eq_lookup_all h]

theorem fieldOr_eq_some {read : Json → Option α} {default a : α} :
    fieldOr members key read default = some a ↔
      members.lookup key = none ∧ a = default ∨
        ∃ x, members.lookup key = some x ∧ read x = some a := by
  rw [fieldOr]
  cases members.lookup key <;> simp [eq_comm]

end Fields

/-! ## Parameters -/

section Params

variable {fuel fuel' : Nat} {members : List (String × Json)} {p : Param}

/-- The fields of a parameter that is read from an object. -/
structure Param.Read (fuel : Nat) (members : List (String × Json)) (p : Param) : Prop where
  name : members.lookup "name" = none ∧ p.name = "" ∨ members.lookup "name" = some (.text p.name)
  type : members.lookup "type" = some (.text p.type)
  components : (members.lookup "components" = none ∨ members.lookup "components" = some .null) ∧
      p.components? = none ∨
    ∃ items cs, members.lookup "components" = some (.array items) ∧
      items.mapM (Param.read? fuel) = some cs ∧ p.components? = some cs
  indexed : members.lookup "indexed" = none ∧ p.indexed = false ∨
    members.lookup "indexed" = some (.bool p.indexed)

theorem optionalList?_eq_some {read : Json → Option α} {x : Json} {as? : Option (List α)} :
    optionalList? read x = some as? ↔
      x = .null ∧ as? = none ∨
        ∃ items as, x = .array items ∧ items.mapM read = some as ∧ as? = some as := by
  cases x with
  | null => simp [optionalList?, eq_comm]
  | array items => simp [optionalList?, list?, eq_comm]
  | _ => simp [optionalList?, list?]

theorem Param.read_of_read? (h : Param.read? (fuel + 1) (.object members) = some p) :
    p.Read fuel members := by
  rw [Param.read?, record?, Option.bind_eq_bind, Option.bind_some] at h
  obtain ⟨name, hname, h⟩ := Option.bind_eq_some_iff.mp h
  obtain ⟨type, htype, h⟩ := Option.bind_eq_some_iff.mp h
  obtain ⟨text, htext, h⟩ := Option.bind_eq_some_iff.mp h
  obtain ⟨components, hcomponents, h⟩ := Option.bind_eq_some_iff.mp h
  obtain ⟨indexed, hindexed, h⟩ := Option.bind_eq_some_iff.mp h
  obtain rfl := Option.some.inj h
  obtain rfl := Abi.text?_eq_some.mp htext
  refine ⟨?_, htype, ?_, ?_⟩
  · rcases fieldOr_eq_some.mp hname with hnone | ⟨x, hx, htext⟩
    · exact .inl hnone
    · obtain rfl := Abi.text?_eq_some.mp htext
      exact .inr hx
  · rcases fieldOr_eq_some.mp hcomponents with ⟨hnone, rfl⟩ | ⟨x, hx, hlist⟩
    · exact .inl ⟨.inl hnone, rfl⟩
    · rcases optionalList?_eq_some.mp hlist with ⟨rfl, rfl⟩ | ⟨items, cs, rfl, hcs, rfl⟩
      · exact .inl ⟨.inr hx, rfl⟩
      · exact .inr ⟨items, cs, hx, hcs, rfl⟩
  · rcases fieldOr_eq_some.mp hindexed with hnone | ⟨x, hx, hbool⟩
    · exact .inl hnone
    · obtain rfl := Abi.bool?_eq_some.mp hbool
      exact .inr hx

theorem Param.ty?_none {name type : String} {indexed : Bool} :
    Param.ty? ⟨name, type, none, indexed⟩ = Abi.typeWith? (.text type) none := by
  rw [Param.ty?, componentTypes?]
  rfl

theorem Param.ty?_some {name type : String} {components : List Param} {indexed : Bool} {t : Ty} :
    Param.ty? ⟨name, type, some components, indexed⟩ = some t ↔
      ∃ types, Named components types ∧ Abi.typeWith? (.text type) (some types) = some t := by
  rw [Param.ty?, componentTypes?]
  simp only [← types?_eq_some]
  cases types? components with
  | none => simp
  | some types =>
    simp only [Option.map_some, Option.some.injEq, exists_eq_left']
    rfl

/-- Whether a binding reads from records what an outline reads from them with some fuel. -/
def TypesAgree (fuel : Nat) : Prop :=
  ∀ {fuel' members p t}, Param.read? fuel (.object members) = some p →
    (Json.object members).sorted = true → 2 * Abi.nodesOfMembers members ≤ fuel' →
    (Abi.typeOf? fuel' members = some t ↔ hasComponents members = true ∧ p.ty? = some t)

theorem isComponent_iff (h : Json.Ascending members) (hname : p.Read fuel members) :
    isComponent (.object members) = true ↔
      Abi.textOrMissing? "name" members = some () ∧
        Abi.textOrMissing? "internalType" members = some () ∧ hasComponents members = true := by
  have htext : Abi.textOrMissing? "name" members = some () := by
    rw [textOrMissing?_of_ascending h]
    rcases hname.name with ⟨hnone, -⟩ | hsome
    · rw [hnone]; rfl
    · rw [hsome]; rfl
  rw [isComponent, Bool.and_eq_true, hasInternalType_iff h]
  exact ⟨fun hboth => ⟨htext, hboth⟩, fun hall => hall.2⟩

/-- Components are read as the records among them are. -/
theorem componentTypes?_iff (hagree : TypesAgree fuel) {items : List Json} {ps : List Param}
    {types : List Ty} (hread : items.mapM (Param.read? fuel) = some ps)
    (hsorted : Json.sortedItems items = true) (hfuel : 2 * Abi.nodesOfItems items ≤ fuel') :
    Abi.componentTypes? fuel' items = some types ↔
      allComponents items = true ∧ Named ps types := by
  induction items generalizing fuel' ps types with
  | nil =>
    obtain rfl : [] = ps := Option.some.inj hread
    rw [Abi.nodesOfItems] at hfuel
    obtain ⟨fuel', rfl⟩ : ∃ n, fuel' = n + 1 := ⟨fuel' - 1, by omega⟩
    rw [Abi.componentTypes?, allComponents, Named, List.forall₂_nil_left_iff, Option.some.injEq,
      eq_comm]
    simp
  | cons item rest ih =>
    rw [Abi.nodesOfItems] at hfuel
    rw [List.mapM_cons] at hread
    obtain ⟨p, hp, hread⟩ := Option.bind_eq_some_iff.mp hread
    obtain ⟨more, hmore, hread⟩ := Option.bind_eq_some_iff.mp hread
    obtain rfl := Option.some.inj hread
    obtain ⟨hitem, hrest⟩ := Bool.and_eq_true_iff.mp hsorted
    have hpos := Abi.nodes_pos item
    obtain ⟨fuel', rfl⟩ : ∃ n, fuel' = n + 1 := ⟨fuel' - 1, by omega⟩
    rw [Abi.componentTypes?_cons, allComponents, Bool.and_eq_true, Named,
      List.forall₂_cons_left_iff]
    cases item with
    | object members =>
      rw [Abi.nodes] at hfuel
      have hascending : Json.Ascending members := (Json.sortedMembers_iff.mp hitem).1
      obtain ⟨fuel, rfl⟩ : ∃ n, fuel = n + 1 := by
        cases fuel with
        | zero => cases hp
        | succ n => exact ⟨n, rfl⟩
      have hcomponent := isComponent_iff hascending (Param.read_of_read? hp)
      have hfirst : ∀ t, Abi.typeOf? fuel' members = some t ↔
          hasComponents members = true ∧ p.ty? = some t := fun t => hagree hp hitem (by omega)
      have hothers : ∀ ts, Abi.componentTypes? fuel' rest = some ts ↔
          allComponents rest = true ∧ Named more ts := fun ts => ih hmore hrest (by omega)
      constructor
      · rintro ⟨ms, t, ts, hms, hname, hinternal, ht, hts, rfl⟩
        obtain rfl := Json.object.inj hms
        obtain ⟨hcomponents, htype⟩ := (hfirst t).mp ht
        obtain ⟨hall, hnamed⟩ := (hothers ts).mp hts
        exact ⟨⟨hcomponent.mpr ⟨hname, hinternal, hcomponents⟩, hall⟩, t, ts, htype, hnamed, rfl⟩
      · rintro ⟨⟨hitem', hall⟩, t, ts, ht, hnamed, rfl⟩
        obtain ⟨hname, hinternal, hcomponents⟩ := hcomponent.mp hitem'
        exact ⟨members, t, ts, rfl, hname, hinternal, (hfirst t).mpr ⟨hcomponents, ht⟩,
          (hothers ts).mpr ⟨hall, hnamed⟩, rfl⟩
    | _ => simp [isComponent]

theorem typesAgree (fuel : Nat) : TypesAgree fuel := by
  induction fuel with
  | zero =>
    intro fuel' members p t hp
    cases hp
  | succ fuel ih =>
    intro fuel' members p t hp hsorted hfuel
    have hascending : Json.Ascending members := (Json.sortedMembers_iff.mp hsorted).1
    have hpos := Abi.nodesOfMembers_pos members
    obtain ⟨fuel', rfl⟩ : ∃ n, fuel' = n + 1 := ⟨fuel' - 1, by omega⟩
    obtain ⟨name, type, components?, indexed⟩ := p
    obtain ⟨-, htype, hcomponents, -⟩ := Param.read_of_read? hp
    dsimp only at htype hcomponents
    rw [Abi.typeOf?_eq_some, Abi.field?_of_ascending hascending, htype,
      Abi.optionalField?_of_ascending hascending, hasComponents_of_ascending hascending]
    rcases hcomponents with ⟨hnone | hnull, rfl⟩ | ⟨items, cs, hitems, hcs, rfl⟩
    · simp [hnone, Param.ty?_none]
    · simp [hnull, areComponents]
    · have hmem : ("components", Json.array items) ∈ members := by
        apply Abi.mem_of_optionalField?
        rw [Abi.optionalField?_of_ascending hascending, hitems]
      have hnodes := Abi.nodes_lt_of_mem hmem
      rw [Abi.nodes] at hnodes
      have hitemsSorted : Json.sortedItems items = true :=
        (Json.sortedMembers_iff.mp hsorted).2 _ hmem
      have htypes : ∀ ts, Abi.componentTypes? fuel' items = some ts ↔
          allComponents items = true ∧ Named cs ts := fun ts =>
        componentTypes?_iff ih hcs hitemsSorted (by omega)
      simp only [hitems, Option.some.injEq, Option.all_some, areComponents, exists_eq_left',
        Json.array.injEq, reduceCtorEq, false_and, false_or, Param.ty?_some]
      constructor
      · rintro ⟨_, ts, rfl, hts, ht⟩
        obtain ⟨hall, hnamed⟩ := (htypes ts).mp hts
        exact ⟨hall, ts, hnamed, ht⟩
      · rintro ⟨hall, ts, hnamed, ht⟩
        exact ⟨items, ts, rfl, (htypes ts).mpr ⟨hall, hnamed⟩, ht⟩

/-- Whether a binding reads from documents what is made of the values that an outline reads from
them, provided they pass a check. -/
def Translates (source : Json → Option β) (read : Json → Option α) (check : Json → Bool)
    (make : β → Option α) : Prop :=
  ∀ {x p q}, source x = some p → x.sorted = true →
    (read x = some q ↔ check x = true ∧ make p = some q)

theorem Param.Read.field?_name {name : String} (h : Json.Ascending members)
    (hread : p.Read fuel members) :
    Abi.field? "name" members = some (.text name) ↔
      (members.lookup "name").isSome = true ∧ p.name = name := by
  rw [Abi.field?_of_ascending h]
  rcases hread.name with ⟨hnone, -⟩ | hsome
  · simp [hnone]
  · simp [hsome]

theorem Param.Read.optionalField?_indexed {indexed : Bool} (h : Json.Ascending members)
    (hread : p.Read fuel members) :
    (Abi.optionalField? "indexed" members = some none ∧ indexed = false ∨
        Abi.optionalField? "indexed" members = some (some (.bool indexed))) ↔
      p.indexed = indexed := by
  rw [Abi.optionalField?_of_ascending h]
  rcases hread.indexed with ⟨hnone, hfalse⟩ | hsome
  · simp [hnone, hfalse, eq_comm]
  · simp [hsome]

theorem translates_param : Translates Param.ofJson? Abi.Param.ofJson? isParam Param.abi? := by
  intro x p q hp hsorted
  cases x with
  | object members =>
    have hascending : Json.Ascending members := (Json.sortedMembers_iff.mp hsorted).1
    have hread := Param.read_of_read? hp
    have htype : ∀ t, Abi.typeOf? (2 * Abi.nodes (.object members)) members = some t ↔
        hasComponents members = true ∧ p.ty? = some t := fun t =>
      typesAgree _ hp hsorted (by rw [Abi.nodes]; omega)
    rw [Abi.Param.ofJson?_eq_some, isParam, Bool.and_eq_true, Bool.and_eq_true,
      hasInternalType_iff hascending, Param.abi?, Option.map_eq_some_iff]
    constructor
    · rintro ⟨ms, hms, hname, hinternal, ht⟩
      obtain rfl := Json.object.inj hms
      obtain ⟨hsome, hsame⟩ := (hread.field?_name hascending).mp hname
      obtain ⟨hcomponents, ht⟩ := (htype _).mp ht
      exact ⟨⟨⟨hsome, hinternal⟩, hcomponents⟩, q.type, ht, by rw [hsame]⟩
    · rintro ⟨⟨⟨hsome, hinternal⟩, hcomponents⟩, t, ht, rfl⟩
      exact ⟨members, rfl, (hread.field?_name hascending).mpr ⟨hsome, rfl⟩, hinternal,
        (htype t).mpr ⟨hcomponents, ht⟩⟩
  | _ => simp [Abi.Param.ofJson?, Abi.members?, isParam]

theorem translates_eventParam :
    Translates Param.ofJson? Abi.EventParam.ofJson? isEventParam Param.abiEvent? := by
  intro x p q hp hsorted
  cases x with
  | object members =>
    have hascending : Json.Ascending members := (Json.sortedMembers_iff.mp hsorted).1
    have hread := Param.read_of_read? hp
    have htype : ∀ t, Abi.typeOf? (2 * Abi.nodes (.object members)) members = some t ↔
        hasComponents members = true ∧ p.ty? = some t := fun t =>
      typesAgree _ hp hsorted (by rw [Abi.nodes]; omega)
    rw [Abi.EventParam.ofJson?_eq_some, isEventParam, Bool.and_eq_true, Param.abiEvent?,
      Option.map_eq_some_iff]
    constructor
    · rintro ⟨ms, hms, hname, ht, hindexed⟩
      obtain rfl := Json.object.inj hms
      obtain ⟨hsome, hsame⟩ := (hread.field?_name hascending).mp hname
      obtain ⟨hcomponents, ht⟩ := (htype _).mp ht
      have hmark := (hread.optionalField?_indexed hascending).mp hindexed
      exact ⟨⟨hsome, hcomponents⟩, q.type, ht, by rw [hsame, hmark]⟩
    · rintro ⟨⟨hsome, hcomponents⟩, t, ht, rfl⟩
      exact ⟨members, rfl, (hread.field?_name hascending).mpr ⟨hsome, rfl⟩,
        (htype t).mpr ⟨hcomponents, ht⟩, (hread.optionalField?_indexed hascending).mpr rfl⟩
  | _ => simp [Abi.EventParam.ofJson?, Abi.members?, isEventParam]

/-- Lists are translated as their items are. -/
theorem Translates.mapM {source : Json → Option β} {read : Json → Option α} {check : Json → Bool}
    {make : β → Option α} (h : Translates source read check make) {items : List Json}
    {ps : List β} (hps : items.mapM source = some ps) (hsorted : Json.sortedItems items = true)
    (qs : List α) :
    items.mapM read = some qs ↔ items.all check = true ∧ ps.mapM make = some qs := by
  induction items generalizing ps qs with
  | nil =>
    obtain rfl : [] = ps := Option.some.inj hps
    simp
  | cons x rest ih =>
    obtain ⟨hx, hrest⟩ := Bool.and_eq_true_iff.mp hsorted
    rw [List.mapM_cons] at hps
    obtain ⟨p, hp, hps⟩ := Option.bind_eq_some_iff.mp hps
    obtain ⟨more, hmore, hps⟩ := Option.bind_eq_some_iff.mp hps
    obtain rfl : p :: more = ps := Option.some.inj hps
    rw [List.mapM_cons, List.mapM_cons, List.all_cons, Bool.and_eq_true]
    simp only [Option.bind_eq_bind, Option.bind_eq_some_iff, h hp hx, ih hmore hrest]
    constructor
    · rintro ⟨q, ⟨hcheck, hq⟩, more', ⟨hall, hmore'⟩, hqs⟩
      exact ⟨⟨hcheck, hall⟩, q, hq, more', hmore', hqs⟩
    · rintro ⟨⟨hcheck, hall⟩, q, hq, more', hmore', hqs⟩
      exact ⟨q, ⟨hcheck, hq⟩, more', ⟨hall, hmore'⟩, hqs⟩

end Params

end AbiBindings.Outline
