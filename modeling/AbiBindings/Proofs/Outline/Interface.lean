import AbiBindings.Proofs.Outline.Entries

/-!
# Interfaces of outlines

An outline and the interface of its document have the same functions and events, in the order of
the document.

* `Function.Matches`, `Event.Matches`: an entry of an outline and one of an interface with the same
  name and the types that the inputs name.
* `Event.ReadAs`: the same with the names of the inputs, and which of them are indexed.
* `isBindable`: the documents whose entries all spell out what a binding needs.

Results:
* `parse_eq_ok`: what the outline of a text is made of.
* `entries?_isSome_iff`: which documents of outlines describe an interface.
* `matches_of_entries?`: the entries of the interface match those of the outline.
-/

namespace AbiBindings.Outline

open Abi (Ty)

/-! ## The entries of an outline -/

/-- The function of an entry, if it is one. -/
def Entry.function? (e : Entry) : Option Function :=
  if e.kind = "function" then some e.function else none

/-- The event of an entry, if it is one. -/
def Entry.event? (e : Entry) : Option Event :=
  if e.kind = "event" then e.name?.map fun name => ⟨name, e.inputs, e.anonymous⟩ else none

theorem addEntry_eq_ok {o o' : Outline} {e : Entry} (h : o.addEntry e = .ok o') :
    o'.functions = o.functions ++ e.function?.toList ∧
      o'.events = o.events ++ e.event?.toList ∧ o'.document = o.document := by
  unfold addEntry at h
  split at h
  · cases h
  · split at h
    case h_1 hkind =>
      cases h
      simp [Entry.function?, Entry.event?, hkind]
    case h_2 hkind =>
      cases h
      simp [Entry.function?, Entry.event?, hkind]
    case h_3 hkind =>
      split at h
      · rename_i name hname
        cases h
        simp [Entry.function?, Entry.event?, hkind, hname]
      · cases h
    case h_4 hconstructor hfunction hevent =>
      cases h
      rw [Entry.function?, Entry.event?, if_neg hfunction, if_neg hevent]
      simp

theorem addEntries_eq_ok {o o' : Outline} {es : List Entry} (h : o.addEntries es = .ok o') :
    o'.functions = o.functions ++ es.filterMap Entry.function? ∧
      o'.events = o.events ++ es.filterMap Entry.event? ∧ o'.document = o.document := by
  induction es generalizing o with
  | nil =>
    cases h
    simp
  | cons e rest ih =>
    rw [addEntries] at h
    split at h
    · cases h
    · rename_i next hnext
      obtain ⟨hfunctions, hevents, hdocument⟩ := addEntry_eq_ok hnext
      obtain ⟨hfunctions', hevents', hdocument'⟩ := ih h
      refine ⟨?_, ?_, hdocument'.trans hdocument⟩
      · rw [hfunctions', hfunctions]
        cases hfunction : e.function? <;> simp [hfunction]
      · rw [hevents', hevents]
        cases hevent : e.event? <;> simp [hevent]

/-- What the outline of an array of entries is made of. -/
theorem ofEntries_eq_ok {document : Json} {o : Outline} (h : ofEntries document = .ok o) :
    ∃ items es, document = .array items ∧ items.mapM Entry.ofJson? = some es ∧
      o.functions = es.filterMap Entry.function? ∧ o.events = es.filterMap Entry.event? ∧
      o.document = document := by
  unfold ofEntries at h
  split at h
  · cases h
  · rename_i es hes
    obtain ⟨items, rfl, hes⟩ := list?_eq_some.mp hes
    obtain ⟨hfunctions, hevents, hdocument⟩ := addEntries_eq_ok h
    exact ⟨items, es, rfl, hes, hfunctions, hevents, hdocument⟩

/-! ## The document of an outline -/

theorem mem_of_member? {members : List (String × Json)} {key : String} {x : Json}
    (h : (Json.object members).member? key = some x) : (key, x) ∈ members := by
  obtain ⟨m, hm, rfl⟩ := Option.map_eq_some_iff.mp h
  obtain rfl : m.1 = key := by simpa using List.find?_some hm
  exact List.mem_reverse.mp (List.mem_of_find?_eq_some hm)

theorem sorted_of_member? {j x : Json} {key : String} (hj : j.sorted = true)
    (h : j.member? key = some x) : x.sorted = true := by
  cases j with
  | object members => exact (Json.sortedMembers_iff.mp hj).2 _ (mem_of_member? h)
  | _ => cases h

theorem sound_of_member? {j x : Json} {key : String} (hj : j.sound = true)
    (h : j.member? key = some x) : x.sound = true := by
  cases j with
  | object members => exact Json.soundMembers_iff.mp hj _ (mem_of_member? h)
  | _ => cases h

theorem depth_le_of_member? {j x : Json} {key : String} (h : j.member? key = some x) :
    x.depth ≤ j.depth := by
  cases j with
  | object members =>
    have hle : ∀ m ∈ members, m.2.depth ≤ Json.depthMembers members :=
      Json.depthMembers_le_iff.mp le_rfl
    have hx : x.depth ≤ Json.depthMembers members := hle _ (mem_of_member? h)
    rw [Json.depth]
    omega
  | _ => cases h

/-- What the outline of a text is made of: the value of the text, or what it has under `abi`. -/
theorem parse_eq_ok {text : String} {o : Outline} (h : parse text = .ok o) :
    ∃ j, Json.parse text = some j ∧ j.sound = true ∧ j.depth ≤ Json.depthLimit ∧
      (j.normal.member? "abi").getD j.normal = o.document ∧ ofEntries o.document = .ok o := by
  unfold parse at h
  split at h
  · cases h
  · rename_i j hj
    obtain ⟨hsound, hdepth⟩ := Json.sound_of_parse hj
    refine ⟨j, hj, hsound, hdepth, ?_⟩
    unfold ofJson at h
    split at h
    · rename_i abi habi
      obtain ⟨-, -, -, -, -, -, hdocument⟩ := ofEntries_eq_ok h
      rw [habi, Option.getD_some, hdocument]
      exact ⟨rfl, h⟩
    · rename_i hnone
      obtain ⟨-, -, -, -, -, -, hdocument⟩ := ofEntries_eq_ok h
      rw [hnone, Option.getD_none, hdocument]
      exact ⟨rfl, h⟩

/-! ## Entries that match -/

/-- An entry of an outline and a function of an interface with its name, cut at a parenthesis, and
the types that its parameters name. -/
structure Function.Matches (f : Function) (g : Abi.Function) : Prop where
  name : g.name = Abi.cutName f.name
  inputs : Named f.inputs g.inputTypes
  outputs : Named f.outputs g.outputTypes

/-- An entry of an outline and an event of an interface with its name, cut at a parenthesis, and the
types that its parameters name. -/
structure Event.Matches (e : Event) (d : Abi.Event) : Prop where
  name : d.name = Abi.cutName e.name
  inputs : Named e.inputs d.inputTypes
  anonymous : d.anonymous = e.anonymous

theorem named_of_mapM {make : Param → Option α} {type : α → Ty} {ps : List Param} {qs : List α}
    (hmake : ∀ p q, make p = some q → p.ty? = some (type q)) (h : ps.mapM make = some qs) :
    Named ps (qs.map type) := by
  induction ps generalizing qs with
  | nil =>
    obtain rfl : [] = qs := Option.some.inj h
    exact .nil
  | cons p rest ih =>
    rw [List.mapM_cons] at h
    obtain ⟨q, hq, h⟩ := Option.bind_eq_some_iff.mp h
    obtain ⟨more, hmore, h⟩ := Option.bind_eq_some_iff.mp h
    obtain rfl : q :: more = qs := Option.some.inj h
    exact .cons (hmake p q hq) (ih hmore)

theorem ty?_of_abi? {p : Param} {q : Abi.Param} (h : p.abi? = some q) : p.ty? = some q.type := by
  obtain ⟨t, ht, rfl⟩ := Option.map_eq_some_iff.mp h
  exact ht

theorem ty?_of_abiEvent? {p : Param} {q : Abi.EventParam} (h : p.abiEvent? = some q) :
    p.ty? = some q.type := by
  obtain ⟨t, ht, rfl⟩ := Option.map_eq_some_iff.mp h
  exact ht

theorem matches_of_abiFunction? {e : Entry} {g : Abi.Function} (h : e.abiFunction? = some g) :
    e.function.Matches g := by
  obtain ⟨n, hn, h⟩ := Option.bind_eq_some_iff.mp h
  obtain ⟨is, his, h⟩ := Option.bind_eq_some_iff.mp h
  obtain ⟨os, hos, h⟩ := Option.bind_eq_some_iff.mp h
  obtain ⟨m, -, h⟩ := Option.bind_eq_some_iff.mp h
  obtain rfl := Option.some.inj h
  obtain ⟨s, hs, rfl⟩ := Option.map_eq_some_iff.mp hn
  exact ⟨by rw [Entry.function, hs]; rfl, named_of_mapM (fun _ _ => ty?_of_abi?) his,
    named_of_mapM (fun _ _ => ty?_of_abi?) hos⟩

/-- An event of an interface that is made of one of an outline: each of its parameters is one of the
outline with the type that this names. -/
structure Event.ReadAs (e : Event) (d : Abi.Event) : Prop where
  name : d.name = Abi.cutName e.name
  inputs : e.inputs.mapM Param.abiEvent? = some d.inputs
  anonymous : d.anonymous = e.anonymous

theorem Event.ReadAs.matches {e : Event} {d : Abi.Event} (h : e.ReadAs d) : e.Matches d :=
  ⟨h.name, named_of_mapM (fun _ _ => ty?_of_abiEvent?) h.inputs, h.anonymous⟩

theorem readAs_of_abiEvent? {e : Entry} {d : Abi.Event} {name : String}
    (hname : e.name? = some name) (h : e.abiEvent? = some d) :
    Event.ReadAs ⟨name, e.inputs, e.anonymous⟩ d := by
  obtain ⟨n, hn, h⟩ := Option.bind_eq_some_iff.mp h
  obtain ⟨is, his, h⟩ := Option.bind_eq_some_iff.mp h
  obtain rfl := Option.some.inj h
  obtain ⟨s, hs, rfl⟩ := Option.map_eq_some_iff.mp hn
  obtain rfl : s = name := Option.some.inj (hs.symm.trans hname)
  exact ⟨rfl, his, rfl⟩

/-- What a binding makes of an entry: a function of a function, an event of an event, and neither of
any other. -/
theorem Entry.abi?_cases {e : Entry} {x : Abi.Entry} (h : e.abi? = some x) :
    (∃ g, x = .function g ∧ e.function? = some e.function ∧ e.event? = none ∧
        e.function.Matches g) ∨
      (∃ v d, x = .event d ∧ e.function? = none ∧ e.event? = some v ∧ v.ReadAs d) ∨
      (x = .dropped ∨ ∃ is, x = .constructor is) ∧ e.function? = none ∧ e.event? = none := by
  unfold Entry.abi? at h
  split at h
  case h_1 hkind =>
    obtain ⟨is, -, rfl⟩ := Option.map_eq_some_iff.mp h
    exact .inr (.inr ⟨.inr ⟨is, rfl⟩, by simp [function?, hkind], by simp [event?, hkind]⟩)
  case h_2 hkind =>
    obtain ⟨g, hg, rfl⟩ := Option.map_eq_some_iff.mp h
    exact .inl ⟨g, rfl, by simp [function?, hkind], by simp [event?, hkind],
      matches_of_abiFunction? hg⟩
  case h_3 hkind =>
    obtain ⟨d, hd, rfl⟩ := Option.map_eq_some_iff.mp h
    obtain ⟨n, hn, -⟩ := Option.bind_eq_some_iff.mp hd
    obtain ⟨s, hs, -⟩ := Option.map_eq_some_iff.mp hn
    exact .inr (.inl ⟨_, d, rfl, by simp [function?, hkind], by simp [event?, hkind, hs],
      readAs_of_abiEvent? hs hd⟩)
  case h_4 hkind =>
    obtain ⟨-, -, h⟩ := Option.bind_eq_some_iff.mp h
    obtain ⟨-, -, h⟩ := Option.bind_eq_some_iff.mp h
    obtain rfl := Option.some.inj h
    exact .inr (.inr ⟨.inl rfl, by simp [function?, hkind], by simp [event?, hkind]⟩)
  case h_5 hkind =>
    obtain rfl := Option.some.inj h
    exact .inr (.inr ⟨.inl rfl, by simp [function?, hkind], by simp [event?, hkind]⟩)
  case h_6 hkind =>
    obtain rfl := Option.some.inj h
    exact .inr (.inr ⟨.inl rfl, by simp [function?, hkind], by simp [event?, hkind]⟩)
  case h_7 => cases h

/-- Functions and events of the entries match, each in the order of the entries. -/
theorem matches_of_mapM {es : List Entry} {xs : List Abi.Entry}
    (h : es.mapM Entry.abi? = some xs) :
    List.Forall₂ Function.Matches (es.filterMap Entry.function?) (Abi.Entry.functions xs) ∧
      List.Forall₂ Event.ReadAs (es.filterMap Entry.event?) (Abi.Entry.events xs) := by
  induction es generalizing xs with
  | nil =>
    obtain rfl : [] = xs := Option.some.inj h
    exact ⟨.nil, .nil⟩
  | cons e rest ih =>
    rw [List.mapM_cons] at h
    obtain ⟨x, hx, h⟩ := Option.bind_eq_some_iff.mp h
    obtain ⟨more, hmore, h⟩ := Option.bind_eq_some_iff.mp h
    obtain rfl : x :: more = xs := Option.some.inj h
    obtain ⟨hfunctions, hevents⟩ := ih hmore
    rcases Entry.abi?_cases hx with ⟨g, rfl, hf, hv, hmatch⟩ | ⟨v, d, rfl, hf, hv, hmatch⟩ |
      ⟨rfl | ⟨is, rfl⟩, hf, hv⟩
    · rw [List.filterMap_cons_some hf, List.filterMap_cons_none hv]
      exact ⟨.cons hmatch hfunctions, hevents⟩
    · rw [List.filterMap_cons_none hf, List.filterMap_cons_some hv]
      exact ⟨hfunctions, .cons hmatch hevents⟩
    · rw [List.filterMap_cons_none hf, List.filterMap_cons_none hv]
      exact ⟨hfunctions, hevents⟩
    · rw [List.filterMap_cons_none hf, List.filterMap_cons_none hv]
      exact ⟨hfunctions, hevents⟩

/-! ## The interface of a document -/

/-- Whether every entry of a document spells out what a binding needs, in words and types that it
knows. -/
def isBindable : Json → Bool
  | .array items => items.all fun x => isComplete x && ((Entry.ofJson? x).bind Entry.abi?).isSome
  | _ => false

theorem getElem?_of_mapM {f : α → Option β} {as : List α} {bs : List β} (h : as.mapM f = some bs)
    {k : Nat} {a : α} (ha : as[k]? = some a) : ∃ b, f a = some b ∧ bs[k]? = some b := by
  induction as generalizing bs k with
  | nil => cases ha
  | cons first rest ih =>
    rw [List.mapM_cons] at h
    obtain ⟨b, hb, h⟩ := Option.bind_eq_some_iff.mp h
    obtain ⟨more, hmore, h⟩ := Option.bind_eq_some_iff.mp h
    obtain rfl : b :: more = bs := Option.some.inj h
    cases k with
    | zero =>
      obtain rfl : first = a := Option.some.inj ha
      exact ⟨b, hb, rfl⟩
    | succ k => exact ih hmore ha

/-- Each parameter of an outline is read with its name and the type that it names. -/
theorem Event.ReadAs.getElem? {e : Event} {d : Abi.Event} (h : e.ReadAs d) {k : Nat} {p : Param}
    (hp : e.inputs[k]? = some p) :
    ∃ t, p.ty? = some t ∧ d.inputs[k]? = some ⟨p.name, t, p.indexed⟩ := by
  obtain ⟨q, hq, hread⟩ := getElem?_of_mapM h.inputs hp
  obtain ⟨t, ht, rfl⟩ := Option.map_eq_some_iff.mp hq
  exact ⟨t, ht, hread⟩

theorem mapM_isSome_iff {f : α → Option β} {as : List α} :
    (as.mapM f).isSome = true ↔ ∀ a ∈ as, (f a).isSome = true := by
  induction as with
  | nil => simp
  | cons a rest ih =>
    rw [List.mapM_cons, List.forall_mem_cons, ← ih]
    cases f a with
    | none => simp
    | some b => cases rest.mapM f <;> simp

section

variable {document : Json} {o : Outline} (ho : ofEntries document = .ok o)
  (hsorted : document.sorted = true)
include ho hsorted

/-- A binding reads the document of an outline exactly if its entries spell out enough. -/
theorem entries?_isSome_iff :
    (Abi.entries? document).isSome = true ↔ isBindable document = true := by
  obtain ⟨items, es, rfl, hes, -⟩ := ofEntries_eq_ok ho
  have hread : ∀ x ∈ items, (Entry.ofJson? x).isSome = true := mapM_isSome_iff.mp (by rw [hes]; rfl)
  have hitem : ∀ x ∈ items, ((Abi.Entry.ofJson? x).isSome = true ↔
      (isComplete x && ((Entry.ofJson? x).bind Entry.abi?).isSome) = true) := by
    intro x hx
    obtain ⟨e, he⟩ := Option.isSome_iff_exists.mp (hread x hx)
    have hiff := fun {y} => translates_entry (q := y) he (Json.sortedItems_iff.mp hsorted x hx)
    rw [Option.isSome_iff_exists, Bool.and_eq_true, he, Option.bind_some,
      Option.isSome_iff_exists]
    constructor
    · rintro ⟨y, hy⟩
      obtain ⟨hcomplete, hy⟩ := hiff.mp hy
      exact ⟨hcomplete, y, hy⟩
    · rintro ⟨hcomplete, y, hy⟩
      exact ⟨y, hiff.mpr ⟨hcomplete, hy⟩⟩
  rw [Abi.entries?, mapM_isSome_iff, isBindable, List.all_eq_true]
  exact forall₂_congr hitem

theorem readAs_of_entries? {xs : List Abi.Entry} (hxs : Abi.entries? document = some xs) :
    List.Forall₂ Function.Matches o.functions (Abi.Entry.functions xs) ∧
      List.Forall₂ Event.ReadAs o.events (Abi.Entry.events xs) := by
  obtain ⟨items, es, rfl, hes, hfunctions, hevents, -⟩ := ofEntries_eq_ok ho
  obtain ⟨-, hmake⟩ := (translates_entry.mapM hes hsorted _).mp hxs
  rw [hfunctions, hevents]
  exact matches_of_mapM hmake

/-- The functions and events that a binding reads match those of the outline, in the order of the
document. -/
theorem matches_of_entries? {xs : List Abi.Entry} (hxs : Abi.entries? document = some xs) :
    List.Forall₂ Function.Matches o.functions (Abi.Entry.functions xs) ∧
      List.Forall₂ Event.Matches o.events (Abi.Entry.events xs) := by
  obtain ⟨hfunctions, hevents⟩ := readAs_of_entries? ho hsorted hxs
  exact ⟨hfunctions, hevents.imp fun _ _ h => h.matches⟩

end

end AbiBindings.Outline
