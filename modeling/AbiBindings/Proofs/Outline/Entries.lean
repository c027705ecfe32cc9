import AbiBindings.Proofs.Outline.Parameters

/-!
# Entries that can be bound

An entry is read by a binding if it spells out the fields of its kind, and then as what the outline
says about it.

* `isComplete`: the entries of documents that spell out what a binding needs.
* `Entry.abi?`: what a binding makes of an entry of an outline.

Results:
* `translates_entry`: what a binding reads from an entry that an outline has read.
-/

namespace AbiBindings.Outline

/-! ## What a binding needs -/

/-- Whether a field is there and is an array of records that can be bound. -/
def hasList (check : Json → Bool) (key : String) (members : List (String × Json)) : Bool :=
  match members.lookup key with
  | some (.array items) => items.all check
  | _ => false

/-- Whether there is a name that is a text. -/
def isNamed (members : List (String × Json)) : Bool :=
  match members.lookup "name" with
  | some (.text _) => true
  | _ => false

/-- Whether the members of an entry spell out what a binding needs for its kind. -/
def hasFields (kind : String) (members : List (String × Json)) : Bool :=
  match kind with
  | "constructor" => hasList isParam "inputs" members
  | "function" =>
    isNamed members && hasList isParam "inputs" members && hasList isParam "outputs" members &&
      members.lookup "stateMutability" != some .null
  | "event" =>
    isNamed members && hasList isEventParam "inputs" members &&
      (members.lookup "anonymous").isSome
  | "error" => isNamed members && hasList isParam "inputs" members
  | "fallback" | "receive" => true
  | _ => false

/-- Whether an entry spells out what a binding needs. -/
def isComplete : Json → Bool
  | .object members =>
    match members.lookup "type" with
    | some (.text kind) => hasFields kind members
    | _ => false
  | .array [.text "function", .text _, .array inputs, .array outputs, .null] =>
    inputs.all isParam && outputs.all isParam
  | _ => false

/-! ## What a binding makes of an entry -/

/-- The name that a binding gives an entry, if it has one. -/
def Entry.abiName? (e : Entry) : Option String := e.name?.map Abi.cutName

/-- The mutability of an entry that does not go by older flags. -/
def Entry.abiMutability? (e : Entry) : Option Abi.Mutability :=
  match e.mutability? with
  | none => some .nonpayable
  | some word => Abi.Mutability.ofJson? (.text word)

/-- The function of an entry. -/
def Entry.abiFunction? (e : Entry) : Option Abi.Function := do
  let name ← e.abiName?
  let inputs ← e.inputs.mapM Param.abi?
  let outputs ← e.outputs.mapM Param.abi?
  let mutability ← e.abiMutability?
  some ⟨name, inputs, outputs, mutability⟩

/-- The event of an entry. -/
def Entry.abiEvent? (e : Entry) : Option Abi.Event := do
  let name ← e.abiName?
  let inputs ← e.inputs.mapM Param.abiEvent?
  some ⟨name, inputs, e.anonymous⟩

/-- What a binding makes of an entry that spells out what it needs. -/
def Entry.abi? (e : Entry) : Option Abi.Entry :=
  match e.kind with
  | "constructor" => (e.inputs.mapM Param.abi?).map .constructor
  | "function" => e.abiFunction?.map .function
  | "event" => e.abiEvent?.map .event
  | "error" => do
    let _ ← e.abiName?
    let _ ← e.inputs.mapM Param.abi?
    some .dropped
  | "fallback" | "receive" => some .dropped
  | _ => none

/-! ## Entries -/

section Entries

variable {members : List (String × Json)} {e : Entry} {key : String}

/-- A list of parameters that is read from a field, empty if there is none. -/
def ReadList (members : List (String × Json)) (key : String) (ps : List Param) : Prop :=
  members.lookup key = none ∧ ps = [] ∨
    ∃ items, members.lookup key = some (.array items) ∧ items.mapM Param.ofJson? = some ps

/-- A text that is read from a field, none if there is none or it is null. -/
def ReadText (members : List (String × Json)) (key : String) (s? : Option String) : Prop :=
  (members.lookup key = none ∨ members.lookup key = some .null) ∧ s? = none ∨
    ∃ s, members.lookup key = some (.text s) ∧ s? = some s

/-- The fields of an entry. -/
structure Entry.Read (members : List (String × Json)) (e : Entry) : Prop where
  kind : members.lookup "type" = none ∧ e.kind = "function" ∨
    members.lookup "type" = some (.text e.kind)
  name : ReadText members "name" e.name?
  inputs : ReadList members "inputs" e.inputs
  outputs : ReadList members "outputs" e.outputs
  mutability : ReadText members "stateMutability" e.mutability?
  constant : members.lookup "constant" = none ∨ ∃ b, members.lookup "constant" = some (.bool b)
  anonymous : members.lookup "anonymous" = none ∧ e.anonymous = false ∨
    members.lookup "anonymous" = some (.bool e.anonymous)

theorem list?_eq_some {read : Json → Option α} {x : Json} {as : List α} :
    list? read x = some as ↔ ∃ items, x = .array items ∧ items.mapM read = some as := by
  cases x <;> simp [list?]

theorem optionalText?_eq_some {x : Json} {s? : Option String} :
    optionalText? x = some s? ↔ x = .null ∧ s? = none ∨ ∃ s, x = .text s ∧ s? = some s := by
  cases x <;> simp [optionalText?, Json.text?, eq_comm]

theorem readText_of_fieldOr {s? : Option String}
    (h : fieldOr members key optionalText? none = some s?) : ReadText members key s? := by
  rcases fieldOr_eq_some.mp h with ⟨hnone, rfl⟩ | ⟨x, hx, hs⟩
  · exact .inl ⟨.inl hnone, rfl⟩
  · rcases optionalText?_eq_some.mp hs with ⟨rfl, rfl⟩ | ⟨s, rfl, rfl⟩
    · exact .inl ⟨.inr hx, rfl⟩
    · exact .inr ⟨s, hx, rfl⟩

theorem readList_of_fieldOr {ps : List Param}
    (h : fieldOr members key (list? Param.ofJson?) [] = some ps) : ReadList members key ps := by
  rcases fieldOr_eq_some.mp h with hnone | ⟨x, hx, hps⟩
  · exact .inl hnone
  · obtain ⟨items, rfl, hps⟩ := list?_eq_some.mp hps
    exact .inr ⟨items, hx, hps⟩

theorem ReadText.of_lookup {s? : Option String} {x : Json} (h : ReadText members key s?)
    (hx : members.lookup key = some x) :
    x = .null ∧ s? = none ∨ ∃ s, x = .text s ∧ s? = some s := by
  simpa [ReadText, hx] using h

theorem ReadList.of_lookup {ps : List Param} {x : Json} (h : ReadList members key ps)
    (hx : members.lookup key = some x) :
    ∃ items, x = .array items ∧ items.mapM Param.ofJson? = some ps := by
  simpa [ReadList, hx] using h

theorem Entry.read_of_ofJson? {j : Json} (h : Entry.ofJson? j = some e) :
    ∃ fields, record? Entry.keys 5 j = some fields ∧ e.Read fields := by
  rw [Entry.ofJson?] at h
  obtain ⟨fields, hfields, h⟩ := Option.bind_eq_some_iff.mp h
  obtain ⟨kind, hkind, h⟩ := Option.bind_eq_some_iff.mp h
  obtain ⟨name, hname, h⟩ := Option.bind_eq_some_iff.mp h
  obtain ⟨inputs, hinputs, h⟩ := Option.bind_eq_some_iff.mp h
  obtain ⟨outputs, houtputs, h⟩ := Option.bind_eq_some_iff.mp h
  obtain ⟨mutability, hmutability, h⟩ := Option.bind_eq_some_iff.mp h
  obtain ⟨constant, hconstant, h⟩ := Option.bind_eq_some_iff.mp h
  obtain ⟨payable, -, h⟩ := Option.bind_eq_some_iff.mp h
  obtain ⟨anonymous, hanonymous, h⟩ := Option.bind_eq_some_iff.mp h
  obtain rfl := Option.some.inj h
  refine ⟨fields, hfields, ?_, readText_of_fieldOr hname, readList_of_fieldOr hinputs,
    readList_of_fieldOr houtputs, readText_of_fieldOr hmutability, ?_, ?_⟩
  · rcases fieldOr_eq_some.mp hkind with hnone | ⟨x, hx, hs⟩
    · exact .inl hnone
    · obtain rfl := Abi.text?_eq_some.mp hs
      exact .inr hx
  · rcases fieldOr_eq_some.mp hconstant with ⟨hnone, -⟩ | ⟨x, hx, hb⟩
    · exact .inl hnone
    · obtain rfl := Abi.bool?_eq_some.mp hb
      exact .inr ⟨_, hx⟩
  · rcases fieldOr_eq_some.mp hanonymous with hnone | ⟨x, hx, hb⟩
    · exact .inl hnone
    · obtain rfl := Abi.bool?_eq_some.mp hb
      exact .inr hx

/-- A field of parameters that a binding reads. -/
theorem field?_list {read : Json → Option α} {check : Json → Bool} {make : Param → Option α}
    (htranslates : Translates Param.ofJson? read check make)
    (hsorted : (Json.object members).sorted = true) {ps : List Param}
    (hps : ReadList members key ps) (qs : List α) :
    (∃ items, Abi.field? key members = some (.array items) ∧ items.mapM read = some qs) ↔
      hasList check key members = true ∧ ps.mapM make = some qs := by
  obtain ⟨hascending, hvalues⟩ := Json.sortedMembers_iff.mp hsorted
  rw [Abi.field?_of_ascending hascending, hasList]
  rcases hps with ⟨hnone, rfl⟩ | ⟨items, hitems, hps⟩
  · simp [hnone]
  · have hmem : (key, Json.array items) ∈ members := by
      apply Abi.mem_of_field?
      rw [Abi.field?_of_ascending hascending, hitems]
    have hall := htranslates.mapM hps (hvalues _ hmem) qs
    simp [hitems, hall]

theorem params?_eq_some {x : Json} {qs : List Abi.Param} :
    Abi.params? x = some qs ↔
      ∃ items, x = .array items ∧ items.mapM Abi.Param.ofJson? = some qs := by
  cases x <;> simp [Abi.params?, Abi.items?]

theorem eventParams?_eq_some {x : Json} {qs : List Abi.EventParam} :
    Abi.eventParams? x = some qs ↔
      ∃ items, x = .array items ∧ items.mapM Abi.EventParam.ofJson? = some qs := by
  cases x <;> simp [Abi.eventParams?, Abi.items?]

theorem field?_abiName? {n : String} (h : Json.Ascending members) (hread : e.Read members) :
    (∃ x, Abi.field? "name" members = some x ∧ Abi.name? x = some n) ↔
      isNamed members = true ∧ e.abiName? = some n := by
  rw [Abi.field?_of_ascending h, isNamed, Entry.abiName?]
  rcases hread.name with ⟨hnone | hnull, hname⟩ | ⟨s, hs, hname⟩
  · simp [hnone]
  · simp [hnull, Abi.name?, Json.text?]
  · simp [hs, hname, Abi.name?, Json.text?]

theorem Entry.Read.flag?_constant (hread : e.Read members) :
    ∀ y ∈ members.lookup "constant", Abi.flag? y = some () := by
  intro y hy
  rcases hread.constant with hnone | ⟨b, hb⟩
  · simp [hnone] at hy
  · obtain rfl : Json.bool b = y := by simpa [hb] using hy
    rfl

/-- The mutability that a binding reads. A null is none to the outline, but refused by a binding. -/
theorem Entry.Read.mutability_iff (hread : e.Read members) (m : Abi.Mutability) :
    (members.lookup "stateMutability").elim (some .nonpayable) Abi.Mutability.ofJson? = some m ↔
      (members.lookup "stateMutability" != some .null) = true ∧ e.abiMutability? = some m := by
  rw [Entry.abiMutability?]
  rcases hread.mutability with ⟨hnone | hnull, hword⟩ | ⟨word, hs, hword⟩
  · simp [hnone, hword]
  · simp [hnull, Abi.Mutability.ofJson?]
  · simp [hs, hword]

theorem field?_anonymous (h : Json.Ascending members) (hread : e.Read members) (b : Bool) :
    Abi.field? "anonymous" members = some (.bool b) ↔
      (members.lookup "anonymous").isSome = true ∧ e.anonymous = b := by
  rw [Abi.field?_of_ascending h]
  rcases hread.anonymous with ⟨hnone, -⟩ | hsome
  · simp [hnone]
  · simp [hsome]

variable {x : Abi.Entry}

theorem constructor_iff (hsorted : (Json.object members).sorted = true) (hread : e.Read members) :
    Abi.entryOfMembers? "constructor" members = some x ↔
      hasList isParam "inputs" members = true ∧
        (e.inputs.mapM Param.abi?).map .constructor = some x := by
  have hfield : Abi.entryOfMembers? "constructor" members =
      (Abi.field? "inputs" members).bind fun inputs => (Abi.params? inputs).bind fun is =>
        some (.constructor is) := rfl
  have hlist := field?_list translates_param hsorted hread.inputs
  simp only [hfield, Option.bind_eq_some_iff, Option.map_eq_some_iff, params?_eq_some,
    Option.some.injEq]
  constructor
  · rintro ⟨_, hx, qs, ⟨items, rfl, hqs⟩, rfl⟩
    obtain ⟨hall, hqs⟩ := (hlist _).mp ⟨items, hx, hqs⟩
    exact ⟨hall, qs, hqs, rfl⟩
  · rintro ⟨hall, qs, hqs, rfl⟩
    obtain ⟨items, hx, hqs⟩ := (hlist _).mpr ⟨hall, hqs⟩
    exact ⟨_, hx, qs, ⟨items, rfl, hqs⟩, rfl⟩

theorem error_iff (hsorted : (Json.object members).sorted = true) (hread : e.Read members) :
    Abi.entryOfMembers? "error" members = some x ↔
      (isNamed members && hasList isParam "inputs" members) = true ∧
        (e.abiName?.bind fun _ => (e.inputs.mapM Param.abi?).bind fun _ => some .dropped) =
          some x := by
  obtain ⟨hascending, -⟩ := Json.sortedMembers_iff.mp hsorted
  have hfield : Abi.entryOfMembers? "error" members =
      (Abi.field? "name" members).bind fun name => (Abi.field? "inputs" members).bind
        (Abi.error? name) := rfl
  have hlist := field?_list translates_param hsorted hread.inputs
  have hname := fun {n} => field?_abiName? (n := n) hascending hread
  simp only [hfield, Option.bind_eq_some_iff, Abi.error?, params?_eq_some, Option.bind_eq_bind,
    Option.some.injEq, Bool.and_eq_true]
  constructor
  · rintro ⟨name, hn, _, hx, n, hcut, qs, ⟨items, rfl, hqs⟩, rfl⟩
    obtain ⟨hall, hqs⟩ := (hlist _).mp ⟨items, hx, hqs⟩
    obtain ⟨hnamed, hname⟩ := hname.mp ⟨name, hn, hcut⟩
    exact ⟨⟨hnamed, hall⟩, n, hname, qs, hqs, rfl⟩
  · rintro ⟨⟨hnamed, hall⟩, n, hn, qs, hqs, rfl⟩
    obtain ⟨items, hx, hqs⟩ := (hlist _).mpr ⟨hall, hqs⟩
    obtain ⟨name, hn, hcut⟩ := hname.mpr ⟨hnamed, hn⟩
    exact ⟨name, hn, _, hx, _, hcut, qs, ⟨items, rfl, hqs⟩, rfl⟩

theorem event_iff (hsorted : (Json.object members).sorted = true) (hread : e.Read members) :
    Abi.entryOfMembers? "event" members = some x ↔
      (isNamed members && hasList isEventParam "inputs" members &&
          (members.lookup "anonymous").isSome) = true ∧
        e.abiEvent?.map .event = some x := by
  obtain ⟨hascending, -⟩ := Json.sortedMembers_iff.mp hsorted
  have hfield : Abi.entryOfMembers? "event" members =
      (Abi.field? "name" members).bind fun name => (Abi.field? "inputs" members).bind fun inputs =>
        (Abi.field? "anonymous" members).bind (Abi.event? name inputs) := rfl
  have hlist := field?_list translates_eventParam hsorted hread.inputs
  have hname := fun {n} => field?_abiName? (n := n) hascending hread
  simp only [hfield, Option.bind_eq_some_iff, Option.map_eq_some_iff, Abi.event?,
    eventParams?_eq_some, Option.bind_eq_bind, Option.some.injEq, Bool.and_eq_true,
    Entry.abiEvent?, Abi.bool?_eq_some]
  constructor
  · rintro ⟨name, hn, _, hx, _, ha, n, hcut, qs, ⟨items, rfl, hqs⟩, b, rfl, rfl⟩
    obtain ⟨hall, hqs⟩ := (hlist _).mp ⟨items, hx, hqs⟩
    obtain ⟨hnamed, hname⟩ := hname.mp ⟨name, hn, hcut⟩
    obtain ⟨hsome, hb⟩ := (field?_anonymous hascending hread b).mp ha
    exact ⟨⟨⟨hnamed, hall⟩, hsome⟩, _, ⟨n, hname, qs, hqs, rfl⟩, by rw [hb]⟩
  · rintro ⟨⟨⟨hnamed, hall⟩, hsome⟩, _, ⟨n, hn, qs, hqs, rfl⟩, rfl⟩
    obtain ⟨items, hx, hqs⟩ := (hlist _).mpr ⟨hall, hqs⟩
    obtain ⟨name, hn, hcut⟩ := hname.mpr ⟨hnamed, hn⟩
    have ha := (field?_anonymous hascending hread _).mpr ⟨hsome, rfl⟩
    exact ⟨name, hn, _, hx, _, ha, _, hcut, qs, ⟨items, rfl, hqs⟩, _, rfl, rfl⟩

theorem function_iff (hsorted : (Json.object members).sorted = true) (hread : e.Read members) :
    Abi.entryOfMembers? "function" members = some x ↔
      (isNamed members && hasList isParam "inputs" members && hasList isParam "outputs" members &&
          members.lookup "stateMutability" != some .null) = true ∧
        e.abiFunction?.map .function = some x := by
  obtain ⟨hascending, -⟩ := Json.sortedMembers_iff.mp hsorted
  have hfield : Abi.entryOfMembers? "function" members =
      (Abi.field? "name" members).bind fun name => (Abi.field? "inputs" members).bind fun inputs =>
        (Abi.field? "outputs" members).bind fun outputs =>
          (Abi.optionalField? "constant" members).bind fun constant =>
            (Abi.optionalField? "stateMutability" members).bind
              (Abi.function? name inputs outputs constant) := rfl
  have hinputs := field?_list translates_param hsorted hread.inputs
  have houtputs := field?_list translates_param hsorted hread.outputs
  have hname := fun {n} => field?_abiName? (n := n) hascending hread
  simp only [hfield, Option.bind_eq_some_iff, Option.map_eq_some_iff, Abi.function?_eq_some,
    params?_eq_some, Option.bind_eq_bind, Option.some.injEq, Bool.and_eq_true,
    Entry.abiFunction?, Abi.optionalField?_of_ascending hascending, exists_eq_left',
    hread.mutability_iff]
  constructor
  · rintro ⟨name, hn, _, hi, _, ho, n, is, os, m, hcut, ⟨items, rfl, his⟩, ⟨items', rfl, hos⟩, -,
      ⟨hword, hm⟩, rfl⟩
    obtain ⟨hnamed, hname⟩ := hname.mp ⟨name, hn, hcut⟩
    obtain ⟨hall, his⟩ := (hinputs _).mp ⟨items, hi, his⟩
    obtain ⟨hall', hos⟩ := (houtputs _).mp ⟨items', ho, hos⟩
    exact ⟨⟨⟨⟨hnamed, hall⟩, hall'⟩, hword⟩, _, ⟨n, hname, is, his, os, hos, m, hm, rfl⟩, rfl⟩
  · rintro ⟨⟨⟨⟨hnamed, hall⟩, hall'⟩, hword⟩, _, ⟨n, hn, is, his, os, hos, m, hm, rfl⟩, rfl⟩
    obtain ⟨name, hn, hcut⟩ := hname.mpr ⟨hnamed, hn⟩
    obtain ⟨items, hi, his⟩ := (hinputs _).mpr ⟨hall, his⟩
    obtain ⟨items', ho, hos⟩ := (houtputs _).mpr ⟨hall', hos⟩
    exact ⟨name, hn, _, hi, _, ho, _, is, os, m, hcut, ⟨items, rfl, his⟩, ⟨items', rfl, hos⟩,
      hread.flag?_constant, ⟨hword, hm⟩, rfl⟩

/-- What a binding reads from the members of an entry. -/
theorem entryOfMembers?_iff (hsorted : (Json.object members).sorted = true)
    (hread : e.Read members) :
    Abi.entryOfMembers? e.kind members = some x ↔
      hasFields e.kind members = true ∧ e.abi? = some x := by
  have hconstructor := constructor_iff (x := x) hsorted hread
  have hfunction := function_iff (x := x) hsorted hread
  have hevent := event_iff (x := x) hsorted hread
  have herror := error_iff (x := x) hsorted hread
  unfold hasFields Entry.abi?
  split
  case h_1 hkind => rw [hkind]; exact hconstructor
  case h_2 hkind => rw [hkind]; exact hfunction
  case h_3 hkind => rw [hkind]; exact hevent
  case h_4 hkind => rw [hkind]; exact herror
  case h_5 hkind => rw [hkind]; simp [Abi.entryOfMembers?]
  case h_6 hkind => rw [hkind]; simp [Abi.entryOfMembers?]
  case h_7 => simp_all [Abi.entryOfMembers?]

/-- The fields of an entry that is an array, which has five of them or more. -/
theorem record?_array {items : List Json} {fields : List (String × Json)}
    (h : record? Entry.keys 5 (.array items) = some fields) :
    ∃ kind name inputs outputs mutability rest,
      items = kind :: name :: inputs :: outputs :: mutability :: rest ∧
      fields.lookup "type" = some kind ∧ fields.lookup "name" = some name ∧
      fields.lookup "inputs" = some inputs ∧ fields.lookup "outputs" = some outputs ∧
      fields.lookup "stateMutability" = some mutability ∧
      fields.lookup "constant" = rest.head? := by
  rw [record?] at h
  split at h
  case isFalse => cases h
  case isTrue hlength =>
    obtain rfl := Option.some.inj h
    rcases items with _ | ⟨kind, _ | ⟨name, _ | ⟨inputs, _ | ⟨outputs, _ | ⟨mutability, rest⟩⟩⟩⟩⟩
    case cons.cons.cons.cons.cons =>
      refine ⟨kind, name, inputs, outputs, mutability, rest, rfl, rfl, rfl, rfl, rfl, rfl, ?_⟩
      cases rest <;> rfl
    all_goals simp at hlength

/-- A function that is an array of five fields, the last of them null. -/
theorem function_five_iff {name : Json} {is os : List Json}
    (hname : name = .null ∧ e.name? = none ∨ ∃ s, name = .text s ∧ e.name? = some s)
    (hmutability : e.mutability? = none) (his : is.mapM Param.ofJson? = some e.inputs)
    (hos : os.mapM Param.ofJson? = some e.outputs)
    (hsorted : (Json.array is).sorted = true ∧ (Json.array os).sorted = true) :
    Abi.function? name (.array is) (.array os) (some .null) none = some x ↔
      isComplete (.array [.text "function", name, .array is, .array os, .null]) = true ∧
        e.abiFunction?.map .function = some x := by
  have hinputs := translates_param.mapM his hsorted.1
  have houtputs := translates_param.mapM hos hsorted.2
  rw [Abi.function?_eq_some]
  rcases hname with ⟨rfl, -⟩ | ⟨s, rfl, hs⟩
  · simp [isComplete, Abi.name?, Json.text?]
  simp only [isComplete, Bool.and_eq_true, Option.map_eq_some_iff, params?_eq_some,
    Json.array.injEq, exists_eq_left', hinputs, houtputs, Abi.name?, Json.text?,
    Entry.abiFunction?, Entry.abiMutability?, Entry.abiName?, hmutability, hs,
    Option.bind_eq_bind, Option.bind_eq_some_iff, Option.some.injEq, Option.map_some]
  constructor
  · rintro ⟨_, is', os', m, rfl, ⟨hall, his⟩, ⟨hall', hos⟩, -, hm, rfl⟩
    obtain rfl := Option.some.inj hm
    exact ⟨⟨hall, hall'⟩, _, ⟨is', his, os', hos, rfl⟩, rfl⟩
  · rintro ⟨⟨hall, hall'⟩, _, ⟨is', his, os', hos, rfl⟩, rfl⟩
    have hflag : ∀ y ∈ some Json.null, Abi.flag? y = some () := by
      rintro _ ⟨⟩
      rfl
    exact ⟨_, is', os', _, rfl, ⟨hall, his⟩, ⟨hall', hos⟩, hflag, rfl, rfl⟩

/-- A function that is an array is bound if it has five fields, the last of them null. -/
theorem function_array_iff {name inputs outputs mutability : Json} {rest : List Json}
    {fields : List (String × Json)} (hread : e.Read fields) (hkind : e.kind = "function")
    (hname : fields.lookup "name" = some name) (hinputs : fields.lookup "inputs" = some inputs)
    (houtputs : fields.lookup "outputs" = some outputs)
    (hmutability : fields.lookup "stateMutability" = some mutability)
    (hconstant : fields.lookup "constant" = rest.head?)
    (hsorted : inputs.sorted = true ∧ outputs.sorted = true) :
    Abi.entryOfItems? "function" (name :: inputs :: outputs :: mutability :: rest) = some x ↔
      isComplete
          (.array (.text "function" :: name :: inputs :: outputs :: mutability :: rest)) = true ∧
        e.abi? = some x := by
  have habi : e.abi? = e.abiFunction?.map .function := by rw [Entry.abi?, hkind]; rfl
  obtain ⟨is, rfl, his⟩ := hread.inputs.of_lookup hinputs
  obtain ⟨os, rfl, hos⟩ := hread.outputs.of_lookup houtputs
  rw [habi]
  match rest with
  | [] =>
    have hitems : Abi.entryOfItems? "function" [name, .array is, .array os, mutability] =
        Abi.function? name (.array is) (.array os) (some mutability) none := rfl
    rw [hitems]
    rcases hread.mutability.of_lookup hmutability with ⟨rfl, hword⟩ | ⟨word, rfl, -⟩
    · exact function_five_iff (hread.name.of_lookup hname) hword his hos hsorted
    · simp [Abi.function?_eq_some, isComplete, Abi.flag?]
  | [constant] =>
    obtain ⟨b, rfl⟩ : ∃ b, constant = .bool b := by simpa [hconstant] using hread.constant
    have hitems : Abi.entryOfItems? "function" [name, .array is, .array os, mutability, .bool b] =
        Abi.function? name (.array is) (.array os) (some mutability) (some (.bool b)) := rfl
    rw [hitems, Abi.function?_eq_some]
    simp [isComplete, Abi.Mutability.ofJson?]
  | _ :: _ :: _ => simp [isComplete, Abi.entryOfItems?]

/-- An array of five fields or more that is no function is refused. -/
theorem other_array {kind : String} (name inputs outputs mutability : Json) (rest : List Json)
    (hfunction : kind ≠ "function") :
    Abi.entryOfItems? kind (name :: inputs :: outputs :: mutability :: rest) = none ∧
      isComplete (.array (.text kind :: name :: inputs :: outputs :: mutability :: rest)) =
        false := by
  constructor
  · unfold Abi.entryOfItems?
    split <;> simp_all
  · unfold isComplete
    split <;> simp_all

/-- What a binding reads from an entry that an outline has read: nothing, unless the entry spells
out enough. -/
theorem translates_entry : Translates Entry.ofJson? Abi.Entry.ofJson? isComplete Entry.abi? := by
  intro j e x he hsorted
  obtain ⟨fields, hfields, hread⟩ := Entry.read_of_ofJson? he
  cases j with
  | object members =>
    obtain rfl := Option.some.inj hfields
    obtain ⟨hascending, -⟩ := Json.sortedMembers_iff.mp hsorted
    rw [Abi.Entry.ofJson?, Abi.field?_of_ascending hascending, isComplete]
    rcases hread.kind with ⟨hnone, -⟩ | hkind
    · simp [hnone]
    · simp only [hkind, Option.bind_eq_bind, Option.bind_some, Json.text?]
      exact entryOfMembers?_iff hsorted hread
  | array items =>
    obtain ⟨kind, name, inputs, outputs, mutability, rest, rfl, hkind, hname, hinputs, houtputs,
      hmutability, hconstant⟩ := record?_array hfields
    have hsome : kind = .text e.kind := by
      rcases hread.kind with ⟨hnone, -⟩ | hsome
      · simp [hnone] at hkind
      · exact Option.some.inj (hkind.symm.trans hsome)
    subst hsome
    have hentry : Abi.Entry.ofJson?
          (.array (.text e.kind :: name :: inputs :: outputs :: mutability :: rest)) =
        Abi.entryOfItems? e.kind (name :: inputs :: outputs :: mutability :: rest) := rfl
    rw [hentry]
    by_cases hfunction : e.kind = "function"
    · have hitems := Json.sortedItems_iff.mp hsorted
      rw [hfunction]
      exact function_array_iff hread hfunction hname hinputs houtputs hmutability hconstant
        ⟨hitems inputs (by simp), hitems outputs (by simp)⟩
    · obtain ⟨hnone, hfalse⟩ := other_array name inputs outputs mutability rest hfunction
      simp [hnone, hfalse]
  | _ => cases hfields

end Entries

end AbiBindings.Outline
