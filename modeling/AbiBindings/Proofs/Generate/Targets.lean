import AbiBindings.Generate.Module
import AbiBindings.Proofs.Contract.Lookup
import AbiBindings.Proofs.Generate.Names
import AbiBindings.Proofs.Outline.Signatures

/-!
# Targets of generated methods

A generated method addresses its function by its name, or by its signature if it is overloaded, and
a generated event type has the signature of its event. At run time both are looked up in the
interface of the embedded document, which orders its entries in another way and makes signatures of
types instead of texts.

* `Outline.Canonical`: types whose spelling means the same at run time.
* `Abi.Interface.Distinct`: an interface without two entries of one hash.

Results:
* `Contract.function_targetOf`, `Contract.event_signature`: what the target of an entry selects.
* `targets_resolve`: every target selects the entry that it was generated from.
* `not_targets_resolve_function`: the word `function` is a canonical spelling as well, but at run
  time it is the name of an enumeration.
-/

namespace AbiBindings

open Outline (Named)

/-! ## Names in a module -/

namespace Generate

/-- What is made of entries with names for them corresponds to what the entries correspond to. -/
theorem forall₂_zip_names {R : α → β → Prop} {S : γ → β → Prop} {make : α → String → γ}
    {as : List α} {bs : List β} {names : List String} (h : List.Forall₂ R as bs)
    (hlength : names.length = as.length) (hmake : ∀ a b name, R a b → S (make a name) b) :
    List.Forall₂ S ((as.zip names).map fun p => make p.1 p.2) bs := by
  induction h generalizing names with
  | nil => exact .nil
  | cons hab _ ih =>
    cases names with
    | nil => cases hlength
    | cons name names => exact .cons (hmake _ _ name hab) (ih (Nat.succ.inj hlength))

end Generate

/-! ## Lookups in an interface -/

namespace Abi

/-- Whether no two functions of an interface have one selector, and no two events one hash. -/
structure Interface.Distinct (i : Interface) : Prop where
  selectors : (i.functions.map (·.selector)).Nodup
  topics : (i.events.map (·.topic)).Nodup

/-- An entry with a key of its own is found by the key. -/
theorem find?_of_nodup [BEq κ] [LawfulBEq κ] {key : α → κ} {as : List α} {a : α}
    (h : (as.map key).Nodup) (ha : a ∈ as) : (as.find? fun x => key x == key a) = some a := by
  cases hfind : as.find? fun x => key x == key a with
  | none => exact absurd (beq_self_eq_true _) (List.find?_eq_none.mp hfind a ha)
  | some x =>
    have hx : key x = key a := by simpa using List.find?_some hfind
    rw [List.inj_on_of_nodup_map h (List.mem_of_find?_eq_some hfind) ha hx]

theorem parenthesis_mem_signature (name : String) (types : List Ty) :
    '(' ∈ (signature name types).toList := by
  simp [signature, Ty.list]

theorem Interface.Distinct.function? {i : Interface} {g : Function} (h : i.Distinct)
    (hg : g ∈ i.functions) : i.function? g.signature = some g := by
  have hparenthesis : g.signature.toList.contains '(' = true := by
    simpa [Function.signature] using parenthesis_mem_signature g.name g.inputTypes
  rw [Interface.function?, if_pos hparenthesis]
  exact find?_of_nodup h.selectors hg

theorem Interface.Distinct.event? {i : Interface} {d : Event} (h : i.Distinct)
    (hd : d ∈ i.events) : i.event? d.signature = some d :=
  find?_of_nodup h.topics hd

end Abi

/-! ## Targets -/

/-- Whether the types that the targets of an outline spell are in canonical spelling: those of
overloaded functions and of events. -/
structure Outline.Canonical (Words : String → Abi.Ty → Prop) (o : Outline) : Prop where
  overloads : ∀ f ∈ o.functions, o.isOverloaded f.name = true → ∀ p ∈ f.inputs, p.Spelled Words
  events : ∀ e ∈ o.events, ∀ p ∈ e.inputs, p.Spelled Words

section

variable {o : Outline} {i : Abi.Interface}

/-- A function whose name no other function of the outline has is alone of its name in the
interface. -/
theorem sole_of_names {gs : List Abi.Function} {f : Outline.Function} {g : Abi.Function}
    (hnames : List.Forall₂ (fun f g => f.name = g.name) o.functions gs)
    (hperm : i.functions.Perm gs) (hg : g ∈ gs) (hname : f.name = g.name)
    (hplain : '(' ∉ f.name.toList) (halone : o.isOverloaded f.name = false) : i.Sole g := by
  rw [hname] at hplain halone
  have hsame : List.Forall₂ (fun f g => f.name = g.name)
      (o.functions.filter fun f' => f'.name == g.name)
      (gs.filter fun g' => g'.name == g.name) :=
    List.rel_filter (fun f' g' h => by simp [h]) hnames
  have hlength : (gs.filter fun g' => g'.name == g.name).length ≤ 1 := by
    rw [← hsame.length_eq]
    simpa [Outline.isOverloaded] using halone
  have hmem : g ∈ gs.filter fun g' => g'.name == g.name := List.mem_filter.mpr ⟨hg, by simp⟩
  have hsingle : (gs.filter fun g' => g'.name == g.name) = [g] := by
    obtain ⟨g', hg'⟩ := List.length_eq_one_iff.mp
      (Nat.le_antisymm hlength (List.length_pos_of_mem hmem))
    rw [hg'] at hmem ⊢
    rw [List.mem_singleton.mp hmem]
  have hfilter := hperm.filter fun g' => g'.name == g.name
  rw [hsingle] at hfilter
  exact ⟨List.perm_singleton.mp hfilter, hplain⟩

namespace Contract

/-- The target of a function selects the function that corresponds to it. -/
theorem function_targetOf {gs : List Abi.Function} {f : Outline.Function} {g : Abi.Function}
    (address : Address) (hnames : List.Forall₂ (fun f g => f.name = g.name) o.functions gs)
    (hperm : i.functions.Perm gs) (hdistinct : i.Distinct) (hplain : '(' ∉ f.name.toList)
    (hspelled : o.isOverloaded f.name = true → ∀ p ∈ f.inputs, p.Spelled Abi.Ty.Keyword)
    (hg : g ∈ gs) (hagrees : f.Agrees g) :
    (⟨address, i⟩ : Contract).function (Generate.targetOf o f) = .ok g := by
  rw [Generate.targetOf]
  split
  · rename_i hoverloaded
    rw [(hagrees.selector (hspelled hoverloaded)).1, function,
      hdistinct.function? (hperm.mem_iff.mpr hg)]
  · rename_i halone
    have hsole := sole_of_names hnames hperm hg hagrees.name hplain (by simpa using halone)
    rw [hagrees.name, function, hsole.function?]

/-- The signature of an event selects the event that corresponds to it. -/
theorem event_signature {e : Outline.Event} {d : Abi.Event} (address : Address)
    (hdistinct : i.Distinct) (hspelled : ∀ p ∈ e.inputs, p.Spelled Abi.Ty.Keyword)
    (hd : d ∈ i.events) (hagrees : e.Agrees d) :
    (⟨address, i⟩ : Contract).event e.signature = .ok d := by
  rw [(hagrees.topic hspelled).1, event, hdistinct.event? hd]

end Contract

namespace Generate

variable {text : String}

/-- The embedded document of a text that both readers accept has the interface of the text. There
every target selects the entry of its function, and every signature the entry of its event, which
has as many inputs as the event type has fields. -/
theorem targets_resolve (ho : Outline.parse text = .ok o) (hi : Abi.Interface.parse? text = some i)
    (hplain : o.Plain) (hcanonical : o.Canonical Abi.Ty.Keyword) (hdistinct : i.Distinct)
    (address : Address) (contract : String) (deployable : Bool) :
    Abi.Interface.parse? o.document.pretty = some i ∧
      ∃ xs, Abi.entries? o.document = some xs ∧
        List.Forall₂ Outline.Function.Matches o.functions (Abi.Entry.functions xs) ∧
        List.Forall₂ Outline.Event.Matches o.events (Abi.Entry.events xs) ∧
        List.Forall₂ (fun m g => (⟨address, i⟩ : Contract).function m.target = .ok g)
          (Module.ofOutline contract deployable o).methods (Abi.Entry.functions xs) ∧
        List.Forall₂ (fun r d => (⟨address, i⟩ : Contract).event r.signature = .ok d ∧
            d.inputs.length = r.fields.length)
          (Module.ofOutline contract deployable o).events (Abi.Entry.events xs) := by
  obtain ⟨xs, hxs, rfl, hfunctions, hevents⟩ := Outline.matches_of_parse ho hi
  have hembedded := Outline.interface_pretty ho
  rw [hxs] at hembedded
  refine ⟨hembedded, xs, hxs, hfunctions, hevents, ?_, ?_⟩
  · have hagree := (Outline.forall₂_mem hfunctions).imp fun f g ⟨hf, hg, h⟩ =>
      (⟨hf, hg, h.agrees (hplain.functions f hf)⟩ :
        f ∈ o.functions ∧ g ∈ Abi.Entry.functions xs ∧ f.Agrees g)
    have hnames := hagree.imp fun f g ⟨_, _, h⟩ => h.name
    refine forall₂_zip_names hagree (length_methodNames o) fun f g name ⟨hf, hg, h⟩ => ?_
    exact Contract.function_targetOf address hnames (Abi.perm_orderedByName _ _) hdistinct
      (hplain.functions f hf) (hcanonical.overloads f hf) hg h
  · have hlength := length_eventTypeNames (Text.pascalCase contract) o
    refine forall₂_zip_names (Outline.forall₂_mem hevents) hlength fun e d name ⟨he, hd, h⟩ => ?_
    refine ⟨Contract.event_signature address hdistinct (hcanonical.events e he)
      (Abi.mem_orderedByName.mpr hd) (h.agrees (hplain.events e he)), ?_⟩
    rw [EventRecord.ofEvent, List.length_map, List.length_zipIdx, h.inputs.length_eq,
      Abi.Event.inputTypes, List.length_map]

/-- The outline of two overloads of a setter, a function beside them and an event. -/
def settings : Outline where
  constructor? := none
  functions := [
    ⟨"set", [⟨"value", "uint256", none, false⟩], [], "nonpayable"⟩,
    ⟨"reset", [], [], "nonpayable"⟩,
    ⟨"set", [⟨"value", "address", none, false⟩], [], "nonpayable"⟩]
  events := [⟨"Changed", [⟨"by", "address", none, true⟩], false⟩]
  document := .array [
    .object [
      ("inputs", .array [.object [("name", .text "value"), ("type", .text "uint256")]]),
      ("name", .text "set"), ("outputs", .array []), ("type", .text "function")],
    .object [
      ("inputs", .array []), ("name", .text "reset"), ("outputs", .array []),
      ("type", .text "function")],
    .object [
      ("inputs", .array [.object [("name", .text "value"), ("type", .text "address")]]),
      ("name", .text "set"), ("outputs", .array []), ("type", .text "function")],
    .object [
      ("anonymous", .bool false),
      ("inputs", .array [.object [
        ("indexed", .bool true), ("name", .text "by"), ("type", .text "address")]]),
      ("name", .text "Changed"), ("type", .text "event")]]

/-- The function beside the overloads. -/
def reset : Abi.Function := ⟨"reset", [], [], .nonpayable⟩

/-- The event of the settings. -/
def changed : Abi.Event := ⟨"Changed", [⟨"by", .address, true⟩], false⟩

/-- The interface of the settings, ordered by name. -/
def settingsInterface : Abi.Interface where
  constructor? := none
  functions := [reset, Contract.setter (.uint 256), Contract.setter .address]
  events := [changed]

theorem read_settings : Json.parse settings.document.pretty = some settings.document :=
  Json.parse_pretty_self rfl rfl (by decide)

theorem distinct_settings : settingsInterface.Distinct := by
  have hshort : ∀ f ∈ settingsInterface.functions, (utf8 f.signature).length < Keccak.rate := by
    decide +kernel
  have hselectors := List.map_congr_left fun f hf => Contract.selector_of_short (hshort f hf)
  refine ⟨?_, List.nodup_singleton _⟩
  rw [hselectors]
  decide +kernel

theorem canonical_settings : settings.Canonical Abi.Ty.Keyword := by
  have huint := Outline.Param.spelled_uint256 "value" false
  have haddress := Outline.Param.spelled_address "value" false
  constructor
  · intro f hf _
    simp only [settings, List.mem_cons, List.not_mem_nil, or_false] at hf
    rcases hf with rfl | rfl | rfl <;> simp [huint, haddress]
  · simp [settings, Outline.Param.spelled_address]

/-- The overloads are addressed by their signatures, the function beside them by its name. -/
theorem settings_resolve :
    let c : Contract := ⟨Address.zero, settingsInterface⟩
    c.function "set(uint256)" = .ok (Contract.setter (.uint 256)) ∧
      c.function "reset" = .ok reset ∧
      c.function "set(address)" = .ok (Contract.setter .address) ∧
      c.event "Changed(address)" = .ok changed := by
  intro c
  have ho : Outline.parse settings.document.pretty = .ok settings :=
    (Outline.parse_of_read read_settings).trans rfl
  have hi : Abi.Interface.parse? settings.document.pretty = some settingsInterface :=
    (Outline.interface_of_read read_settings).trans rfl
  obtain ⟨-, xs, hxs, -, -, hfunctions, hevents⟩ := targets_resolve ho hi ⟨by decide, by decide⟩
    canonical_settings distinct_settings Address.zero "Settings" false
  have hentries : (Abi.entries? settings.document).map
      (fun xs => (Abi.Entry.functions xs, Abi.Entry.events xs)) =
      some ([Contract.setter (.uint 256), reset, Contract.setter .address], [changed]) := rfl
  rw [hxs] at hentries
  obtain ⟨hfs, hes⟩ := Prod.mk.inj (Option.some.inj hentries)
  have htargets : (Module.ofOutline "Settings" false settings).methods.map (·.target) =
      ["set(uint256)", "reset", "set(address)"] := rfl
  have hsignatures : (Module.ofOutline "Settings" false settings).events.map (·.signature) =
      ["Changed(address)"] := rfl
  have hlookups : List.Forall₂ (fun t g => c.function t = .ok g)
      ["set(uint256)", "reset", "set(address)"]
      [Contract.setter (.uint 256), reset, Contract.setter .address] := by
    rw [← htargets, ← hfs]
    exact List.forall₂_map_left_iff.mpr hfunctions
  have hevent : List.Forall₂ (fun s d => c.event s = .ok d) ["Changed(address)"] [changed] := by
    rw [← hsignatures, ← hes]
    exact List.forall₂_map_left_iff.mpr (hevents.imp fun r d h => h.1)
  simp only [List.forall₂_cons] at hlookups hevent
  exact ⟨hlookups.1, hlookups.2.1, hlookups.2.2.1, hevent.1⟩

/-- The outline of an event whose argument is a function of a contract, with its document. -/
def registered : Outline where
  constructor? := none
  functions := []
  events := [⟨"Registered", [⟨"handler", "function", none, false⟩], false⟩]
  document := .array [
    .object [
      ("anonymous", .bool false),
      ("inputs", .array [.object [("name", .text "handler"), ("type", .text "function")]]),
      ("name", .text "Registered"), ("type", .text "event")]]

theorem read_registered : Json.parse registered.document.pretty = some registered.document :=
  Json.parse_pretty_self rfl rfl (by decide)

/-- Where types may also be functions of contracts, whose canonical spelling is `function`, targets
are not always found: the signature of the event type is `Registered(function)`, but the interface
has the event `Registered(uint8)`. -/
theorem not_targets_resolve_function :
    ¬ ∀ (text : String) (o : Outline) (i : Abi.Interface), Outline.parse text = .ok o →
      Abi.Interface.parse? text = some i → o.Plain →
      o.Canonical (fun word t => Abi.Ty.Keyword word t ∨ word = "function") → i.Distinct →
      ∀ (address : Address) (contract : String) (deployable : Bool),
        ∃ xs, Abi.entries? o.document = some xs ∧
          List.Forall₂ (fun m g => (⟨address, i⟩ : Contract).function m.target = .ok g)
            (Module.ofOutline contract deployable o).methods (Abi.Entry.functions xs) ∧
          List.Forall₂ (fun r d => (⟨address, i⟩ : Contract).event r.signature = .ok d)
            (Module.ofOutline contract deployable o).events (Abi.Entry.events xs) := by
  intro h
  let d : Abi.Event := ⟨"Registered", [⟨"handler", .uint 8, false⟩], false⟩
  let c : Contract := ⟨Address.zero, ⟨none, [], [d]⟩⟩
  have ho : Outline.parse registered.document.pretty = .ok registered :=
    (Outline.parse_of_read read_registered).trans rfl
  have hi : Abi.Interface.parse? registered.document.pretty = some ⟨none, [], [d]⟩ :=
    (Outline.interface_of_read read_registered).trans rfl
  have hfunction : Outline.Param.Spelled (fun word t => Abi.Ty.Keyword word t ∨ word = "function")
      ⟨"handler", "function", none, false⟩ :=
    Outline.Param.spelled_word (t := .uint 8) (.inr rfl)
  obtain ⟨xs, -, -, hevents⟩ := h _ registered _ ho hi ⟨by decide, by decide⟩
    ⟨by simp [registered], by simpa [registered] using hfunction⟩
    ⟨List.nodup_nil, List.nodup_singleton _⟩ Address.zero "Registry" false
  have hsignatures : (Module.ofOutline "Registry" false registered).events.map (·.signature) =
      ["Registered(function)"] := rfl
  have hfound : List.Forall₂ (fun s d' => c.event s = .ok d') ["Registered(function)"]
      (Abi.Entry.events xs) := by
    rw [← hsignatures]
    exact List.forall₂_map_left_iff.mpr hevents
  obtain ⟨d', -, hfound, -⟩ := List.forall₂_cons_left_iff.mp hfound
  have hother : d.topic ≠ Keccak.ofText "Registered(function)" := by
    rw [Abi.Event.topic, Keccak.ofText_of_length_lt (by decide +kernel),
      Keccak.ofText_of_length_lt (by decide +kernel)]
    decide +kernel
  have hmissing : c.interface.event? "Registered(function)" = none := by
    simp [Abi.Interface.event?, c, hother]
  rw [Contract.event, hmissing] at hfound
  cases hfound

end Generate

end

end AbiBindings
