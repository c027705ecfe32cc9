import AbiBindings.Proofs.Keccak
import AbiBindings.Proofs.Outline.Printed
import Mathlib.Data.List.TakeWhile

/-!
# Signatures of outlines and interfaces

An outline makes signatures of the texts of types, an interface makes them of the types that the
texts name. Selectors and topics are hashes of these signatures, so they are the same where the
texts are in canonical spelling.

* `Function.Agrees`, `Event.Agrees`: where the two signatures of an entry are the same.

Results:
* `Function.Matches.agrees`, `Event.Matches.agrees`: entries that match agree in this way.
* `readers_agree`: so do all entries of a text that both readers accept.
* `not_selectors_agree`: the words `uint` and `int` are kept by the outline, so selectors differ.

**Deviation.** The signature of an outline is documented as canonical, but only its tuples are
spelled out. A function of an argument `uint` gets the selector of `f(uint)`, where a caller needs
the one of `f(uint256)`.
-/

namespace AbiBindings.Outline

open Abi (Ty)

/-! ## Names -/

theorem cutName_of_plain {name : String} (h : '(' ∉ name.toList) : Abi.cutName name = name := by
  have hkeep : name.toList.takeWhile (· ≠ '(') = name.toList := by
    refine List.takeWhile_eq_self_iff.mpr fun c hc => decide_eq_true ?_
    rintro rfl
    exact h hc
  rw [Abi.cutName, hkeep, String.ofList_toList]

/-- Whether no name of an outline has a parenthesis, as no identifier has. -/
structure Plain (o : Outline) : Prop where
  functions : ∀ f ∈ o.functions, '(' ∉ f.name.toList
  events : ∀ e ∈ o.events, '(' ∉ e.name.toList

/-! ## Entries that agree -/

/-- Whether a function of an outline has the name of one of an interface, and its signature and
selector exactly if its types are in canonical spelling. Where `uint` or `int` stands for a type,
the signatures differ. -/
structure Function.Agrees (f : Function) (g : Abi.Function) : Prop where
  name : f.name = g.name
  selector : (∀ p ∈ f.inputs, p.Spelled Ty.Keyword) →
    f.signature = g.signature ∧ f.selector = g.selector
  differs : (∀ p ∈ f.inputs, p.Spelled Readable) → (∃ p ∈ f.inputs, ¬ p.Spelled Ty.Keyword) →
    f.signature ≠ g.signature

/-- Whether an event of an outline has the name of one of an interface, and its signature and topic
exactly if its types are in canonical spelling. Where `uint` or `int` stands for a type, the
signatures differ. -/
structure Event.Agrees (e : Event) (d : Abi.Event) : Prop where
  name : e.name = d.name
  topic : (∀ p ∈ e.inputs, p.Spelled Ty.Keyword) → e.signature = d.signature ∧ e.topic = d.topic
  differs : (∀ p ∈ e.inputs, p.Spelled Readable) → (∃ p ∈ e.inputs, ¬ p.Spelled Ty.Keyword) →
    e.signature ≠ d.signature

theorem Function.selector_congr {f : Function} {g : Abi.Function} (h : f.signature = g.signature) :
    f.selector = g.selector := by
  rw [selector, h, Abi.Function.selector, Abi.selectorOfHash]

theorem Event.topic_congr {e : Event} {d : Abi.Event} (h : e.signature = d.signature) :
    e.topic = d.topic := by
  rw [topic, h, Abi.Event.topic]

theorem signature_ne_of_alias {inputs : List Param} {types : List Ty} (name : String)
    (h : Named inputs types) (hspelled : ∀ p ∈ inputs, p.Spelled Readable)
    (halias : ∃ p ∈ inputs, ¬ p.Spelled Ty.Keyword) :
    signature name inputs ≠ Abi.signature name types := by
  intro hsame
  obtain ⟨p, hp, hword⟩ := halias
  exact hword ((signature_eq_iff name h hspelled).mp hsame p hp)

theorem Function.Matches.agrees {f : Function} {g : Abi.Function} (h : f.Matches g)
    (hplain : '(' ∉ f.name.toList) : f.Agrees g := by
  have hname : f.name = g.name := by rw [h.name, cutName_of_plain hplain]
  refine ⟨hname, fun hspelled => ?_, fun hspelled halias => ?_⟩
  · have hsame : f.signature = g.signature := by
      rw [Function.signature, signature_of_spelled _ h.inputs hspelled, hname,
        Abi.Function.signature]
    exact ⟨hsame, selector_congr hsame⟩
  · rw [Function.signature, Abi.Function.signature, ← hname]
    exact signature_ne_of_alias _ h.inputs hspelled halias

theorem Event.Matches.agrees {e : Event} {d : Abi.Event} (h : e.Matches d)
    (hplain : '(' ∉ e.name.toList) : e.Agrees d := by
  have hname : e.name = d.name := by rw [h.name, cutName_of_plain hplain]
  refine ⟨hname, fun hspelled => ?_, fun hspelled halias => ?_⟩
  · have hsame : e.signature = d.signature := by
      rw [Event.signature, signature_of_spelled _ h.inputs hspelled, hname, Abi.Event.signature]
    exact ⟨hsame, topic_congr hsame⟩
  · rw [Event.signature, Abi.Event.signature, ← hname]
    exact signature_ne_of_alias _ h.inputs hspelled halias

/-! ## Both readers -/

/-- Related elements of two lists are elements of the lists. -/
theorem forall₂_mem {R : α → β → Prop} {as : List α} {bs : List β} (h : List.Forall₂ R as bs) :
    List.Forall₂ (fun a b => a ∈ as ∧ b ∈ bs ∧ R a b) as bs := by
  rw [List.forall₂_iff_zip] at h ⊢
  refine ⟨h.1, fun hab => ?_⟩
  obtain ⟨ha, hb⟩ := List.of_mem_zip hab
  exact ⟨ha, hb, h.2 hab⟩

/-- An element of one list is related to an element of the other. -/
theorem exists_of_forall₂ {R : α → β → Prop} {as : List α} {bs : List β}
    (h : List.Forall₂ R as bs) {a : α} (ha : a ∈ as) : ∃ b ∈ bs, R a b := by
  induction h with
  | nil => cases ha
  | cons hr _ ih =>
    rcases List.mem_cons.mp ha with rfl | ha
    · exact ⟨_, List.mem_cons_self, hr⟩
    · obtain ⟨b, hb, hrest⟩ := ih ha
      exact ⟨b, List.mem_cons_of_mem _ hb, hrest⟩

variable {text : String} {o : Outline} {i : Abi.Interface}

/-- The events of a text that both readers accept, in the order of the document. -/
theorem readAs_of_parse (ho : parse text = .ok o) (hi : Abi.Interface.parse? text = some i) :
    ∃ xs, Abi.Interface.ofEntries xs = i ∧
      List.Forall₂ Event.ReadAs o.events (Abi.Entry.events xs) := by
  obtain ⟨xs, hxs, hentries⟩ := entries?_of_interface ho hi
  obtain ⟨-, -, -, -, -, hdocument⟩ := parse_eq_ok ho
  exact ⟨xs, hentries, (readAs_of_entries? hdocument (printable_document ho).sorted hxs).2⟩

/-- What a text that both readers accept has in both: the entries of its document match. -/
theorem matches_of_parse (ho : parse text = .ok o) (hi : Abi.Interface.parse? text = some i) :
    ∃ xs, Abi.entries? o.document = some xs ∧ Abi.Interface.ofEntries xs = i ∧
      List.Forall₂ Function.Matches o.functions (Abi.Entry.functions xs) ∧
      List.Forall₂ Event.Matches o.events (Abi.Entry.events xs) := by
  obtain ⟨xs, hxs, hentries⟩ := entries?_of_interface ho hi
  obtain ⟨-, -, -, -, -, hdocument⟩ := parse_eq_ok ho
  exact ⟨xs, hxs, hentries, matches_of_entries? hdocument (printable_document ho).sorted hxs⟩

/-- The functions and events of a text that both readers accept agree, one by one in the order of
the document: selectors and topics are the same where types are in canonical spelling. -/
theorem readers_agree (ho : parse text = .ok o) (hi : Abi.Interface.parse? text = some i)
    (hplain : o.Plain) :
    ∃ xs, Abi.entries? o.document = some xs ∧ Abi.Interface.ofEntries xs = i ∧
      List.Forall₂ Function.Agrees o.functions (Abi.Entry.functions xs) ∧
      List.Forall₂ Event.Agrees o.events (Abi.Entry.events xs) := by
  obtain ⟨xs, hxs, hentries, hfunctions, hevents⟩ := matches_of_parse ho hi
  refine ⟨xs, hxs, hentries, ?_, ?_⟩
  · exact (forall₂_mem hfunctions).imp fun f g ⟨hf, _, h⟩ => h.agrees (hplain.functions f hf)
  · exact (forall₂_mem hevents).imp fun e d ⟨he, _, h⟩ => h.agrees (hplain.events e he)

/-- The outline of a batch of orders, with its document. -/
def batch : Outline where
  constructor? := none
  functions := [⟨"submit", [⟨"orders", "tuple[]", some [⟨"to", "address", none, false⟩,
    ⟨"amount", "uint256", none, false⟩], false⟩], [], "nonpayable"⟩]
  events := [⟨"Submitted", [⟨"by", "address", none, true⟩], false⟩]
  document := .array [
    .object [
      ("inputs", .array [.object [
        ("components", .array [
          .object [("name", .text "to"), ("type", .text "address")],
          .object [("name", .text "amount"), ("type", .text "uint256")]]),
        ("name", .text "orders"), ("type", .text "tuple[]")]]),
      ("name", .text "submit"), ("outputs", .array []), ("type", .text "function")],
    .object [
      ("anonymous", .bool false),
      ("inputs", .array [.object [
        ("indexed", .bool true), ("name", .text "by"), ("type", .text "address")]]),
      ("name", .text "Submitted"), ("type", .text "event")]]

/-- The interface of a batch of orders. -/
def batchInterface : Abi.Interface where
  constructor? := none
  functions := [⟨"submit", [⟨"orders", .array (.tuple [.address, .uint 256])⟩], [], .nonpayable⟩]
  events := [⟨"Submitted", [⟨"by", .address, true⟩], false⟩]

theorem read_batch : Json.parse batch.document.pretty = some batch.document :=
  Json.parse_pretty_self rfl rfl (by decide)

theorem parse_batch : parse batch.document.pretty = .ok batch :=
  (parse_of_read read_batch).trans rfl

theorem interface_batch : Abi.Interface.parse? batch.document.pretty = some batchInterface :=
  (interface_of_read read_batch).trans rfl

/-- Both readers compute the same hashes for a batch of orders, whose type is a tuple array. -/
theorem batch_hashes :
    batch.functions.map (·.selector) = batchInterface.functions.map (·.selector) ∧
      batch.events.map (·.topic) = batchInterface.events.map (·.topic) := by
  obtain ⟨xs, -, hentries, hfunctions, hevents⟩ :=
    readers_agree parse_batch interface_batch ⟨by decide, by decide⟩
  obtain ⟨g, gs, hf, hgs, hfunctions⟩ := List.forall₂_cons_left_iff.mp hfunctions
  obtain ⟨d, ds, he, hds, hevents⟩ := List.forall₂_cons_left_iff.mp hevents
  obtain rfl := List.forall₂_nil_left_iff.mp hgs
  obtain rfl := List.forall₂_nil_left_iff.mp hds
  have horders : Param.Spelled Ty.Keyword ⟨"orders", "tuple[]",
      some [⟨"to", "address", none, false⟩, ⟨"amount", "uint256", none, false⟩], false⟩ := by
    have htype : "tuple[]" = "tuple" ++ String.ofList (Abi.dimensions [none]) := rfl
    rw [htype]
    exact .tuple (by simp) (by simp [Param.spelled_address, Param.spelled_uint256])
  rw [← hentries, Abi.Interface.ofEntries, hfunctions, hevents]
  constructor
  · exact congrArg (fun s => [s]) (hf.selector (by simpa using horders)).2
  · exact congrArg (fun h => [h]) (he.topic (by simpa using Param.spelled_address "by" true)).2

/-- The outline of a function of an argument `uint`, with its document. -/
def aliased : Outline where
  constructor? := none
  functions := [⟨"f", [⟨"a", "uint", none, false⟩], [], "nonpayable"⟩]
  events := []
  document := .array [
    .object [
      ("inputs", .array [.object [("name", .text "a"), ("type", .text "uint")]]),
      ("name", .text "f"), ("outputs", .array []), ("type", .text "function")]]

theorem read_aliased : Json.parse aliased.document.pretty = some aliased.document :=
  Json.parse_pretty_self rfl rfl (by decide)

/-- The two readers do not compute the same selectors: the outline takes the one of `f(uint)`, the
interface the one of `f(uint256)`. -/
theorem not_selectors_agree :
    ¬ ∀ (text : String) (o : Outline) (i : Abi.Interface), parse text = .ok o →
      Abi.Interface.parse? text = some i → o.Plain →
      (∀ f ∈ o.functions, ∀ p ∈ f.inputs, p.Spelled Readable) →
      ∃ xs, Abi.entries? o.document = some xs ∧ Abi.Interface.ofEntries xs = i ∧
        List.Forall₂ (fun f g => f.selector = g.selector) o.functions (Abi.Entry.functions xs) := by
  intro h
  let g : Abi.Function := ⟨"f", [⟨"a", .uint 256⟩], [], .nonpayable⟩
  have ho : parse aliased.document.pretty = .ok aliased :=
    (parse_of_read read_aliased).trans rfl
  have hi : Abi.Interface.parse? aliased.document.pretty = some ⟨none, [g], []⟩ :=
    (interface_of_read read_aliased).trans rfl
  have huint : Param.Spelled Readable ⟨"a", "uint", none, false⟩ :=
    Param.spelled_word (.inr .uint)
  obtain ⟨xs, -, hentries, hsame⟩ := h _ aliased _ ho hi ⟨by decide, by decide⟩
    (by simpa [aliased] using huint)
  obtain ⟨g', gs, hselector, hgs, hfunctions⟩ := List.forall₂_cons_left_iff.mp hsame
  obtain rfl := List.forall₂_nil_left_iff.mp hgs
  have hordered : Abi.orderedByName (·.name) (Abi.Entry.functions xs) = [g] :=
    congrArg Abi.Interface.functions hentries
  rw [hfunctions] at hordered
  obtain rfl : g' = g := List.singleton_inj.mp hordered
  rw [Function.selector, Abi.Function.selector, Abi.selectorOfHash,
    Keccak.ofText_of_length_lt (by decide +kernel),
    Keccak.ofText_of_length_lt (by decide +kernel)] at hselector
  revert hselector
  decide +kernel

end AbiBindings.Outline
