import AbiBindings.Generate.Names
import AbiBindings.Proofs.Contract.Calls
import AbiBindings.Proofs.Contract.Occurrences
import AbiBindings.Proofs.Keccak
import AbiBindings.Proofs.Typed.Values
import AbiBindings.Typed.Binding

/-!
# Bindings that fit an interface

When the typed methods and events of a binding agree with the entries of an interface, and what
follows from it for every value: the calldata holds the arguments, the output of a call is the typed
result, and the log of an occurrence is parsed as the typed event.

* `Method.Fits`, `EventBinding.Fits`, `Binding.Fits`: agreement with an interface; it can be
  computed.

Results:
* `Handle.calldata_eq`, `Handle.calldata_injective`: the calldata of a typed method.
* `Handle.call_output`, `Handle.call_encoded`: the result of a typed call.
* `Handle.faithful_of_fits`: what a typed method does, all in one.
* `Contract.unpack_logged`, `Contract.unpack_of_fits`: the typed event of a log.
* `Handle.call_of_tooLong`, `Contract.unpack_of_tooLong`: what is too long is refused.
-/

namespace AbiBindings

open Abi (Token Ty Interface Function Event)

/-! ## Agreement -/

/-- The name that an argument or field has after one in an interface. -/
def typedName (position : Nat) (name : String) : String :=
  Generate.argumentName ⟨name, "", none, false⟩ position

/-- Whether the values that a method returns stand for the results of a function, under their names
unless there is only one. -/
def MethodResult.standsFor : MethodResult → Function → Bool
  | .call outputs, f =>
    outputs.shapes.standFor f.outputTypes && Ty.allSolid f.outputTypes && !outputs.isEmpty &&
      (outputs.length == 1 || outputs.map (·.1) == f.outputs.mapIdx fun k p => typedName k p.name)
  | .transaction, _ => true

/-- A typed method that agrees with a function of an interface: it selects the function by its name,
and its arguments have the names and types of the inputs, in their order. -/
structure Method.Fits (m : Method) (i : Interface) (f : Function) : Prop where
  sole : i.Sole f
  target : f.name = m.target
  params : m.params.shapes.standFor f.inputTypes = true
  solid : Ty.allSolid f.inputTypes = true
  result : m.result.standsFor f = true
  names : m.params.map (·.1) = f.inputs.mapIdx fun k p => typedName k p.name

/-- The results of a typed call stand for the outputs of its function. -/
theorem Method.Fits.outputs {m : Method} {i : Interface} {f : Function} (h : m.Fits i f)
    {outputs : NamedFields} (hcall : m.result = .call outputs) :
    outputs.shapes.standFor f.outputTypes = true ∧ Ty.allSolid f.outputTypes = true ∧
      outputs ≠ [] := by
  have hresult := h.result
  rw [hcall, MethodResult.standsFor] at hresult
  simp only [Bool.and_eq_true] at hresult
  obtain ⟨⟨⟨hfields, hsolid⟩, hsome⟩, -⟩ := hresult
  exact ⟨hfields, hsolid, by simpa using hsome⟩

/-- Whether a field of a typed event is indexed, so that filters may be restricted to it. -/
def EventBinding.isIndexed (e : EventBinding) (field : String × Shape) : Bool :=
  e.topics.contains field

/-- A typed event that agrees with an event of an interface: it has its signature, its fields have
the names and types of the inputs, in their order, the indexed ones are the same, and none of these
is hashed. -/
structure EventBinding.Fits (e : EventBinding) (a : Event) : Prop where
  signature : a.signature = e.signature
  anonymous : a.anonymous = false
  fields : e.fields.shapes.standFor a.inputTypes = true
  solid : Ty.allSolid a.inputTypes = true
  distinct : (a.inputs.map (·.name)).Nodup
  kept : ∀ p ∈ a.inputs, p.indexed = true → p.type.inTopic = p.type
  indexed : e.fields.map e.isIndexed = a.inputs.map (·.indexed)
  topics : e.fields.filter e.isIndexed = e.topics
  names : e.fields.map (·.1) = a.inputs.mapIdx fun k p => typedName k p.name

/-- An interface whose events have short signatures with different hashes. -/
structure Abi.Interface.TellsEvents (i : Interface) : Prop where
  short : ∀ a ∈ i.events, (utf8 a.signature).length < Keccak.rate
  differ : (i.events.map fun a => Keccak.ofShortText a.signature).Nodup

/-- A binding that agrees with an interface. -/
structure Binding.Fits (b : Binding) (i : Interface) : Prop where
  methods : ∀ m ∈ b.methods, ∃ f ∈ i.functions, m.Fits i f
  events : ∀ e ∈ b.events, ∃ a ∈ i.events, e.Fits a
  tellsEvents : i.TellsEvents

/-! ### Computing agreement -/

instance (i : Interface) (f : Function) : Decidable (i.Sole f) :=
  decidable_of_iff ((i.functions.filter fun g => g.name == f.name) = [f] ∧ '(' ∉ f.name.toList)
    ⟨fun h => ⟨h.1, h.2⟩, fun h => ⟨h.1, h.2⟩⟩

instance (m : Method) (i : Interface) (f : Function) : Decidable (m.Fits i f) :=
  decidable_of_iff
    (f.name = m.target ∧ i.Sole f ∧ m.params.shapes.standFor f.inputTypes = true ∧
      Ty.allSolid f.inputTypes = true ∧ m.result.standsFor f = true ∧
      m.params.map (·.1) = f.inputs.mapIdx fun k p => typedName k p.name)
    ⟨fun ⟨h1, h2, h3, h4, h5, h6⟩ => ⟨h2, h1, h3, h4, h5, h6⟩,
      fun h => ⟨h.target, h.sole, h.params, h.solid, h.result, h.names⟩⟩

instance (e : EventBinding) (a : Event) : Decidable (e.Fits a) :=
  decidable_of_iff
    (a.signature = e.signature ∧ a.anonymous = false ∧
      e.fields.shapes.standFor a.inputTypes = true ∧ Ty.allSolid a.inputTypes = true ∧
      (a.inputs.map (·.name)).Nodup ∧
      (∀ p ∈ a.inputs, p.indexed = true → p.type.inTopic = p.type) ∧
      e.fields.map e.isIndexed = a.inputs.map (·.indexed) ∧
      e.fields.filter e.isIndexed = e.topics ∧
      e.fields.map (·.1) = a.inputs.mapIdx fun k p => typedName k p.name)
    ⟨fun ⟨h1, h2, h3, h4, h5, h6, h7, h8, h9⟩ => ⟨h1, h2, h3, h4, h5, h6, h7, h8, h9⟩,
      fun h => ⟨h.1, h.2, h.3, h.4, h.5, h.6, h.7, h.8, h.9⟩⟩

theorem Abi.Interface.tellsEvents_iff (i : Interface) :
    ((∀ a ∈ i.events, (utf8 a.signature).length < Keccak.rate) ∧
      (i.events.map fun a => Keccak.ofShortText a.signature).Nodup) ↔ i.TellsEvents :=
  ⟨fun h => .mk h.1 h.2, fun h => ⟨h.short, h.differ⟩⟩

instance (i : Interface) : Decidable i.TellsEvents := decidable_of_iff _ i.tellsEvents_iff

instance (b : Binding) (i : Interface) : Decidable (b.Fits i) :=
  decidable_of_iff
    ((∀ m ∈ b.methods, ∃ f ∈ i.functions, m.Fits i f) ∧
      (∀ e ∈ b.events, ∃ a ∈ i.events, e.Fits a) ∧ i.TellsEvents)
    ⟨fun ⟨h1, h2, h3⟩ => ⟨h1, h2, h3⟩, fun h => ⟨h.1, h.2, h.3⟩⟩

/-! ## Typed methods -/

/-- The encoding of typed values. -/
def Fields.encoded (fields : Fields) (v : fields.Values) : Bytes := Abi.encode (fields.toTokens v)

section Encoded

variable {fields : Fields} {types : List Ty}

theorem Fields.decode_encoded (hf : fields.standFor types = true) (hs : Ty.allSolid types = true)
    (v : fields.Values) (hsize : (fields.encoded v).length < 2 ^ 32) :
    Abi.decode types (fields.encoded v) = .ok (fields.toTokens v) :=
  (Token.legible_of_solid (Fields.haveTypes_toTokens hf v) hs hsize).decode_encode

/-- Typed values of which one is too long are not read back. -/
theorem Fields.decode_encoded_of_tooLong (hf : fields.standFor types = true)
    (hs : Ty.allSolid types = true) (v : fields.Values)
    (hsize : (fields.encoded v).length < 2 ^ 256) {t : Token} (hmem : t ∈ fields.toTokens v)
    (hlong : t.TooLong) : Abi.decode types (fields.encoded v) = .error .invalid :=
  Abi.decode_encode_of_tooLong (Fields.haveTypes_toTokens hf v) hs hsize hmem hlong

theorem Fields.encoded_ne_nil (hf : fields.standFor types = true) (hs : Ty.allSolid types = true)
    (hsome : fields ≠ []) (v : fields.Values) : fields.encoded v ≠ [] := by
  intro hnil
  have hv := Fields.haveTypes_toTokens hf v
  have hlen := Token.haveTypes_length hv
  rw [Abi.types_eq_nil_of_encode hv hs hnil, Fields.length_toTokens] at hlen
  exact hsome (List.eq_nil_of_length_eq_zero hlen)

theorem Fields.encoded_injective (hf : fields.standFor types = true)
    (hs : Ty.allSolid types = true) {v w : fields.Values}
    (hsize : (fields.encoded v).length < 2 ^ 256) (h : fields.encoded v = fields.encoded w) :
    v = w := by
  have hv := Fields.haveTypes_toTokens hf v
  have hw := Fields.haveTypes_toTokens hf w
  exact Fields.toTokens_injective (Fields.isKept_of_standFor hf)
    (Abi.encode_injective_of_solid hv hw hs hsize h)

end Encoded

namespace Handle

variable {h : Handle} {m : Method} {f : Function}

/-- The calldata of a typed method is the selector of its function and the encoded arguments. -/
theorem calldata_eq (hm : m.Fits h.contract.interface f) (args : m.params.shapes.Values) :
    h.calldata m args = .ok (f.selector ++ m.params.shapes.encoded args) := by
  have hargs := Fields.haveTypes_toTokens hm.params args
  rw [calldata, ← hm.target, Contract.calldata_of_sole hm.sole,
    if_pos (Token.fitsAll_of_haveTypes hargs)]
  rfl

/-- A typed transaction sends the calldata of its method. -/
theorem send_eq (hm : m.Fits h.contract.interface f) (o : TransactOptions)
    (args : m.params.shapes.Values) :
    h.send m o args =
      h.contract.transactRaw o (f.selector ++ m.params.shapes.encoded args) := by
  have hdata := calldata_eq hm args
  rw [calldata] at hdata
  rw [send, Contract.transact, hdata, Action.ofExcept_ok_bind]

/-- Different arguments have different calldata. -/
theorem calldata_injective (hm : m.Fits h.contract.interface f) {v w : m.params.shapes.Values}
    (hsize : (m.params.shapes.encoded v).length < 2 ^ 256)
    (hvw : h.calldata m v = h.calldata m w) : v = w := by
  rw [calldata_eq hm, calldata_eq hm, Except.ok.injEq] at hvw
  exact Fields.encoded_injective hm.params hm.solid hsize (List.append_cancel_left hvw)

/-- A typed call yields what its output is decoded and taken as. -/
theorem call_output (hm : m.Fits h.contract.interface f) (outputs : NamedFields)
    (args : m.params.shapes.Values) {o : CallOptions} {output : Bytes} {σ : Type}
    {chain : Chain σ} {s : σ}
    (hreturns : chain.Returns s h.contract o (f.selector ++ m.params.shapes.encoded args) output) :
    ((h.call m outputs o args).run chain s).result =
      match Abi.decode f.outputTypes output with
      | .ok tokens => Contract.typed outputs.shapes tokens
      | .error cause => .error (.decode (.output m.target cause)) := by
  have hfunction : h.contract.function m.target = .ok f :=
    hm.target ▸ Contract.function_of_sole hm.sole
  have hcalled := Contract.run_call hfunction (calldata_eq hm args) hreturns
  rw [call, Contract.callTyped, Action.run_bind, hcalled, Contract.decodeOutput]
  cases Abi.decode f.outputTypes output with
  | ok tokens => exact (Action.run_ofExcept chain _ _).1
  | error cause => rfl

/-- A typed call whose output is the encoding of a value yields what this is decoded as. -/
theorem call_encoded (hm : m.Fits h.contract.interface f) {outputs : NamedFields}
    (hcall : m.result = .call outputs) (args : m.params.shapes.Values)
    (value : outputs.shapes.Values) (o : CallOptions) {σ : Type} (chain : Chain σ) (s : σ)
    (hanswered : (chain.answer (.call (h.contract.message o
      (f.selector ++ m.params.shapes.encoded args)) o.state?) s).1 =
        .ok (outputs.shapes.encoded value)) :
    ((h.call m outputs o args).run chain s).result =
      match Abi.decode f.outputTypes (outputs.shapes.encoded value) with
      | .ok tokens => Contract.typed outputs.shapes tokens
      | .error cause => .error (.decode (.output m.target cause)) := by
  obtain ⟨hfields, hsolid, hsome⟩ := hm.outputs hcall
  have hempty : outputs.shapes.encoded value ≠ [] :=
    Fields.encoded_ne_nil hfields hsolid (by simpa [NamedFields.shapes] using hsome) value
  exact call_output hm outputs args ⟨hanswered, fun hnil => absurd hnil hempty⟩

/-- A typed call is refused if a value in its output is too long. -/
theorem call_of_tooLong (hm : m.Fits h.contract.interface f) {outputs : NamedFields}
    (hcall : m.result = .call outputs) (args : m.params.shapes.Values)
    (value : outputs.shapes.Values) (o : CallOptions)
    (hsize : (outputs.shapes.encoded value).length < 2 ^ 256) {t : Token}
    (hmem : t ∈ outputs.shapes.toTokens value) (hlong : t.TooLong) {σ : Type} (chain : Chain σ)
    (s : σ) (hanswered : (chain.answer (.call (h.contract.message o
      (f.selector ++ m.params.shapes.encoded args)) o.state?) s).1 =
        .ok (outputs.shapes.encoded value)) :
    ((h.call m outputs o args).run chain s).result =
      .error (.decode (.output m.target .invalid)) := by
  obtain ⟨hfields, hsolid, -⟩ := hm.outputs hcall
  rw [call_encoded hm hcall args value o chain s hanswered,
    Fields.decode_encoded_of_tooLong hfields hsolid value hsize hmem hlong]

/-- What a typed method does with a function. Its arguments stand behind the selector and are found
there, and a result that is encoded in the output is returned, if their encodings have less than
`2 ^ 32` bytes. -/
structure Faithful (h : Handle) (m : Method) (f : Function) : Prop where
  selector : f.selector.length = 4
  calldata : ∀ args : m.params.shapes.Values,
    h.calldata m args = .ok (f.selector ++ m.params.shapes.encoded args)
  sent : ∀ (o : TransactOptions) (args : m.params.shapes.Values),
    h.send m o args = h.contract.transactRaw o (f.selector ++ m.params.shapes.encoded args)
  found : ∀ args : m.params.shapes.Values, (m.params.shapes.encoded args).length < 2 ^ 32 →
    Abi.decode f.inputTypes (m.params.shapes.encoded args) = .ok (m.params.shapes.toTokens args)
  distinct : ∀ v w : m.params.shapes.Values, (m.params.shapes.encoded v).length < 2 ^ 32 →
    h.calldata m v = h.calldata m w → v = w
  returned : ∀ outputs, m.result = .call outputs → ∀ (args : m.params.shapes.Values)
    (value : outputs.shapes.Values) (o : CallOptions),
    (outputs.shapes.encoded value).length < 2 ^ 32 →
    ∀ {σ : Type} (chain : Chain σ) (s : σ),
      (chain.answer (.call (h.contract.message o
        (f.selector ++ m.params.shapes.encoded args)) o.state?) s).1 =
          .ok (outputs.shapes.encoded value) →
      ((h.call m outputs o args).run chain s).result = .ok value

theorem faithful_of_fits (hm : m.Fits h.contract.interface f) : h.Faithful m f where
  selector := by simp [Function.selector, Abi.selectorOfHash]
  calldata := calldata_eq hm
  sent := send_eq hm
  found := Fields.decode_encoded hm.params hm.solid
  distinct _ _ hsize := calldata_injective hm (by omega)
  returned outputs hcall args value o hsize _ chain s hanswered := by
    obtain ⟨hfields, hsolid, -⟩ := hm.outputs hcall
    rw [call_encoded hm hcall args value o chain s hanswered,
      Fields.decode_encoded hfields hsolid value hsize]
    simp only [Contract.typed, Fields.ofTokens_toTokens (Fields.isKept_of_standFor hfields)]

end Handle

/-! ## Typed events -/

/-- Events that are told apart have different hashes. -/
theorem Abi.Interface.TellsEvents.nodup {i : Interface} (h : i.TellsEvents) :
    (i.events.map Event.topic).Nodup := by
  have hmap : i.events.map Event.topic = i.events.map fun a => Keccak.ofShortText a.signature :=
    List.map_congr_left fun a ha => Keccak.ofText_of_length_lt (h.short a ha)
  rw [hmap]
  exact h.differ

/-- Of values that belong to the members of two lists, those are selected that belong to the same
positions, if the same members of the lists are marked. -/
theorem zip_filter_congr {α β γ : Type} {p : α → Bool} {q : β → Bool} {xs : List α} {ys : List β}
    (h : xs.map p = ys.map q) (values : List γ) :
    ((xs.zip values).filter fun a => p a.1).map (·.2) =
      ((ys.zip values).filter fun b => q b.1).map (·.2) := by
  induction xs generalizing ys values with
  | nil =>
    obtain rfl : ys = [] := by simpa using h.symm
    rfl
  | cons x xs ih =>
    obtain ⟨y, ys, rfl⟩ : ∃ y rest, ys = y :: rest := by cases ys <;> simp_all
    rw [List.map_cons, List.map_cons, List.cons.injEq] at h
    cases values with
    | nil => rfl
    | cons v values =>
      simp only [List.zip_cons_cons, List.filter_cons, h.1]
      split
      · rw [List.map_cons, List.map_cons, ih h.2]
      · exact ih h.2 values

namespace EventBinding

/-- The ABI values of the indexed fields. -/
def indexedTokens (e : EventBinding) (v : e.fields.shapes.Values) : List Token :=
  ((e.fields.zip (e.fields.shapes.toTokens v)).filter fun f => e.isIndexed f.1).map (·.2)

/-- The ABI values of the other fields. -/
def unindexedTokens (e : EventBinding) (v : e.fields.shapes.Values) : List Token :=
  ((e.fields.zip (e.fields.shapes.toTokens v)).filter fun f => !e.isIndexed f.1).map (·.2)

/-- The topics that the event leaves: the hash of its signature and those of the indexed fields. -/
def topicsFor (e : EventBinding) (v : e.fields.shapes.Values) : List Hash :=
  e.eventType.topic :: (e.indexedTokens v).map Abi.topicOf

/-- The data that the event leaves: the encoding of the other fields. -/
def dataFor (e : EventBinding) (v : e.fields.shapes.Values) : Bytes :=
  Abi.encode (e.unindexedTokens v)

theorem Fits.topicsFor_eq {e : EventBinding} {a : Event} (h : e.Fits a)
    (v : e.fields.shapes.Values) : e.topicsFor v = a.topicsFor (e.fields.shapes.toTokens v) := by
  have htopic : e.eventType.topic = a.topic := by rw [Event.topic, h.signature, EventType.topic]
  rw [topicsFor, htopic, indexedTokens, zip_filter_congr h.indexed]
  rfl

theorem Fits.unindexedTokens_eq {e : EventBinding} {a : Event} (h : e.Fits a)
    (v : e.fields.shapes.Values) :
    e.unindexedTokens v = a.unindexedValues (e.fields.shapes.toTokens v) := by
  have hother : e.fields.map (fun f => !e.isIndexed f) = a.inputs.map fun p => !p.indexed := by
    have hnot := congrArg (List.map not) h.indexed
    rwa [List.map_map, List.map_map] at hnot
  exact zip_filter_congr hother _

/-- A log that a typed event leaves is left by an occurrence of its event with these values. -/
theorem Fits.logged {e : EventBinding} {a : Event} (h : e.Fits a) (v : e.fields.shapes.Values)
    {log : Log} (htopics : log.topics = e.topicsFor v) (hdata : log.data = e.dataFor v) :
    a.Logged (e.fields.shapes.toTokens v) log := by
  refine ⟨h.anonymous, Fields.haveTypes_toTokens h.fields v, ?_, ?_⟩
  · rw [htopics, h.topicsFor_eq]
  · rw [hdata, dataFor, h.unindexedTokens_eq]
    rfl

end EventBinding

/-- A typed event that agrees with an event is the one that is looked up. -/
theorem Contract.event_of_fits {c : Contract} {e : EventBinding} {a : Event}
    (ha : a ∈ c.interface.events) (he : e.Fits a) (hi : c.interface.TellsEvents) :
    c.event e.eventType.signature = .ok a := by
  have hfound := Abi.Interface.event?_of_mem hi.nodup ha
  rw [he.signature] at hfound
  rw [Contract.event, hfound]

/-- The log of an occurrence hands its arguments to the typed event. -/
theorem Contract.unpack_logged {c : Contract} {e : EventBinding} {a : Event}
    (ha : a ∈ c.interface.events) (he : e.Fits a) (hi : c.interface.TellsEvents)
    {ts : List Token} {log : Log} (hlog : a.Logged ts log) (hsize : log.data.length < 2 ^ 32) :
    c.unpack e.eventType log = e.eventType.recordOf ts log := by
  have hfound : a.found ts = ts := by
    rw [Event.found_eq hlog.length he.distinct, Event.seen_eq hlog.typed he.kept]
  have hevent := Contract.event_of_fits ha he hi
  rcases Contract.unpack_found hevent he.solid hlog (by omega) with hread | ⟨-, hlarge⟩
  · rw [hread, hfound]
  · omega

section Unpack

variable {c : Contract} {e : EventBinding} {a : Event}

/-- The log that an event leaves is parsed as this event. -/
theorem Contract.unpack_of_fits (ha : a ∈ c.interface.events) (he : e.Fits a)
    (hi : c.interface.TellsEvents) (v : e.fields.shapes.Values) (log : Log)
    (htopics : log.topics = e.topicsFor v) (hdata : log.data = e.dataFor v)
    (hsize : log.data.length < 2 ^ 32) : c.unpack e.eventType log = .ok ⟨v, log⟩ := by
  have htyped : e.fields.shapes.ofTokens (e.fields.shapes.toTokens v) = .ok v :=
    Fields.ofTokens_toTokens (Fields.isKept_of_standFor he.fields) v
  rw [Contract.unpack_logged ha he hi (he.logged v htopics hdata) hsize, EventType.recordOf]
  simp only [EventBinding.eventType, htyped]

/-- The log that an event leaves is refused if one of its values is too long. -/
theorem Contract.unpack_of_tooLong (ha : a ∈ c.interface.events) (he : e.Fits a)
    (hi : c.interface.TellsEvents) (v : e.fields.shapes.Values) (log : Log)
    (htopics : log.topics = e.topicsFor v) (hdata : log.data = e.dataFor v)
    (hsize : log.data.length < 2 ^ 256) {t : Token} (hmem : t ∈ e.unindexedTokens v)
    (hlong : t.TooLong) :
    c.unpack e.eventType log = .error (.decode (.log e.name .invalid)) := by
  have hlog := he.logged v htopics hdata
  rw [he.unindexedTokens_eq] at hmem
  rw [hlog.data] at hsize
  have hrefused := Event.decodeLog_of_tooLong hlog.named hlog.typed he.solid hsize hmem hlong
  rw [← hlog.topics, ← hlog.data] at hrefused
  rw [Contract.unpack_eq (Contract.event_of_fits ha he hi) hlog.head, hrefused]

end Unpack

end AbiBindings
