import AbiBindings.Proofs.Abi.Topics
import AbiBindings.Proofs.Typed.Narrow

/-!
# Logs that an event accepts

A log is read as an event if it has the first topic of the event, one topic for each indexed
argument, and data in which the other arguments are found; whoever wrote it, and whatever else it
holds. Topics and data that are read give exact values of the arguments, so the typed event refuses
none of them.

* `EventBinding.TellsLogs`: a typed event whose logs are told from all others.

Results:
* `Abi.Event.exists_decodeLog_iff`: which logs are read.
* `Abi.Event.haveTypes_of_decodeLog`: what is read are exact values of the arguments.
* `Contract.tellsLogs_of_fits`: a typed event that agrees with an event accepts its logs and refuses
  all others as malformed.
-/

namespace AbiBindings

open Abi (Token Ty Event EventParam)

/-! ## Logs of events -/

namespace Abi

theorem Ty.takesWord_inTopic {type : Ty} (hs : type.solid = true) (hbool : type ≠ .bool) :
    type.inTopic.takesWord = true := by
  cases type <;> simp_all [Ty.inTopic, Ty.takesWord, Ty.solid]

end Abi

namespace Abi.Event

variable {e : Event} {topics : List Hash} {data : Bytes}

/-- A log is read if and only if there is one topic for each indexed argument behind the first one,
and the data holds the other arguments; every topic holds a value, unless it is a truth value. -/
theorem exists_decodeLog_iff (hanonymous : e.anonymous = false)
    (hs : Ty.allSolid e.inputTypes = true)
    (hwords : ∀ p ∈ e.inputs, p.indexed = true → p.type ≠ .bool) (topics : List Hash)
    (data : Bytes) :
    (∃ values, e.decodeLog topics data = .ok values) ↔
      topics.head? = some e.topic ∧ topics.length = 1 + e.indexed.length ∧
        ∃ values, decode e.dataTypes data = .ok values := by
  have hcount : e.topicTypes.length = e.indexed.length := List.length_map ..
  have harguments : ∀ rest, e.argumentTopics (e.topic :: rest) = rest := by
    simp [argumentTopics, hanonymous]
  constructor
  · rintro ⟨values, h⟩
    obtain ⟨hhead, indexed, unindexed, hindexed, hlen, hunindexed, -⟩ := decodeLog_eq_ok_iff.mp h
    have hhead := hhead.resolve_left (by simp [hanonymous])
    obtain ⟨rest, rfl⟩ := List.head?_eq_some_iff.mp hhead
    refine ⟨rfl, ?_, unindexed, hunindexed⟩
    rw [harguments] at hlen
    rw [List.length_cons, ← hlen, length_of_decode hindexed, hcount, Nat.add_comm]
  · rintro ⟨hhead, hlen, unindexed, hunindexed⟩
    obtain ⟨rest, rfl⟩ := List.head?_eq_some_iff.mp hhead
    have hrest : rest.length = e.topicTypes.length := by
      rw [List.length_cons] at hlen
      omega
    have htakes : ∀ type ∈ e.topicTypes, type.takesWord = true := by
      intro type htype
      obtain ⟨p, hp, rfl⟩ := List.mem_map.mp htype
      obtain ⟨hp, hindexed⟩ := List.mem_filter.mp hp
      exact Ty.takesWord_inTopic (Ty.allSolid_iff.mp hs _ (List.mem_map_of_mem hp))
        (hwords p hp hindexed)
    obtain ⟨indexed, hindexed⟩ := decode_words htakes hrest
    refine ⟨_, decodeLog_eq_ok_iff.mpr ⟨.inr rfl, indexed, unindexed, ?_, ?_, hunindexed, rfl⟩⟩
    · rw [harguments, hindexed]
    · rw [harguments, length_of_decode hindexed, hrest]

/-- The value found under a name has the type of the parameter of this name. -/
theorem hasType_valueOf {params : List EventParam} {values : List Token} {types : EventParam → Ty}
    (ht : Token.haveTypes values (params.map types) = true)
    (hnames : (params.map (·.name)).Nodup) {p : EventParam} (hp : p ∈ params) :
    (valueOf ((params.map (·.name)).zip values) p.name).hasType (types p) = true := by
  have hlen : (params.map (·.name)).length ≤ values.length := by
    rw [List.length_map, Token.haveTypes_length ht, List.length_map]
  rw [valueOf]
  cases hfound : ((params.map (·.name)).zip values).reverse.lookup p.name with
  | none =>
    have hname : p.name ∈ ((params.map (·.name)).zip values).map (·.1) := by
      rw [List.map_fst_zip hlen]
      exact List.mem_map_of_mem hp
    obtain ⟨pair, hpair, hkey⟩ := List.mem_map.mp hname
    have hother := List.lookup_eq_none_iff.mp hfound pair (List.mem_reverse.mpr hpair)
    simp [hkey] at hother
  | some v =>
    obtain ⟨before, after, hsplit, -⟩ := List.lookup_eq_some_iff.mp hfound
    have hmem : (p.name, v) ∈ (params.map (·.name)).zip values := by
      rw [← List.mem_reverse, hsplit]
      simp
    obtain ⟨i, hi⟩ := List.mem_iff_getElem?.mp hmem
    obtain ⟨hname, hvalue⟩ := List.getElem?_zip_eq_some.mp hi
    rw [List.getElem?_map, Option.map_eq_some_iff] at hname
    obtain ⟨q, hq, hname⟩ := hname
    obtain rfl := List.inj_on_of_nodup_map hnames (List.mem_of_getElem? hq) hp hname
    obtain ⟨type, htype, hhas⟩ := Token.hasType_of_getElem? ht hvalue
    rw [List.getElem?_map, hq, Option.map_some, Option.some.injEq] at htype
    rw [htype]
    exact hhas

/-- Where no name is repeated and no indexed argument is hashed, what is read are exact values of
the arguments. -/
theorem haveTypes_of_decodeLog (hnames : (e.inputs.map (·.name)).Nodup)
    (hkept : ∀ p ∈ e.inputs, p.indexed = true → p.type.inTopic = p.type) {values : List Token}
    (h : e.decodeLog topics data = .ok values) : Token.haveTypes values e.inputTypes = true := by
  obtain ⟨-, indexed, unindexed, hindexed, -, hunindexed, rfl⟩ := decodeLog_eq_ok_iff.mp h
  have htopics : e.topicTypes = e.indexed.map (·.type) :=
    List.map_congr_left fun p hp =>
      hkept p (List.mem_filter.mp hp).1 (List.mem_filter.mp hp).2
  have hread : Token.haveTypes (indexed ++ unindexed)
      ((e.indexed ++ e.unindexed).map (·.type)) = true := by
    rw [List.map_append, ← htopics]
    exact Token.haveTypes_append (haveTypes_of_decode hindexed) (haveTypes_of_decode hunindexed)
  have hperm : (e.indexed ++ e.unindexed).Perm e.inputs := List.filter_append_perm ..
  have hcollected : e.named indexed unindexed =
      ((e.indexed ++ e.unindexed).map (·.name)).zip (indexed ++ unindexed) := by
    rw [named, List.map_append, List.zip_append]
    rw [List.length_map, length_of_decode hindexed, topicTypes, List.length_map]
  rw [hcollected]
  refine Token.haveTypes_map fun p hp => ?_
  exact hasType_valueOf hread ((hperm.map _).nodup_iff.mpr hnames) (hperm.mem_iff.mpr hp)

end Abi.Event

/-! ## Typed events -/

/-- A typed event whose logs are told from all others. Its logs are those with the hash of its
signature as first topic, one topic for each indexed argument, and data that holds the others, where
data may go on behind them but must not be missing. All others are malformed. -/
structure EventBinding.TellsLogs (e : EventBinding) (c : Contract) (a : Event) : Prop where
  accepted : ∀ log, (∃ v, c.unpack e.eventType log = .ok ⟨v, log⟩) ↔
    log.topics.head? = some (Keccak.ofText e.signature) ∧
      log.topics.length = 1 + a.indexed.length ∧
        ∃ values, Abi.decode a.dataTypes log.data = .ok values
  refused : ∀ log, (∃ v, c.unpack e.eventType log = .ok ⟨v, log⟩) ∨
    ∃ fault, c.unpack e.eventType log = .error (.decode fault)
  trailing : ∀ data rest values, Abi.decode a.dataTypes data = .ok values →
    Abi.decode a.dataTypes (data ++ rest) = .ok values
  empty : a.unindexed ≠ [] → Abi.decode a.dataTypes [] = .error .noData

/-- Whether no indexed field of a typed event is a truth value. -/
def EventBinding.indexesWords (e : EventBinding) : Bool :=
  e.topics.all fun field => field.2 != .bool

theorem Shape.eq_bool_of_standsFor {s : Shape} (h : s.standsFor .bool = true) : s = .bool := by
  cases s <;> simp_all [standsFor]

namespace EventBinding.Fits

variable {e : EventBinding} {a : Event}

/-- An indexed argument is no truth value if no indexed field is one. -/
theorem ne_bool (he : e.Fits a) (hwords : e.indexesWords = true) {p : EventParam}
    (hp : p ∈ a.inputs) (hindexed : p.indexed = true) : p.type ≠ .bool := by
  intro hbool
  obtain ⟨i, hi⟩ := List.mem_iff_getElem?.mp hp
  have hmark : (a.inputs.map (·.indexed))[i]? = some true := by
    rw [List.getElem?_map, hi, Option.map_some, hindexed]
  rw [← he.indexed, List.getElem?_map, Option.map_eq_some_iff] at hmark
  obtain ⟨field, hfield, htopic⟩ := hmark
  have hmem : field ∈ e.topics := by
    rw [← he.topics]
    exact List.mem_filter.mpr ⟨List.mem_of_getElem? hfield, htopic⟩
  have hshape : e.fields.shapes[i]? = some field.2 := by
    rw [NamedFields.shapes, List.getElem?_map, hfield, Option.map_some]
  obtain ⟨type, htype, hstands⟩ := Fields.standFor_getElem? he.fields hshape
  rw [Event.inputTypes, List.getElem?_map, hi, Option.map_some, Option.some.injEq, hbool] at htype
  have hother : field.2 ≠ .bool := by simpa using List.all_eq_true.mp hwords field hmem
  rw [← htype] at hstands
  exact hother (Shape.eq_bool_of_standsFor hstands)

end EventBinding.Fits

namespace Contract

variable {c : Contract} {e : EventBinding} {a : Event}

/-- A log of a typed event is read if its arguments are: none of them is refused. -/
theorem unpack_cases (ha : a ∈ c.interface.events) (he : e.Fits a) (hi : c.interface.TellsEvents)
    {log : Log} (hhead : log.topics.head? = some a.topic) :
    (∃ values v, a.decodeLog log.topics log.data = .ok values ∧
      c.unpack e.eventType log = .ok ⟨v, log⟩) ∨
    ∃ cause, a.decodeLog log.topics log.data = .error cause ∧
      c.unpack e.eventType log = .error (.decode (.log e.name cause)) := by
  rw [unpack_eq (event_of_fits ha he hi) hhead]
  cases hread : a.decodeLog log.topics log.data with
  | error cause => exact .inr ⟨cause, rfl, rfl⟩
  | ok values =>
    have htypes := Event.haveTypes_of_decodeLog he.distinct he.kept hread
    obtain ⟨v, hv, -⟩ := Fields.ofTokens_of_haveTypes he.fields htypes
    refine .inl ⟨values, v, rfl, ?_⟩
    simp only [EventType.recordOf, EventBinding.eventType, hv]

/-- A log with another first topic is malformed. -/
theorem unpack_other (ha : a ∈ c.interface.events) (he : e.Fits a) (hi : c.interface.TellsEvents)
    {log : Log} (hhead : log.topics.head? ≠ some a.topic) :
    c.unpack e.eventType log = .error (.decode (.otherEvent e.name)) :=
  unpack_of_head_ne (event_of_fits ha he hi) hhead

/-- A typed event that agrees with an event accepts its logs and refuses all others as malformed. -/
theorem tellsLogs_of_fits (ha : a ∈ c.interface.events) (he : e.Fits a)
    (hi : c.interface.TellsEvents) (hwords : e.indexesWords = true) : e.TellsLogs c a where
  accepted log := by
    have hforms := Event.exists_decodeLog_iff he.anonymous he.solid
      (fun p hp => he.ne_bool hwords hp) log.topics log.data
    have htopic : a.topic = Keccak.ofText e.signature := congrArg Keccak.ofText he.signature
    rw [← htopic, ← hforms]
    by_cases hhead : log.topics.head? = some a.topic
    · rcases unpack_cases ha he hi hhead with ⟨values, v, hread, hv⟩ | ⟨cause, hread, hrefused⟩
      · exact ⟨fun _ => ⟨values, hread⟩, fun _ => ⟨v, hv⟩⟩
      · rw [hread, hrefused]
        simp
    · rw [hforms, unpack_other ha he hi hhead]
      simp [hhead]
  refused log := by
    by_cases hhead : log.topics.head? = some a.topic
    · rcases unpack_cases ha he hi hhead with ⟨values, v, -, hv⟩ | ⟨cause, -, hrefused⟩
      · exact .inl ⟨v, hv⟩
      · exact .inr ⟨_, hrefused⟩
    · exact .inr ⟨_, unpack_other ha he hi hhead⟩
  trailing data rest values h := Abi.decode_append h rest
  empty hsome :=
    Abi.decode_nil_of_solid (Event.allSolid_filter _ he.solid)
      (by simpa [Event.dataTypes] using hsome)

/-- Of the typed events of different signatures that agree with an interface, at most one accepts a
log. -/
theorem eq_of_unpack {e' : EventBinding} {a' : Event} (ha : a ∈ c.interface.events)
    (ha' : a' ∈ c.interface.events) (he : e.Fits a) (he' : e'.Fits a')
    (hi : c.interface.TellsEvents) {log : Log} {v : e.fields.shapes.Values}
    {v' : e'.fields.shapes.Values} (h : c.unpack e.eventType log = .ok ⟨v, log⟩)
    (h' : c.unpack e'.eventType log = .ok ⟨v', log⟩) : e.signature = e'.signature := by
  have hhead : log.topics.head? = some a.topic := by
    by_contra hother
    rw [unpack_other ha he hi hother] at h
    cases h
  have hhead' : log.topics.head? = some a'.topic := by
    by_contra hother
    rw [unpack_other ha' he' hi hother] at h'
    cases h'
  rw [hhead, Option.some.injEq] at hhead'
  have hsame : a = a' := List.inj_on_of_nodup_map hi.nodup ha ha' hhead'
  rw [← he.signature, ← he'.signature, hsame]

end Contract

end AbiBindings
