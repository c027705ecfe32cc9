import AbiBindings.Abi.Log
import AbiBindings.Abi.Topic
import AbiBindings.Proofs.Abi.Sizes
import Mathlib.Data.List.Nodup

/-!
# Logs of events

The log that an occurrence of an event leaves: the topic of each indexed argument behind the hash of
the signature, and the other arguments encoded in the data. A reader collects the arguments by name,
so it gets them back in the order of their declaration if no name is repeated, with the topic in
place of an indexed argument that is only hashed. Of arguments of one name it gets the last.

* `Event.topicsFor`, `Event.dataFor`: what an occurrence leaves.
* `Event.seen`: the arguments as they are seen in the log.
* `Event.found`: the arguments as they are found by name; `Event.Reports` says which these are.

Results:
* `Token.body_inTopic`: a topic is the body of what is left of the argument in it.
* `topicOf_eq_iff`: values have one topic if the same is left of them in it.
* `Event.decodeLog_by_name`: an occurrence is read as what is found by name.
* `Event.found_eq`: where no name is repeated, these are the arguments in their places.
* `Interface.event?_of_mem`: an event is found by its signature, if no two events have one hash.
-/

namespace AbiBindings.Abi

/-! ## Arguments in topics -/

namespace Token

/-- What is left of an indexed argument in its topic: a value that takes one word, else a hash. -/
def inTopic : Token → Token
  | .address a => .address a
  | .uint w => .uint w
  | .int w => .int w
  | .bool b => .bool b
  | .fixed b => .fixed b
  | t => .fixed (topicOf t).toList

theorem isDynamic_inTopic (t : Token) : t.inTopic.isDynamic = false := by
  cases t <;> rfl

theorem hasType_inTopic {t : Token} {type : Ty} (h : t.hasType type = true) :
    t.inTopic.hasType type.inTopic = true := by
  cases t <;> cases type <;> simp_all [hasType, inTopic, Ty.inTopic]

theorem countsWithin_inTopic (t : Token) (n : Nat) : t.inTopic.countsWithin n = true := by
  cases t <;> rfl

theorem solid_inTopic {type : Ty} (h : type.solid = true) : type.inTopic.solid = true := by
  cases type <;> first | rfl | exact h

/-- A value of a type that is not hashed is left as it is. -/
theorem inTopic_eq {t : Token} {type : Ty} (h : t.hasType type = true)
    (hkept : type.inTopic = type) : t.inTopic = t := by
  cases t <;> cases type <;> simp_all [hasType, inTopic, Ty.inTopic]

theorem encode_static {ts : List Token} (h : anyDynamic ts = false) :
    encode ts = ts.flatMap body := by
  rw [encode, ← (heads_eq_of_static h 0).1]
  induction ts with
  | nil => rfl
  | cons t rest ih =>
    rw [anyDynamic, Bool.or_eq_false_iff] at h
    simp [heads, part, h.1, ih h.2]

theorem encode_singleton {t : Token} (h : t.isDynamic = false) : encode [t] = t.body := by
  rw [encode_static (by simp [anyDynamic, h]), List.flatMap_singleton]

theorem toList_hashOfBytes {b : Bytes} (h : b.length = 32) : (hashOfBytes b).toList = b := by
  apply List.ext_getElem
  · simp [h]
  · intro i hi hi'
    simp [hashOfBytes, hi']

/-- A topic is the body of what is left of the argument in it. -/
theorem body_inTopic {t : Token} {type : Ty} (ht : t.hasType type = true)
    (hs : type.inTopic.solid = true) : t.inTopic.body = (topicOf t).toList := by
  have hword : ∀ t : Token, t.isDynamic = false → t.body.length = 32 →
      t.body = (hashOfBytes (encode [t])).toList := by
    intro t hd hlen
    rw [encode_singleton hd, toList_hashOfBytes hlen]
  have hhash : ∀ h : Hash, (Token.fixed h.toList).body = h.toList := by
    intro h
    simp [body, padRight, zeros]
  cases t with
  | address a => exact hword (.address a) rfl (by simp [body])
  | uint w => exact hword (.uint w) rfl (by simp [body])
  | int w => exact hword (.int w) rfl (by simp [body])
  | bool b => exact hword (.bool b) rfl (by simp [body])
  | fixed b =>
    obtain rfl := hasType_fixed_iff.mp ht
    obtain ⟨h1, h32⟩ : 1 ≤ b.length ∧ b.length ≤ 32 := by simpa [Ty.inTopic, Ty.solid] using hs
    exact hword (.fixed b) rfl (length_padRight h1 h32)
  | string | bytes | array | farray | tuple => exact hhash _

end Token

/-- Values without offsets and lengths are read back, whatever their size. -/
theorem decode_encode_of_static {ts : List Token} {types : List Ty}
    (ht : Token.haveTypes ts types = true) (hs : Ty.allSolid types = true)
    (hd : Token.anyDynamic ts = false) (hc : Token.allCountsWithin 0 ts = true) :
    decode types (encode ts) = .ok ts := by
  have hheld : Bytes.Holds (encode ts) 0 (layout (Token.parts ts)) := by
    simpa [encode] using Bytes.Holds.start (encode ts) []
  have hguard : ((encode ts).isEmpty && !types.all Ty.acceptsNothing) = false := by
    rw [all_acceptsNothing (Ty.allRegular_of_solid hs), Bool.and_eq_false_iff]
    cases hempty : (encode ts).isEmpty with
    | false => exact .inl rfl
    | true => exact .inr (by simp [types_eq_nil_of_encode ht hs (List.isEmpty_iff.mp hempty)])
  have hread := decodeSeq_reads (by omega) ht (Ty.allRegular_of_solid hs) hc (.of_static hd hheld)
  rw [decode, if_neg (by simp only [hguard, Bool.false_eq_true, not_false_eq_true])]
  rcases hread with hread | ⟨-, hlarge⟩
  · rw [hread]
  · omega

/-- What is left of an argument in its topic is read from it. -/
theorem decode_topicOf {t : Token} {type : Ty} (ht : t.hasType type = true)
    (hs : type.inTopic.solid = true) :
    decode [type.inTopic] (topicOf t).toList = .ok [t.inTopic] := by
  have hencode : encode [t.inTopic] = (topicOf t).toList := by
    rw [Token.encode_singleton (Token.isDynamic_inTopic t), Token.body_inTopic ht hs]
  rw [← hencode]
  exact decode_encode_of_static (by simp [Token.haveTypes, Token.hasType_inTopic ht])
    (by simp [Ty.allSolid, hs]) (by simp [Token.anyDynamic, Token.isDynamic_inTopic])
    (by simp [Token.allCountsWithin, Token.countsWithin_inTopic])

/-- Two values of one type have the same topic if and only if the same is left of them in it. -/
theorem topicOf_eq_iff {t u : Token} {type : Ty} (ht : t.hasType type = true)
    (hu : u.hasType type = true) (hs : type.solid = true) :
    topicOf t = topicOf u ↔ t.inTopic = u.inTopic := by
  have hsolid : type.inTopic.solid = true := Token.solid_inTopic hs
  constructor
  · intro h
    have hboth := decode_topicOf ht hsolid
    rw [h, decode_topicOf hu hsolid, Except.ok.injEq, List.singleton_inj] at hboth
    exact hboth.symm
  · intro h
    apply Vector.toList_inj.mp
    rw [← Token.body_inTopic ht hsolid, ← Token.body_inTopic hu hsolid, h]

/-! ## What an occurrence leaves -/

namespace Event

/-- The arguments with what the event says of them. -/
def arguments (e : Event) (ts : List Token) : List (EventParam × Token) := e.inputs.zip ts

/-- The indexed ones of the arguments. -/
def indexedValues (e : Event) (ts : List Token) : List Token :=
  ((e.arguments ts).filter (·.1.indexed)).map (·.2)

/-- The arguments that are not indexed. -/
def unindexedValues (e : Event) (ts : List Token) : List Token :=
  ((e.arguments ts).filter fun a => !a.1.indexed).map (·.2)

/-- The topics that an occurrence leaves: the hash of the signature and those of the indexed
arguments. -/
def topicsFor (e : Event) (ts : List Token) : List Hash :=
  e.topic :: (e.indexedValues ts).map topicOf

/-- The data that an occurrence leaves: the encoding of the other arguments. -/
def dataFor (e : Event) (ts : List Token) : Bytes := encode (e.unindexedValues ts)

/-- What is seen of an argument. -/
def seenOf (a : EventParam × Token) : Token := if a.1.indexed then a.2.inTopic else a.2

/-- The arguments as they are seen in the log. -/
def seen (e : Event) (ts : List Token) : List Token := (e.arguments ts).map seenOf

/-- The arguments in the order in which a reader collects them: the indexed ones first. -/
def collected (e : Event) (ts : List Token) : List (EventParam × Token) :=
  (e.arguments ts).filter (·.1.indexed) ++ (e.arguments ts).filter fun a => !a.1.indexed

/-- The argument that a reader takes for a name: the last one that is collected under it. -/
def lastNamed (e : Event) (ts : List Token) (name : String) : Option (EventParam × Token) :=
  (e.collected ts).reverse.find? fun a => a.1.name == name

/-- What a reader finds in the log, in the order of the declaration. -/
def found (e : Event) (ts : List Token) : List Token :=
  e.inputs.map fun p => ((e.lastNamed ts p.name).map seenOf).getD (.tuple [])

/-- What a log tells of its arguments. There is a value for each of them, that of the last one
collected under its name; so an argument whose name no other has is in its place. -/
structure Reports (e : Event) (ts values : List Token) : Prop where
  length : values.length = e.inputs.length
  named : ∀ (i : Nat) (p : EventParam), e.inputs[i]? = some p →
    ∃ a, e.lastNamed ts p.name = some a ∧ values[i]? = some (seenOf a)
  kept : ∀ (i : Nat) (a : EventParam × Token), (e.arguments ts)[i]? = some a →
    (∀ (j : Nat) (b : EventParam × Token), (e.arguments ts)[j]? = some b →
      b.1.name = a.1.name → j = i) →
    values[i]? = some (seenOf a)

variable {e : Event} {ts : List Token}

/-- Some of the arguments have some of the types. -/
theorem haveTypes_filter (p : EventParam → Bool) : ∀ {inputs : List EventParam} {ts : List Token},
    Token.haveTypes ts (inputs.map (·.type)) = true →
    Token.haveTypes (((inputs.zip ts).filter fun a => p a.1).map (·.2))
      ((inputs.filter p).map (·.type)) = true
  | [], _, _ => rfl
  | q :: inputs, [], h => by cases h
  | q :: inputs, t :: ts, h => by
    simp only [List.map_cons, Token.haveTypes, Bool.and_eq_true] at h
    have hrest := haveTypes_filter p h.2
    cases hq : p q <;> simp [hq, Token.haveTypes, h.1, hrest]

theorem allSolid_filter (p : EventParam → Bool) {inputs : List EventParam}
    (h : Ty.allSolid (inputs.map (·.type)) = true) :
    Ty.allSolid ((inputs.filter p).map (·.type)) = true := by
  induction inputs with
  | nil => rfl
  | cons q inputs ih =>
    simp only [List.map_cons, Ty.allSolid, Bool.and_eq_true] at h
    cases hq : p q <;> simp [hq, Ty.allSolid, h.1, ih h.2]

theorem haveTypes_map_inTopic {types : List Ty} (h : Token.haveTypes ts types = true) :
    Token.haveTypes (ts.map Token.inTopic) (types.map Ty.inTopic) = true := by
  induction ts generalizing types with
  | nil => cases types <;> simp_all [Token.haveTypes]
  | cons t ts ih =>
    cases types with
    | nil => cases h
    | cons type types =>
      simp only [Token.haveTypes, Bool.and_eq_true] at h
      simp [Token.haveTypes, Token.hasType_inTopic h.1, ih h.2]

theorem allSolid_map_inTopic {types : List Ty} (h : Ty.allSolid types = true) :
    Ty.allSolid (types.map Ty.inTopic) = true := by
  induction types with
  | nil => rfl
  | cons type types ih =>
    simp only [Ty.allSolid, Bool.and_eq_true] at h
    simp [Ty.allSolid, Token.solid_inTopic h.1, ih h.2]

theorem map_inTopic_static (ts : List Token) :
    Token.anyDynamic (ts.map Token.inTopic) = false ∧
      Token.allCountsWithin 0 (ts.map Token.inTopic) = true := by
  induction ts with
  | nil => exact ⟨rfl, rfl⟩
  | cons t ts ih =>
    simp [Token.anyDynamic, Token.allCountsWithin, Token.isDynamic_inTopic,
      Token.countsWithin_inTopic, ih.1, ih.2]

/-- The topics of arguments spell the encoding of what is left of them. -/
theorem flatMap_topicOf {types : List Ty} (h : Token.haveTypes ts types = true)
    (hs : Ty.allSolid (types.map Ty.inTopic) = true) :
    (ts.map topicOf).flatMap Vector.toList = (ts.map Token.inTopic).flatMap Token.body := by
  induction ts generalizing types with
  | nil => rfl
  | cons t ts ih =>
    cases types with
    | nil => cases h
    | cons type types =>
      simp only [Token.haveTypes, List.map_cons, Ty.allSolid, Bool.and_eq_true] at h hs
      simp only [List.map_cons, List.flatMap_cons, Token.body_inTopic h.1 hs.1, ih h.2 hs.2]

theorem topicTypes_eq : e.topicTypes = (e.indexed.map (·.type)).map Ty.inTopic := by
  simp [topicTypes]

theorem allSolid_topicTypes (hs : Ty.allSolid (e.indexed.map (·.type)) = true) :
    Ty.allSolid e.topicTypes = true :=
  topicTypes_eq (e := e) ▸ allSolid_map_inTopic hs

theorem haveTypes_unindexedValues (ht : Token.haveTypes ts e.inputTypes = true) :
    Token.haveTypes (e.unindexedValues ts) e.dataTypes = true :=
  haveTypes_filter (fun q => !q.indexed) ht

/-- The indexed arguments are read from the topics, if each of them takes one word in its topic. -/
theorem decode_topicTypes (ht : Token.haveTypes ts e.inputTypes = true)
    (hs : Ty.allSolid e.topicTypes = true) :
    decode e.topicTypes (((e.indexedValues ts).map topicOf).flatMap Vector.toList) =
      .ok ((e.indexedValues ts).map Token.inTopic) := by
  have hvalues : Token.haveTypes (e.indexedValues ts) (e.indexed.map (·.type)) = true :=
    haveTypes_filter (·.indexed) ht
  obtain ⟨hstatic, hcounts⟩ := map_inTopic_static (e.indexedValues ts)
  rw [topicTypes_eq] at hs ⊢
  rw [flatMap_topicOf hvalues hs, ← Token.encode_static hstatic]
  exact decode_encode_of_static (haveTypes_map_inTopic hvalues) hs hstatic hcounts

/-- The indexed arguments are read from the topics. -/
theorem decode_topics (ht : Token.haveTypes ts e.inputTypes = true)
    (hs : Ty.allSolid (e.indexed.map (·.type)) = true) :
    decode e.topicTypes (((e.indexedValues ts).map topicOf).flatMap Vector.toList) =
      .ok ((e.indexedValues ts).map Token.inTopic) :=
  decode_topicTypes ht (allSolid_topicTypes hs)

/-! ## Reading by name -/

theorem arguments_fst (hlen : ts.length = e.inputs.length) :
    (e.arguments ts).map (·.1) = e.inputs :=
  List.map_fst_zip hlen.ge

theorem zip_filter {α β : Type} (p : EventParam → Bool) (f : EventParam → α) (g : Token → β) :
    ∀ {inputs : List EventParam} {ts : List Token}, ts.length = inputs.length →
      ((inputs.filter p).map f).zip ((((inputs.zip ts).filter fun a => p a.1).map (·.2)).map g) =
        ((inputs.zip ts).filter fun a => p a.1).map fun a => (f a.1, g a.2)
  | [], _, _ => rfl
  | q :: inputs, [], h => by cases h
  | q :: inputs, t :: ts, h => by
    have hrest := zip_filter p f g (Nat.succ.inj h)
    cases hq : p q <;> simp_all

/-- The names and values that a reader puts together are those of the collected arguments. -/
theorem zip_names (hlen : ts.length = e.inputs.length) :
    (e.indexed.map (·.name)).zip ((e.indexedValues ts).map Token.inTopic) ++
        (e.unindexed.map (·.name)).zip (e.unindexedValues ts) =
      (e.collected ts).map fun a => (a.1.name, seenOf a) := by
  have hindexed : (e.indexed.map (·.name)).zip ((e.indexedValues ts).map Token.inTopic) =
      ((e.arguments ts).filter (·.1.indexed)).map fun a => (a.1.name, seenOf a) := by
    refine (zip_filter (·.indexed) (·.name) Token.inTopic hlen).trans ?_
    refine List.map_congr_left fun a ha => ?_
    simp [seenOf, (List.mem_filter.mp ha).2]
  have hunindexed : (e.unindexed.map (·.name)).zip (e.unindexedValues ts) =
      ((e.arguments ts).filter fun a => !a.1.indexed).map fun a => (a.1.name, seenOf a) := by
    have hzip := zip_filter (fun q => !q.indexed) (·.name) id hlen
    rw [List.map_id] at hzip
    refine hzip.trans (List.map_congr_left fun a ha => ?_)
    have hkept : a.1.indexed = false := by simpa using (List.mem_filter.mp ha).2
    simp [seenOf, hkept]
  rw [hindexed, hunindexed, ← List.map_append, collected]

theorem lookup_map (values : List (EventParam × Token)) (name : String) :
    (values.map fun a => (a.1.name, seenOf a)).lookup name =
      (values.find? fun a => a.1.name == name).map seenOf := by
  induction values with
  | nil => rfl
  | cons a values ih =>
    rw [List.map_cons, List.lookup_cons, List.find?_cons, ih]
    rw [BEq.comm (a := name)]
    cases a.1.name == name <;> rfl

/-- What a reader finds under a name is what is seen of the last argument collected under it. -/
theorem valueOf_collected (name : String) :
    valueOf ((e.collected ts).map fun a => (a.1.name, seenOf a)) name =
      ((e.lastNamed ts name).map seenOf).getD (.tuple []) := by
  rw [valueOf, ← List.map_reverse, lookup_map, lastNamed]

theorem mem_collected {a : EventParam × Token} : a ∈ e.collected ts ↔ a ∈ e.arguments ts := by
  rw [collected, List.mem_append, List.mem_filter, List.mem_filter]
  cases a.1.indexed <;> simp

/-- An argument is found under the name of every argument. -/
theorem lastNamed_of_mem {a : EventParam × Token} (ha : a ∈ e.arguments ts) :
    ∃ b ∈ e.arguments ts, b.1.name = a.1.name ∧ e.lastNamed ts a.1.name = some b := by
  have hsome : (e.lastNamed ts a.1.name).isSome = true := by
    rw [lastNamed, List.find?_isSome]
    exact ⟨a, List.mem_reverse.mpr (mem_collected.mpr ha), beq_self_eq_true _⟩
  obtain ⟨b, hb⟩ := Option.isSome_iff_exists.mp hsome
  have hmem := List.mem_of_find?_eq_some hb
  have hname := List.find?_some hb
  exact ⟨b, mem_collected.mp (List.mem_reverse.mp hmem), by simpa using hname, hb⟩

/-- What a reader finds, in the order of the declaration. -/
theorem reports_found (hlen : ts.length = e.inputs.length) : e.Reports ts (e.found ts) := by
  -- Every input has an argument in its place, and something is found under the name of an argument.
  have hargument : ∀ (i : Nat) (p : EventParam), e.inputs[i]? = some p →
      ∃ t, (e.arguments ts)[i]? = some (p, t) := by
    intro i p hp
    rw [← arguments_fst hlen, List.getElem?_map, Option.map_eq_some_iff] at hp
    obtain ⟨a, ha, rfl⟩ := hp
    exact ⟨a.2, ha⟩
  have hfound : ∀ (i : Nat) (a : EventParam × Token), (e.arguments ts)[i]? = some a →
      ∃ b ∈ e.arguments ts, b.1.name = a.1.name ∧ e.lastNamed ts a.1.name = some b ∧
        (e.found ts)[i]? = some (seenOf b) := by
    intro i a ha
    obtain ⟨b, hb, hname, hlast⟩ := lastNamed_of_mem (List.mem_of_getElem? ha)
    have hinput : e.inputs[i]? = some a.1 := by
      rw [← arguments_fst hlen, List.getElem?_map, ha]
      rfl
    exact ⟨b, hb, hname, hlast, by simp [found, hinput, hlast]⟩
  refine ⟨by simp [found], fun i p hp => ?_, fun i a ha halone => ?_⟩
  · obtain ⟨t, ht⟩ := hargument i p hp
    obtain ⟨b, -, -, hlast, hvalue⟩ := hfound i (p, t) ht
    exact ⟨b, hlast, hvalue⟩
  · obtain ⟨b, hb, hname, -, hvalue⟩ := hfound i a ha
    obtain ⟨j, hj⟩ := List.mem_iff_getElem?.mp hb
    obtain rfl := halone j b hj hname
    rw [ha, Option.some.injEq] at hj
    rw [hvalue, hj]

/-- A log tells nothing else of its arguments. -/
theorem Reports.eq_found {values : List Token} (h : e.Reports ts values) : values = e.found ts := by
  apply List.ext_getElem?
  intro i
  rw [found, List.getElem?_map]
  cases hp : e.inputs[i]? with
  | none =>
    have hend : e.inputs.length ≤ i := List.getElem?_eq_none_iff.mp hp
    rw [List.getElem?_eq_none (by rw [h.length]; exact hend)]
    rfl
  | some p =>
    obtain ⟨a, hlast, hvalue⟩ := h.named i p hp
    rw [hvalue, Option.map_some, hlast]
    rfl

/-- The arguments are found in their places, where no name is repeated. -/
theorem found_eq (hlen : ts.length = e.inputs.length) (hnames : (e.inputs.map (·.name)).Nodup) :
    e.found ts = e.seen ts := by
  have hreports := reports_found hlen
  apply List.ext_getElem?
  intro i
  rw [seen, List.getElem?_map]
  cases ha : (e.arguments ts)[i]? with
  | none =>
    have hend : e.inputs.length ≤ i := by
      rw [← arguments_fst hlen, List.length_map]
      exact List.getElem?_eq_none_iff.mp ha
    rw [List.getElem?_eq_none (by rw [hreports.length]; exact hend)]
    rfl
  | some a =>
    refine hreports.kept i a ha fun j b hb hname => ?_
    have hkeys : ∀ {k : Nat} {x : EventParam × Token}, (e.arguments ts)[k]? = some x →
        (e.inputs.map (·.name))[k]? = some x.1.name := by
      intro k x hx
      rw [← arguments_fst hlen, List.map_map, List.getElem?_map, hx]
      rfl
    have hi := hkeys ha
    rw [← hname] at hi
    have hlt : j < (e.inputs.map (·.name)).length := (List.getElem?_eq_some_iff.mp (hkeys hb)).1
    exact (List.getElem?_inj hlt hnames).mp ((hkeys hb).trans hi.symm)

theorem argumentTopics_topicsFor (hanonymous : e.anonymous = false) :
    e.argumentTopics (e.topicsFor ts) = (e.indexedValues ts).map topicOf := by
  simp [argumentTopics, hanonymous, topicsFor]

/-- A log with the topics of an occurrence is read as what is found under the names of its
arguments, if the data holds the other ones, and refused if the data is. -/
theorem decodeLog_topicsFor (hanonymous : e.anonymous = false)
    (ht : Token.haveTypes ts e.inputTypes = true) (hs : Ty.allSolid e.topicTypes = true)
    (data : Bytes) :
    (decode e.dataTypes data = .ok (e.unindexedValues ts) →
      e.decodeLog (e.topicsFor ts) data = .ok (e.found ts)) ∧
    ∀ cause, decode e.dataTypes data = .error cause →
      e.decodeLog (e.topicsFor ts) data = .error cause := by
  have hlen : ts.length = e.inputs.length := by
    simpa [inputTypes] using Token.haveTypes_length ht
  have htopic : (!e.anonymous && (e.topicsFor ts).head? != some e.topic) = false := by
    simp [hanonymous, topicsFor]
  simp only [decodeLog, htopic, argumentTopics_topicsFor hanonymous, decode_topicTypes ht hs,
    Bool.false_eq_true, if_false, List.length_map, ne_eq, not_true_eq_false]
  refine ⟨fun hdata => ?_, fun cause hdata => by rw [hdata]⟩
  rw [hdata]
  simp only [zip_names hlen, valueOf_collected]
  rfl

/-- An occurrence of an event is read as what is found under the names of its arguments, or refused
for the size of its data. -/
theorem decodeLog_by_name (hanonymous : e.anonymous = false)
    (ht : Token.haveTypes ts e.inputTypes = true) (hs : Ty.allSolid e.inputTypes = true)
    (hsize : (e.dataFor ts).length < 2 ^ 256) :
    e.decodeLog (e.topicsFor ts) (e.dataFor ts) = .ok (e.found ts) ∨
      e.decodeLog (e.topicsFor ts) (e.dataFor ts) = .error .invalid ∧
        2 ^ 32 ≤ (e.dataFor ts).length := by
  have hvalues := haveTypes_unindexedValues ht
  have hsolid : Ty.allSolid e.dataTypes = true := allSolid_filter (fun q => !q.indexed) hs
  have htopics := allSolid_topicTypes (allSolid_filter (·.indexed) hs)
  have hread := decode_encode_of_solid hvalues hsolid hsize []
  rw [List.append_nil] at hread
  obtain ⟨hfound, hrefused⟩ := decodeLog_topicsFor hanonymous ht htopics (e.dataFor ts)
  rcases hread with hread | ⟨hread, hlarge⟩
  · exact .inl (hfound hread)
  · exact .inr ⟨hrefused _ hread, hlarge⟩

/-- An occurrence of an event is refused if an argument in the data is too long. -/
theorem decodeLog_of_tooLong (hanonymous : e.anonymous = false)
    (ht : Token.haveTypes ts e.inputTypes = true) (hs : Ty.allSolid e.inputTypes = true)
    (hsize : (e.dataFor ts).length < 2 ^ 256) {t : Token} (hmem : t ∈ e.unindexedValues ts)
    (hlong : t.TooLong) : e.decodeLog (e.topicsFor ts) (e.dataFor ts) = .error .invalid := by
  have hvalues := haveTypes_unindexedValues ht
  have hsolid : Ty.allSolid e.dataTypes = true := allSolid_filter (fun q => !q.indexed) hs
  have htopics := allSolid_topicTypes (allSolid_filter (·.indexed) hs)
  exact (decodeLog_topicsFor hanonymous ht htopics (e.dataFor ts)).2 _
    (decode_encode_of_tooLong hvalues hsolid hsize hmem hlong)

/-- Arguments whose indexed ones are not hashed are seen as they are. -/
theorem seen_eq (ht : Token.haveTypes ts e.inputTypes = true)
    (hkept : ∀ p ∈ e.inputs, p.indexed = true → p.type.inTopic = p.type) : e.seen ts = ts := by
  have hall : ∀ (inputs : List EventParam) (ts : List Token),
      Token.haveTypes ts (inputs.map (·.type)) = true →
      (∀ p ∈ inputs, p.indexed = true → p.type.inTopic = p.type) →
      (inputs.zip ts).map seenOf = ts := by
    intro inputs
    induction inputs with
    | nil =>
      intro ts ht _
      cases ts <;> simp_all [Token.haveTypes]
    | cons p inputs ih =>
      intro ts ht hkept
      cases ts with
      | nil => cases ht
      | cons t ts =>
        simp only [List.map_cons, Token.haveTypes, Bool.and_eq_true] at ht
        have hrest := ih ts ht.2 fun q hq => hkept q (List.mem_cons_of_mem p hq)
        rw [List.zip_cons_cons, List.map_cons, hrest, seenOf]
        split
        · rename_i hindexed
          rw [Token.inTopic_eq ht.1 (hkept p List.mem_cons_self hindexed)]
        · rfl
  exact hall e.inputs ts ht hkept

end Event

/-- By the signature of an event, an event with the same hash is found. -/
theorem Interface.event?_signature {i : Interface} {e : Event} (he : e ∈ i.events) :
    ∃ a ∈ i.events, a.topic = e.topic ∧ i.event? e.signature = some a := by
  cases hfind : i.event? e.signature with
  | none =>
    have hnone := List.find?_eq_none.mp hfind e he
    exact absurd (beq_self_eq_true e.topic) hnone
  | some a =>
    have htopic := List.find?_some hfind
    exact ⟨a, List.mem_of_find?_eq_some hfind, eq_of_beq htopic, rfl⟩

/-- An event is found by its signature, if no two events have one hash. -/
theorem Interface.event?_of_mem {i : Interface} (h : (i.events.map Event.topic).Nodup) {e : Event}
    (he : e ∈ i.events) : i.event? e.signature = some e := by
  obtain ⟨a, ha, htopic, hfound⟩ := event?_signature he
  rw [hfound, List.inj_on_of_nodup_map h ha he htopic]

end AbiBindings.Abi
