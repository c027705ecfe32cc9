import AbiBindings.Proofs.Contract.Calls
import AbiBindings.Proofs.Contract.Occurrences

/-!
# Filters for events

Which logs a node selects for the filter of an event. Sets of values are given for the first indexed
arguments, one set for each, and an empty set leaves its argument free. A log that an occurrence of
the event leaves at the address of the contract is selected if and only if every set that is not
empty has the value of its argument, where a string or byte string counts as any other with the same
hash.

* `Abi.Token.Collides`: contents that have one hash.
* `Abi.Event.Offers`, `Abi.Event.Admits`: sets of values for the indexed arguments, and which
  arguments they admit.
* `Filter.Selects`: a filter that selects the logs of a contract that are admitted.

Results:
* `TopicSet.acceptAll_iff`: the rule of the node, position by position.
* `Abi.topicOf_eq_iff_of_simple`: values have one topic if they are equal or their hashes collide.
* `Contract.filters_select`: the filters of queries and subscriptions.
-/

namespace AbiBindings

open Abi (Token Ty Event EventParam topicOf topicsOf)

/-! ## Values and their topics -/

namespace Abi

/-- Whether the values of the type are whole words, strings or byte strings. -/
def Ty.isSimple : Ty → Bool
  | .array _ | .farray _ _ | .tuple _ => false
  | .fixed size => 1 ≤ size && size ≤ 32
  | _ => true

/-- Two contents that have one hash. -/
inductive Token.Collides : Token → Token → Prop
  | string {s r : String} (hne : s ≠ r) (h : keccak256 (utf8 s) = keccak256 (utf8 r)) :
      Collides (.string s) (.string r)
  | bytes {b d : Bytes} (hne : b ≠ d) (h : keccak256 b = keccak256 d) :
      Collides (.bytes b) (.bytes d)

theorem Ty.solid_of_simple {type : Ty} (h : type.isSimple = true) : type.solid = true := by
  cases type <;> first | rfl | exact h | cases h

theorem Ty.allSolid_of_simple {types : List Ty} (h : ∀ type ∈ types, type.isSimple = true) :
    Ty.allSolid types = true := by
  induction types with
  | nil => rfl
  | cons type types ih =>
    rw [Ty.allSolid, Ty.solid_of_simple (h type List.mem_cons_self), Bool.true_and]
    exact ih fun u hu => h u (List.mem_cons_of_mem type hu)

/-- Two simple values of one type have the same topic if and only if they are equal or their hashes
collide. -/
theorem topicOf_eq_iff_of_simple {t u : Token} {type : Ty} (ht : t.hasType type = true)
    (hu : u.hasType type = true) (hs : type.isSimple = true) :
    topicOf t = topicOf u ↔ t = u ∨ t.Collides u := by
  have hiff := topicOf_eq_iff ht hu (Ty.solid_of_simple hs)
  have hvalue : type.inTopic = type → (topicOf t = topicOf u ↔ t = u) := by
    intro hkept
    rw [hiff, Token.inTopic_eq ht hkept, Token.inTopic_eq hu hkept]
  cases type with
  | string =>
    cases Token.typed_of_hasType ht with
    | string s =>
      cases Token.typed_of_hasType hu with
      | string r =>
        by_cases hsr : s = r
        · simp [hsr]
        · refine ⟨fun h => .inr (.string hsr h), fun h => ?_⟩
          rcases h with h | h
          · exact absurd (Token.string.inj h) hsr
          · cases h with
            | string _ hhash => exact hhash
  | bytes =>
    cases Token.typed_of_hasType ht with
    | bytes b =>
      cases Token.typed_of_hasType hu with
      | bytes d =>
        by_cases hbd : b = d
        · simp [hbd]
        · refine ⟨fun h => .inr (.bytes hbd h), fun h => ?_⟩
          rcases h with h | h
          · exact absurd (Token.bytes.inj h) hbd
          · cases h with
            | bytes _ hhash => exact hhash
  | array | farray | tuple => cases hs
  | _ =>
    have hnot : ¬ t.Collides u := by rintro (_ | _) <;> cases ht
    simp [hvalue rfl, hnot]

/-! ## Sets of values -/

/-- Whether a set has a value, where contents with one hash count as the same. -/
def Token.FoundIn (t : Token) (set : List Token) : Prop := ∃ u ∈ set, t = u ∨ t.Collides u

namespace Event

/-- Whether sets of values are given for the indexed arguments: each has values of the type. -/
def Offers (e : Event) (sets : List (List Token)) : Prop :=
  ∀ (i : Nat) (p : EventParam) (set : List Token), e.indexed[i]? = some p → sets[i]? = some set →
    ∀ t ∈ set, t.hasType p.type = true

/-- Whether sets of values admit some arguments: each set that is not empty has the value of the
indexed argument in its place. -/
def Admits (e : Event) (sets : List (List Token)) (ts : List Token) : Prop :=
  ∀ (i : Nat) (set : List Token), sets[i]? = some set →
    set = [] ∨ ∃ t, (e.indexedValues ts)[i]? = some t ∧ t.FoundIn set

end Event

end Abi

/-! ## The rule of the node -/

namespace TopicSet

/-- The topics of a log are accepted if each position is. -/
theorem acceptAll_iff {sets : List TopicSet} {topics : List Hash} :
    acceptAll sets topics = true ↔
      ∀ (i : Nat) (s : TopicSet), sets[i]? = some s → s.accepts topics[i]? = true := by
  induction sets generalizing topics with
  | nil => simp [acceptAll]
  | cons s sets ih =>
    rw [acceptAll, Bool.and_eq_true, ih, List.head?_eq_getElem?]
    constructor
    · rintro ⟨hhead, htail⟩ i r hr
      cases i with
      | zero =>
        obtain rfl : s = r := by simpa using hr
        exact hhead
      | succ i =>
        have haccepts := htail i r (by simpa using hr)
        rwa [List.getElem?_tail] at haccepts
    · intro h
      refine ⟨h 0 s rfl, fun i r hr => ?_⟩
      rw [List.getElem?_tail]
      exact h (i + 1) r (by simpa using hr)

end TopicSet

/-- A filter that selects the logs of a contract that an event with admitted arguments leaves, and
no log with another first topic or of another contract. -/
structure Filter.Selects (f : Filter) (c : Contract) (e : Event) (sets : List (List Token)) :
    Prop where
  own : ∀ (ts : List Token) (log : Log), e.Logged ts log → log.address = c.address →
    (f.matches log = true ↔ e.Admits sets ts)
  other : ∀ (a : Event) (ts : List Token) (log : Log), a.topic ≠ e.topic → a.Logged ts log →
    f.matches log = false
  head : ∀ log : Log, log.topics.head? ≠ some e.topic → f.matches log = false
  elsewhere : ∀ log : Log, log.address ≠ c.address → f.matches log = false

namespace Contract

variable {c : Contract} {e : Event} {sets : List (List Token)}

/-- A set of topics accepts a position if it is empty or has what is found there. -/
theorem accepts_topicSet {topics : List Hash} {found : Option Hash} :
    (topicSet topics).accepts found = true ↔ topics = [] ∨ ∃ h, found = some h ∧ h ∈ topics := by
  unfold topicSet
  cases topics with
  | nil => simp [TopicSet.accepts]
  | cons h rest =>
    cases found with
    | none => simp [TopicSet.accepts]
    | some g => simp [TopicSet.accepts]

/-- The logs that the filter of an event with sets of topics matches, over whatever blocks. -/
theorem matches_eventFilter {topics : List (List Hash)} {f : Filter}
    (h : c.eventFilter e topics = .ok f) (first last : Option Block) (log : Log) :
    { f with from? := first, to? := last }.matches log = true ↔
      log.address = c.address ∧ log.topics.head? = some e.topic ∧
        ∀ (i : Nat) (set : List Hash), topics[i]? = some set →
          set = [] ∨ ∃ g, log.topics[i + 1]? = some g ∧ g ∈ set := by
  unfold eventFilter at h
  split at h
  · cases h
  · obtain rfl := Except.ok.inj h
    -- The positions behind the sets accept anything.
    have hfree : ∀ (i : Nat) (s : TopicSet),
        (List.replicate (topicLimit - (topics.map topicSet).length) TopicSet.any)[i]? = some s →
        s = .any := fun i s hs => List.eq_of_mem_replicate (List.mem_of_getElem? hs)
    simp only [Filter.matches, Option.all_some, Bool.and_eq_true, beq_iff_eq, List.cons_append,
      TopicSet.acceptAll, TopicSet.acceptAll_iff, TopicSet.accepts, List.getElem?_tail]
    refine and_congr eq_comm (and_congr Iff.rfl ?_)
    constructor
    · intro hall i set hset
      have hlt : i < (topics.map topicSet).length := by
        simpa using (List.getElem?_eq_some_iff.mp hset).1
      have haccepts := hall i (topicSet set) (by
        rw [List.getElem?_append_left hlt, List.getElem?_map, hset]
        rfl)
      exact accepts_topicSet.mp haccepts
    · intro hall i s hs
      by_cases hlt : i < (topics.map topicSet).length
      · rw [List.getElem?_append_left hlt, List.getElem?_map, Option.map_eq_some_iff] at hs
        obtain ⟨set, hset, rfl⟩ := hs
        exact accepts_topicSet.mpr (hall i set hset)
      · rw [List.getElem?_append_right (by omega)] at hs
        rw [hfree _ s hs]

/-- The topic of an argument is one of the topics of a set if and only if the set has the argument.
-/
theorem topicOf_mem_iff {t : Token} {set : List Token} {type : Ty} (ht : t.hasType type = true)
    (hset : ∀ u ∈ set, u.hasType type = true) (hs : type.isSimple = true) :
    topicOf t ∈ topicsOf set ↔ t.FoundIn set := by
  have hiff : ∀ u ∈ set, (topicOf u = topicOf t ↔ t = u ∨ t.Collides u) := fun u hu => by
    rw [eq_comm, Abi.topicOf_eq_iff_of_simple ht (hset u hu) hs]
  rw [topicsOf, List.mem_map, Token.FoundIn]
  exact exists_congr fun u => and_congr_right fun hu => hiff u hu

/-- In the log of an occurrence, the topic in some place is one of those of a set if and only if the
set has the indexed argument in this place. -/
theorem topic_found_iff (hsimple : ∀ p ∈ e.indexed, p.type.isSimple = true)
    (hsets : e.Offers sets) {ts : List Token} {log : Log} (hlog : e.Logged ts log) {i : Nat}
    {set : List Token} (hset : sets[i]? = some set) :
    (∃ g, log.topics[i + 1]? = some g ∧ g ∈ topicsOf set) ↔
      ∃ t, (e.indexedValues ts)[i]? = some t ∧ t.FoundIn set := by
  have htypes : Token.haveTypes (e.indexedValues ts) (e.indexed.map (·.type)) = true :=
    Event.haveTypes_filter (·.indexed) hlog.typed
  have hargument : ∀ t, (e.indexedValues ts)[i]? = some t →
      (topicOf t ∈ topicsOf set ↔ t.FoundIn set) := by
    intro t ht
    obtain ⟨type, htype, hhas⟩ := Token.hasType_of_getElem? htypes ht
    rw [List.getElem?_map, Option.map_eq_some_iff] at htype
    obtain ⟨p, hp, rfl⟩ := htype
    exact topicOf_mem_iff hhas (hsets i p set hp hset) (hsimple p (List.mem_of_getElem? hp))
  rw [hlog.topics, Event.topicsFor, List.getElem?_cons_succ, List.getElem?_map]
  constructor
  · rintro ⟨g, hg, hmem⟩
    obtain ⟨t, ht, rfl⟩ := Option.map_eq_some_iff.mp hg
    exact ⟨t, ht, (hargument t ht).mp hmem⟩
  · rintro ⟨t, ht, hfound⟩
    exact ⟨topicOf t, by rw [ht]; rfl, (hargument t ht).mpr hfound⟩

/-- The topics of the log of an occurrence are accepted if and only if the sets admit its arguments.
-/
theorem admits_iff (hsimple : ∀ p ∈ e.indexed, p.type.isSimple = true) (hsets : e.Offers sets)
    {ts : List Token} {log : Log} (hlog : e.Logged ts log) :
    (∀ (i : Nat) (set : List Hash), (sets.map topicsOf)[i]? = some set →
      set = [] ∨ ∃ g, log.topics[i + 1]? = some g ∧ g ∈ set) ↔ e.Admits sets ts := by
  constructor
  · intro hall i set hset
    have hone := hall i (topicsOf set) (by rw [List.getElem?_map, hset]; rfl)
    rw [topic_found_iff hsimple hsets hlog hset, topicsOf, List.map_eq_nil_iff] at hone
    exact hone
  · intro hadmits i topics htopics
    rw [List.getElem?_map, Option.map_eq_some_iff] at htopics
    obtain ⟨set, hset, rfl⟩ := htopics
    rw [topic_found_iff hsimple hsets hlog hset, topicsOf, List.map_eq_nil_iff]
    exact hadmits i set hset

/-- The filter of an event with the topics of sets selects what the sets admit. -/
theorem selects_of_eventFilter (hsimple : ∀ p ∈ e.indexed, p.type.isSimple = true)
    (hsets : e.Offers sets) {f : Filter} (hf : c.eventFilter e (sets.map topicsOf) = .ok f)
    (first last : Option Block) :
    { f with from? := first, to? := last }.Selects c e sets := by
  have hmatches := matches_eventFilter hf first last
  have hhead : ∀ log : Log, log.topics.head? ≠ some e.topic →
      { f with from? := first, to? := last }.matches log = false := by
    intro log hlog
    exact Bool.eq_false_iff.mpr fun h => hlog ((hmatches log).mp h).2.1
  refine ⟨fun ts log hlog haddress => ?_, fun a ts log hother hlog => ?_, hhead,
    fun log hlog => Bool.eq_false_iff.mpr fun h => hlog ((hmatches log).mp h).1⟩
  · rw [hmatches, admits_iff hsimple hsets hlog]
    exact ⟨fun h => h.2.2, fun h => ⟨haddress, hlog.head, h⟩⟩
  · apply hhead
    rw [hlog.head]
    exact fun h => hother (Option.some.inj h)

theorem eventFilter_of_topic {a : Event} (htopic : a.topic = e.topic) {topics : List (List Hash)}
    (hcount : topics.length ≤ topicLimit) :
    ∃ f, c.eventFilter a topics = .ok f ∧ c.eventFilter e topics = .ok f := by
  have hlimit : ¬ topicLimit < topics.length := by omega
  simp only [eventFilter, if_neg hlimit, htopic, Except.ok.injEq, and_self, exists_eq']

theorem pastLogs_eq {signature : String} {topics : List (List Hash)} {f : Filter}
    (he : c.event signature = .ok e) (hf : c.eventFilter e topics = .ok f) (o : FilterOptions) :
    c.pastLogs o signature topics =
      Action.request (.logs { f with
        from? := some (.number o.start), to? := some ((o.last?.map .number).getD .latest) }) := by
  rw [pastLogs, he, Action.ofExcept_ok_bind, hf, Action.ofExcept_ok_bind]
  cases o.last? <;> rfl

theorem subscribe_eq {signature : String} {topics : List (List Hash)} {f : Filter}
    (he : c.event signature = .ok e) (hf : c.eventFilter e topics = .ok f) (o : WatchOptions) :
    c.subscribe o signature topics =
      Action.request (.subscribe { f with from? := o.start?.map .number, to? := f.to? }) := by
  rw [subscribe, he, Action.ofExcept_ok_bind, hf, Action.ofExcept_ok_bind]

/-- The filters that a bound contract hands to a node for an event and sets of values of its indexed
arguments, in queries for past logs and in subscriptions, select the logs whose arguments the sets
admit. These arguments are what a reader of the log finds in its topics. More sets than a filter can
take are refused before anything is asked. -/
theorem filters_select (he : e ∈ c.interface.events)
    (hsimple : ∀ p ∈ e.indexed, p.type.isSimple = true) (sets : List (List Token)) :
    (sets.length ≤ topicLimit → e.Offers sets →
      (∀ o, ∃ f, c.pastLogs o e.signature (sets.map topicsOf) = Action.request (.logs f) ∧
        f.Selects c e sets) ∧
      ∀ o, ∃ f, c.subscribe o e.signature (sets.map topicsOf) = Action.request (.subscribe f) ∧
        f.Selects c e sets) ∧
    (∀ (ts : List Token) (log : Log), e.Logged ts log →
      Abi.decode e.topicTypes ((e.argumentTopics log.topics).flatMap Vector.toList) =
        .ok ((e.indexedValues ts).map Token.inTopic)) ∧
    (topicLimit < sets.length → ∃ name,
      (∀ o, (c.pastLogs o e.signature (sets.map topicsOf)).FailsAtOnce
        (.abi (.tooManyTopics name sets.length))) ∧
      ∀ o, (c.subscribe o e.signature (sets.map topicsOf)).FailsAtOnce
        (.abi (.tooManyTopics name sets.length))) := by
  obtain ⟨a, -, htopic, hfound⟩ := Abi.Interface.event?_signature he
  have hevent : c.event e.signature = .ok a := by rw [event, hfound]
  refine ⟨fun hcount hsets => ?_, fun ts log hlog => ?_, fun hmany => ⟨a.name, ?_⟩⟩
  · have hlimit : (sets.map topicsOf).length ≤ topicLimit := by rwa [List.length_map]
    obtain ⟨f, hf, hown⟩ := eventFilter_of_topic (c := c) htopic hlimit
    exact ⟨fun o => ⟨_, pastLogs_eq hevent hf o, selects_of_eventFilter hsimple hsets hown _ _⟩,
      fun o => ⟨_, subscribe_eq hevent hf o, selects_of_eventFilter hsimple hsets hown _ _⟩⟩
  · have htopics : e.argumentTopics log.topics = (e.indexedValues ts).map topicOf := by
      simp [Event.argumentTopics, hlog.named, hlog.topics, Event.topicsFor]
    rw [htopics]
    exact Event.decode_topics hlog.typed (Ty.allSolid_of_simple (by simpa using hsimple))
  · have hrefused : c.eventFilter a (sets.map topicsOf) =
        .error (.abi (.tooManyTopics a.name sets.length)) := by
      rw [eventFilter, List.length_map, if_pos hmany]
    constructor
    · intro o
      rw [pastLogs, hevent, Action.ofExcept_ok_bind]
      exact Action.failsAtOnce_ofExcept hrefused _
    · intro o
      rw [subscribe, hevent, Action.ofExcept_ok_bind]
      exact Action.failsAtOnce_ofExcept hrefused _

/-- A transfer between two accounts, both indexed. -/
def transferred : Event :=
  ⟨"Transfer", [⟨"from", .address, true⟩, ⟨"to", .address, true⟩, ⟨"value", .uint 256, false⟩],
    false⟩

theorem transferred_logged (payer recipient : Address) (w : Word) :
    transferred.Logged [.address payer, .address recipient, .uint w]
      (logOf transferred [.address payer, .address recipient, .uint w]) :=
  ⟨rfl, rfl, rfl, rfl⟩

/-- Of two transfers, the filter for a recipient selects the one to this recipient; four sets are
refused. -/
theorem filter_by_recipient :
    let c := ofEvent transferred
    let recipient : Address := Vector.replicate 20 1
    let selected := logOf transferred [.address Address.zero, .address recipient, .uint 5]
    let other := logOf transferred [.address recipient, .address Address.zero, .uint 5]
    (∃ f, c.pastLogs ⟨0, none⟩ transferred.signature ([[], [.address recipient]].map topicsOf) =
        Action.request (.logs f) ∧ f.matches selected = true ∧ f.matches other = false) ∧
      ∃ name, (c.subscribe ⟨none⟩ transferred.signature ([[], [], [], []].map topicsOf)).FailsAtOnce
        (.abi (.tooManyTopics name 4)) := by
  intro c recipient selected other
  have he : transferred ∈ c.interface.events := List.mem_singleton_self transferred
  have hsimple : ∀ p ∈ transferred.indexed, p.type.isSimple = true := by decide
  have hsets : transferred.Offers [[], [.address recipient]] := by
    intro i p set hp hset t ht
    match i with
    | 0 =>
      obtain rfl : [] = set := by simpa using hset
      cases ht
    | 1 =>
      obtain rfl : [.address recipient] = set := by simpa using hset
      obtain rfl := List.mem_singleton.mp ht
      obtain rfl := Option.some.inj hp
      rfl
    | i + 2 => simp at hset
  constructor
  · obtain ⟨hpast, -⟩ := (filters_select he hsimple _).1 (by decide) hsets
    obtain ⟨f, hasked, hselects⟩ := hpast ⟨0, none⟩
    have hselected := transferred_logged Address.zero recipient 5
    have hother := transferred_logged recipient Address.zero 5
    refine ⟨f, hasked, (hselects.own _ _ hselected rfl).mpr fun i set hset => ?_,
      Bool.eq_false_iff.mpr fun hmatched => ?_⟩
    · match i with
      | 0 => exact .inl (by simpa using hset.symm)
      | 1 =>
        obtain rfl : [.address recipient] = set := by simpa using hset
        have hfound : (Token.address recipient).FoundIn [.address recipient] :=
          ⟨.address recipient, List.mem_singleton_self _, .inl rfl⟩
        exact .inr ⟨.address recipient, rfl, hfound⟩
      | i + 2 => simp at hset
    · have hadmits := (hselects.own _ _ hother rfl).mp hmatched
      rcases hadmits 1 [.address recipient] rfl with hnone | ⟨t, ht, u, hu, hsame⟩
      · cases hnone
      · obtain rfl := Option.some.inj ht
        obtain rfl := List.mem_singleton.mp hu
        rcases hsame with hsame | hcollides
        · exact absurd hsame (by decide)
        · cases hcollides
  · obtain ⟨name, -, hsubscribe⟩ :=
      (filters_select he hsimple [[], [], [], []]).2.2 (by decide)
    exact ⟨name, hsubscribe ⟨none⟩⟩

end Contract

end AbiBindings
