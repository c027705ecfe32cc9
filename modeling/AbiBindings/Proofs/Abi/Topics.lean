import AbiBindings.Proofs.Abi.InPlace
import AbiBindings.Proofs.Abi.Reading

/-!
# What is read from topics

An indexed argument is read from its own topic, whatever stands in the others and in the data. Of a
value that is hashed the topic itself is read, of any other the value.

* `Ty.isHashed`, `Ty.hasTopic`: the types of values that are hashed, and those of values that have
  a topic.
* `Event.placed`: the topics of a log with the arguments that they stand for.
* `Event.Leaves`: what an occurrence leaves, but for the data that may follow.

Results:
* `Token.inTopic_eq_ite`: what is left of a value in its topic.
* `Event.decodeLog_eq_ok_iff`: what a log is read as.
* `Event.getElem?_of_decodeLog`: what is read of an indexed argument whose name is not repeated.
* `Event.Leaves.decodeLog`: what an occurrence leaves is read.
-/

namespace AbiBindings.Abi

/-! ## Types that are hashed -/

/-- Whether only the hash of a value of the type is left in its topic. -/
def Ty.isHashed : Ty → Bool
  | .string | .bytes | .array _ | .farray _ _ | .tuple _ => true
  | _ => false

/-- Whether values of the type have topics: a byte string of fixed size must fill a word, and no
more than that. -/
def Ty.hasTopic : Ty → Bool
  | .fixed size => 1 ≤ size && size ≤ 32
  | _ => true

theorem Ty.solid_inTopic (type : Ty) : type.inTopic.solid = type.hasTopic := by
  cases type <;> rfl

theorem Ty.inTopic_inTopic (type : Ty) : type.inTopic.inTopic = type.inTopic := by
  cases type <;> rfl

namespace Token

variable {v : Token} {type : Ty}

/-- A value has content that is hashed if its type is one of these. -/
theorem isSome_content? (h : v.hasType type = true) : v.content?.isSome = type.isHashed := by
  cases v <;> cases type <;> simp_all [hasType, content?, Ty.isHashed]

/-- What is left of a value in its topic: the topic if the value is hashed, else the value. -/
theorem inTopic_eq_ite (h : v.hasType type = true) :
    v.inTopic = if type.isHashed then .fixed (topicOf v).toList else v := by
  cases v <;> cases type <;> simp_all [hasType, inTopic, Ty.isHashed]

/-- A value that is not hashed takes one word, if it has a topic. -/
theorem isWord_of_hasTopic (h : v.hasType type = true) (hs : type.hasTopic = true)
    (hkept : type.isHashed = false) : v.isWord = true := by
  cases v <;> cases type <;> simp_all [hasType, isWord, Ty.hasTopic, Ty.isHashed]

/-- A value that is hashed is no hash. -/
theorem ne_fixed_of_isHashed (h : v.hasType type = true) (hhashed : type.isHashed = true)
    (b : Bytes) : Token.fixed b ≠ v := by
  rintro rfl
  cases type <;> simp_all [hasType, Ty.isHashed]

end Token

/-! ## Words of topics -/

section Words

variable {type : Ty} {data word : Bytes} {offset : Nat}

theorem decodeAt_snd (hkept : type.inTopic = type) {t : Token} {next : Nat}
    (h : decodeAt type data offset = some (t, next)) : next = offset + 32 := by
  cases type with
  | address | bool =>
    obtain ⟨word, -, h⟩ := Option.bind_eq_some_iff.mp h
    obtain ⟨a, -, h⟩ := Option.bind_eq_some_iff.mp h
    cases h
    rfl
  | uint | int | fixed =>
    obtain ⟨word, -, h⟩ := Option.bind_eq_some_iff.mp h
    cases h
    rfl
  | _ => cases hkept

/-- Values that take one word each are read from the words at their places. -/
theorem decodeAt_of_decodeSeq {types : List Ty} (hkept : ∀ type ∈ types, type.inTopic = type)
    {ts : List Token} {after : Nat} (h : decodeSeq types data offset = some (ts, after)) {j : Nat}
    (htype : types[j]? = some type) :
    ∃ t next, ts[j]? = some t ∧ decodeAt type data (offset + 32 * j) = some (t, next) := by
  induction types generalizing offset ts j with
  | nil => cases htype
  | cons first types ih =>
    obtain ⟨⟨t, next⟩, ht, h⟩ := Option.bind_eq_some_iff.mp h
    obtain ⟨⟨rest, last⟩, hrest, h⟩ := Option.bind_eq_some_iff.mp h
    cases h
    obtain rfl := decodeAt_snd (hkept first List.mem_cons_self) ht
    cases j with
    | zero =>
      obtain rfl : first = type := Option.some.inj htype
      exact ⟨t, _, rfl, ht⟩
    | succ j =>
      obtain ⟨u, next, hu, hread⟩ :=
        ih (fun type htype => hkept type (List.mem_cons_of_mem first htype)) hrest htype
      refine ⟨u, next, hu, ?_⟩
      rw [← hread, Nat.mul_succ]
      congr 1
      omega

/-- What is read from a word does not depend on where the word stands. -/
theorem decodeAt_word (hkept : type.inTopic = type) (hs : type.solid = true)
    (hword : slice? data offset 32 = some word) :
    (decodeAt type data offset).map (·.1) = (decodeAt type word 0).map (·.1) := by
  obtain ⟨hfound, hlen⟩ := slice?_eq_some.mp hword
  have halone : slice? word 0 32 = some word := slice?_eq_some.mpr ⟨by simp [← hlen], hlen⟩
  cases type with
  | address | bool | uint | int => simp [decodeAt, wordAt?, hword, halone]
  | fixed size =>
    obtain ⟨-, hsize⟩ : 1 ≤ size ∧ size ≤ 32 := by simpa [Ty.solid] using hs
    have hstart : (data.drop offset).take size = word.take size := by
      rw [← hfound, List.take_take, Nat.min_eq_left hsize]
    simp [decodeAt, slice?, hstart]
  | _ => cases hkept

theorem slice?_topics {words : List Hash} {j : Nat} {h : Hash} (hword : words[j]? = some h) :
    slice? (words.flatMap Vector.toList) (32 * j) 32 = some h.toList := by
  refine slice?_eq_some.mpr ⟨?_, h.length_toList⟩
  induction words generalizing j with
  | nil => cases hword
  | cons first words ih =>
    rw [List.flatMap_cons]
    cases j with
    | zero =>
      obtain rfl : first = h := Option.some.inj hword
      rw [Nat.mul_zero, List.drop_zero, List.take_left' first.length_toList]
    | succ j =>
      rw [Nat.mul_succ, Nat.add_comm, ← List.drop_drop, List.drop_left' first.length_toList]
      exact ih hword

/-- What is left of a value is read from its topic, whatever stands in the others. -/
theorem getElem?_of_decode {types : List Ty} {words : List Hash} {ts : List Token}
    (h : decode (types.map Ty.inTopic) (words.flatMap Vector.toList) = .ok ts) {j : Nat}
    (htype : types[j]? = some type) {v : Token} (hv : v.hasType type = true)
    (hs : type.hasTopic = true) (hword : words[j]? = some (topicOf v)) :
    ts[j]? = some v.inTopic := by
  have hsolid : type.inTopic.solid = true := by rw [Ty.solid_inTopic, hs]
  have hkept : ∀ t ∈ types.map Ty.inTopic, t.inTopic = t := by
    intro t ht
    obtain ⟨u, -, rfl⟩ := List.mem_map.mp ht
    exact u.inTopic_inTopic
  have hplace : (types.map Ty.inTopic)[j]? = some type.inTopic := by
    rw [List.getElem?_map, htype, Option.map_some]
  obtain ⟨after, hread⟩ := decodeSeq_of_decode h
  obtain ⟨t, next, ht, hat⟩ := decodeAt_of_decodeSeq hkept hread hplace
  -- The word at its place is the topic, which is read as what is left of the value.
  have hmoved := decodeAt_word type.inTopic_inTopic hsolid (slice?_topics hword)
  rw [← Nat.zero_add (32 * j), hat, Option.map_some] at hmoved
  obtain ⟨_, hseq⟩ := decodeSeq_of_decode (decode_topicOf hv hsolid)
  obtain ⟨⟨u, _⟩, hu, hrest⟩ := Option.bind_eq_some_iff.mp hseq
  cases hrest
  rw [hu, Option.map_some] at hmoved
  rw [ht, hmoved]

end Words

namespace Event

variable {e : Event} {topics : List Hash} {data : Bytes} {ts values : List Token}

/-! ## Reading by name -/

/-- The values that are read, with the names of their arguments: those of the topics before those of
the data. -/
def named (e : Event) (indexed unindexed : List Token) : List (String × Token) :=
  (e.indexed.map (·.name)).zip indexed ++ (e.unindexed.map (·.name)).zip unindexed

/-- A log is read as the values that are found in its topics and its data, if it has the topic of
the event, and one topic for each indexed argument. -/
theorem decodeLog_eq_ok_iff :
    e.decodeLog topics data = .ok values ↔
      (e.anonymous = true ∨ topics.head? = some e.topic) ∧ ∃ indexed unindexed,
        decode e.topicTypes ((e.argumentTopics topics).flatMap Vector.toList) = .ok indexed ∧
        indexed.length = (e.argumentTopics topics).length ∧
        decode e.dataTypes data = .ok unindexed ∧
        values = e.inputs.map fun p => valueOf (e.named indexed unindexed) p.name := by
  constructor
  · intro h
    rw [decodeLog] at h
    split at h
    · cases h
    rename_i hhead
    dsimp only at h
    split at h
    · cases h
    rename_i indexed hindexed
    split at h
    · cases h
    rename_i hlen
    split at h
    · cases h
    rename_i unindexed hunindexed
    refine ⟨?_, indexed, unindexed, hindexed, not_not.mp hlen, hunindexed, (Except.ok.inj h).symm⟩
    cases hanonymous : e.anonymous with
    | true => exact .inl rfl
    | false => exact .inr (by simpa [hanonymous] using hhead)
  · rintro ⟨hhead, indexed, unindexed, hindexed, hlen, hunindexed, rfl⟩
    have hguard : ¬ (!e.anonymous && topics.head? != some e.topic) = true := by
      rcases hhead with h | h <;> simp [h]
    rw [decodeLog, if_neg hguard]
    simp only [hindexed, hlen, hunindexed, ne_eq, not_true_eq_false, if_false]
    rfl

/-- The names under which values are read are those of all arguments. -/
theorem named_keys {indexed unindexed : List Token} (hindexed : indexed.length = e.indexed.length)
    (hunindexed : unindexed.length = e.unindexed.length) :
    ((e.named indexed unindexed).map (·.1)).Perm (e.inputs.map (·.name)) := by
  have hkeys : (e.named indexed unindexed).map (·.1) =
      (e.indexed ++ e.unindexed).map (·.name) := by
    rw [named, List.map_append, List.map_append, List.map_fst_zip (by simp [hindexed]),
      List.map_fst_zip (by simp [hunindexed])]
  rw [hkeys]
  exact (List.filter_append_perm ..).map _

/-- Under a name that occurs once its value is found. -/
theorem valueOf_of_count {values : List (String × Token)} {name : String} {t : Token}
    (hmem : (name, t) ∈ values) (hone : (values.map (·.1)).count name = 1) :
    valueOf values name = t := by
  obtain ⟨before, after, rfl⟩ := List.append_of_mem hmem
  have hafter : name ∉ after.map (·.1) := by
    rw [List.map_append, List.map_cons, List.count_append, List.count_cons_self] at hone
    exact List.count_eq_zero.mp (by omega)
  have hfound : (before ++ (name, t) :: after).reverse.lookup name = some t := by
    refine List.lookup_eq_some_iff.mpr ⟨after.reverse, before.reverse, by simp, fun v hv => ?_⟩
    have hother : name ≠ v.1 := by
      rintro rfl
      exact hafter (List.mem_map_of_mem (List.mem_reverse.mp hv))
    simpa using hother
  rw [valueOf, hfound, Option.getD_some]

/-! ## Indexed arguments -/

/-- The topics of a log, each with the argument that it stands for. -/
def placed (e : Event) (topics : List Hash) : List (EventParam × Hash) :=
  e.indexed.zip (e.argumentTopics topics)

/-- An indexed argument whose name is not repeated is read as what is left of it in its topic,
whatever stands in the other topics and in the data. -/
theorem getElem?_of_decodeLog (h : e.decodeLog topics data = .ok values) {k : Nat} {q : EventParam}
    (hq : e.inputs[k]? = some q) (hone : (e.inputs.map (·.name)).count q.name = 1) {v : Token}
    (hv : v.hasType q.type = true) (hs : q.type.hasTopic = true)
    (hplaced : (q, topicOf v) ∈ e.placed topics) : values[k]? = some v.inTopic := by
  obtain ⟨-, indexed, unindexed, hindexed, hlen, hunindexed, rfl⟩ := decodeLog_eq_ok_iff.mp h
  have hcount : indexed.length = e.indexed.length := by
    rw [length_of_decode hindexed, topicTypes, List.length_map]
  have hothers : unindexed.length = e.unindexed.length := by
    rw [length_of_decode hunindexed, dataTypes, List.length_map]
  obtain ⟨j, hj⟩ := List.mem_iff_getElem?.mp hplaced
  obtain ⟨hparam, htopic⟩ := List.getElem?_zip_eq_some.mp hj
  have htype : (e.indexed.map (·.type))[j]? = some q.type := by
    rw [List.getElem?_map, hparam, Option.map_some]
  have hname : (e.indexed.map (·.name))[j]? = some q.name := by
    rw [List.getElem?_map, hparam, Option.map_some]
  rw [topicTypes_eq] at hindexed
  have hvalue := getElem?_of_decode hindexed htype hv hs htopic
  have hmem : (q.name, v.inTopic) ∈ e.named indexed unindexed :=
    List.mem_append_left _ (List.mem_of_getElem? (List.getElem?_zip_eq_some.mpr ⟨hname, hvalue⟩))
  rw [List.getElem?_map, hq, Option.map_some, valueOf_of_count hmem]
  rw [(named_keys hcount hothers).count_eq, hone]

/-- What an occurrence leaves: its topics, and data in which the other arguments are found. Every
indexed argument must have a topic. -/
structure Leaves (e : Event) (ts : List Token) (topics : List Hash) (data : Bytes) : Prop where
  named : e.anonymous = false
  typed : Token.haveTypes ts e.inputTypes = true
  kept : ∀ p ∈ e.inputs, p.indexed = true → p.type.hasTopic = true
  topics : topics = e.topicsFor ts
  data : decode e.dataTypes data = .ok (e.unindexedValues ts)

namespace Leaves

theorem decodeLog (h : e.Leaves ts topics data) :
    e.decodeLog topics data = .ok (e.found ts) := by
  have hs : Ty.allSolid e.topicTypes = true := by
    refine Ty.allSolid_iff.mpr fun type htype => ?_
    obtain ⟨p, hp, rfl⟩ := List.mem_map.mp htype
    obtain ⟨hp, hindexed⟩ := List.mem_filter.mp hp
    rw [Ty.solid_inTopic, h.kept p hp hindexed]
  rw [h.topics]
  exact (decodeLog_topicsFor h.named h.typed hs data).1 h.data

/-- The topic of an indexed argument stands for it. -/
theorem mem_placed (h : e.Leaves ts topics data) {k : Nat} {q : EventParam} {v : Token}
    (hq : e.inputs[k]? = some q) (hindexed : q.indexed = true) (hv : ts[k]? = some v) :
    (q, topicOf v) ∈ e.placed topics := by
  have hlen : ts.length = e.inputs.length := by
    simpa [inputTypes] using Token.haveTypes_length h.typed
  have hzip := zip_filter (·.indexed) id topicOf hlen
  rw [List.map_id] at hzip
  rw [placed, h.topics, argumentTopics_topicsFor h.named]
  have hmem : (q, v) ∈ (e.arguments ts).filter (·.1.indexed) :=
    List.mem_filter.mpr ⟨List.mem_of_getElem? (List.getElem?_zip_eq_some.mpr ⟨hq, hv⟩), hindexed⟩
  exact hzip ▸ List.mem_map_of_mem (f := fun a => (a.1, topicOf a.2)) hmem

end Leaves

end Event

end AbiBindings.Abi
