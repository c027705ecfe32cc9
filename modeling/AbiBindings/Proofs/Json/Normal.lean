import AbiBindings.Json.Reader
import Mathlib.Data.String.Basic

/-!
# The value of a document

The value of a document has sorted keys, each once, and every one of its members is the last one of
its key in the document. A document that is sorted is its own value.

* `Json.sorted`: the documents whose objects have sorted keys, each once.

Results:
* `Json.sorted_normal`, `Json.normal_of_sorted`: the values are exactly the sorted documents.
* `Json.lookup_normalMembers`: what a key leads to in the value of an object.
* `Json.sound_normal`, `Json.depth_normal_le`: the value is sound and nests no deeper.
-/

namespace AbiBindings.Json

/-! ## Induction over documents -/

mutual

/-- What holds of an array or object if it holds of its parts holds of every document. -/
theorem induct {P : Json → Prop} (null : P .null) (bool : ∀ b, P (.bool b))
    (number : ∀ n, P (.number n)) (text : ∀ s, P (.text s)) (faulty : P .faulty)
    (array : ∀ items, (∀ x ∈ items, P x) → P (.array items))
    (object : ∀ members, (∀ m ∈ members, P m.2) → P (.object members)) : ∀ j, P j
  | .null => null
  | .bool b => bool b
  | .number n => number n
  | .text s => text s
  | .faulty => faulty
  | .array items => array items (induct_items null bool number text faulty array object items)
  | .object members =>
    object members (induct_members null bool number text faulty array object members)

theorem induct_items {P : Json → Prop} (null : P .null) (bool : ∀ b, P (.bool b))
    (number : ∀ n, P (.number n)) (text : ∀ s, P (.text s)) (faulty : P .faulty)
    (array : ∀ items, (∀ x ∈ items, P x) → P (.array items))
    (object : ∀ members, (∀ m ∈ members, P m.2) → P (.object members)) :
    ∀ items : List Json, ∀ x ∈ items, P x
  | [], _, h => nomatch h
  | y :: rest, x, h => by
    have hy := induct null bool number text faulty array object y
    have hrest := induct_items null bool number text faulty array object rest
    rcases List.mem_cons.mp h with rfl | h
    exacts [hy, hrest x h]

theorem induct_members {P : Json → Prop} (null : P .null) (bool : ∀ b, P (.bool b))
    (number : ∀ n, P (.number n)) (text : ∀ s, P (.text s)) (faulty : P .faulty)
    (array : ∀ items, (∀ x ∈ items, P x) → P (.array items))
    (object : ∀ members, (∀ m ∈ members, P m.2) → P (.object members)) :
    ∀ members : List (String × Json), ∀ m ∈ members, P m.2
  | [], _, h => nomatch h
  | (k, y) :: rest, m, h => by
    have hy := induct null bool number text faulty array object y
    have hrest := induct_members null bool number text faulty array object rest
    rcases List.mem_cons.mp h with rfl | h
    exacts [hy, hrest m h]

end

theorem soundItems_iff {items : List Json} :
    soundItems items = true ↔ ∀ x ∈ items, x.sound = true := by
  induction items with
  | nil => simp [soundItems]
  | cons x rest ih => simp [soundItems, ih]

theorem soundMembers_iff {members : List (String × Json)} :
    soundMembers members = true ↔ ∀ m ∈ members, m.2.sound = true := by
  induction members with
  | nil => simp [soundMembers]
  | cons m rest ih => simp [soundMembers, ih]

theorem depthItems_le_iff {items : List Json} {n : Nat} :
    depthItems items ≤ n ↔ ∀ x ∈ items, x.depth ≤ n := by
  induction items with
  | nil => simp [depthItems]
  | cons x rest ih => simp [depthItems, ih]

theorem depthMembers_le_iff {members : List (String × Json)} {n : Nat} :
    depthMembers members ≤ n ↔ ∀ m ∈ members, m.2.depth ≤ n := by
  induction members with
  | nil => simp [depthMembers]
  | cons m rest ih => simp [depthMembers, ih]

theorem normalItems_eq_map (items : List Json) : normalItems items = items.map normal := by
  induction items with
  | nil => rfl
  | cons x rest ih => simp [normalItems, ih]

/-! ## Sorted documents -/

mutual

/-- Whether the keys of every object are sorted, each once. -/
def sorted : Json → Bool
  | .array items => sortedItems items
  | .object members => sortedMembers members
  | _ => true

/-- Whether every item is sorted. -/
def sortedItems : List Json → Bool
  | [] => true
  | x :: rest => x.sorted && sortedItems rest

/-- Whether the members are sorted by key, each key once, and their values are sorted. -/
def sortedMembers : List (String × Json) → Bool
  | [] => true
  | (k, x) :: rest => rest.all (fun m => k < m.1) && x.sorted && sortedMembers rest

end

/-- The keys go up from member to member. -/
def Ascending (members : List (String × α)) : Prop := members.Pairwise fun l m => l.1 < m.1

theorem sortedItems_iff {items : List Json} :
    sortedItems items = true ↔ ∀ x ∈ items, x.sorted = true := by
  induction items with
  | nil => simp [sortedItems]
  | cons x rest ih => simp [sortedItems, ih]

theorem sortedMembers_iff {members : List (String × Json)} :
    sortedMembers members = true ↔ Ascending members ∧ ∀ m ∈ members, m.2.sorted = true := by
  induction members with
  | nil => simp [sortedMembers, Ascending]
  | cons m rest ih =>
    simp only [sortedMembers, Bool.and_eq_true, List.all_eq_true, decide_eq_true_eq, ih, Ascending,
      List.pairwise_cons, List.forall_mem_cons]
    tauto

/-! ## Taking in members -/

section Members

variable {k : String} {v : α} {members : List (String × α)}

theorem mem_insertMember {m : String × α} (h : m ∈ insertMember k v members) :
    m = (k, v) ∨ m ∈ members := by
  induction members with
  | nil => simpa [insertMember] using h
  | cons l rest ih =>
    rw [insertMember] at h
    split_ifs at h with hkey hless
    · rcases List.mem_cons.mp h with rfl | h
      exacts [.inl rfl, .inr (List.mem_cons_of_mem l h)]
    · exact List.mem_cons.mp h
    · rcases List.mem_cons.mp h with rfl | h
      · exact .inr List.mem_cons_self
      · exact (ih h).imp_right (List.mem_cons_of_mem l)

theorem Ascending.insertMember (h : Ascending members) :
    Ascending (insertMember k v members) := by
  induction members with
  | nil => simp [Json.insertMember, Ascending]
  | cons l rest ih =>
    obtain ⟨hl, hrest⟩ := List.pairwise_cons.mp h
    rw [Json.insertMember]
    split_ifs with hkey hless
    · subst hkey
      exact List.pairwise_cons.mpr ⟨hl, hrest⟩
    · refine List.pairwise_cons.mpr ⟨fun m hm => ?_, h⟩
      rcases List.mem_cons.mp hm with rfl | hm
      exacts [hless, lt_trans hless (hl m hm)]
    · have hgreater : l.1 < k := lt_of_le_of_ne (not_lt.mp hless) (Ne.symm hkey)
      refine List.pairwise_cons.mpr ⟨fun m hm => ?_, ih hrest⟩
      rcases mem_insertMember hm with rfl | hm
      exacts [hgreater, hl m hm]

theorem lookup_cons (key : String) :
    ((k, v) :: members).lookup key = if key = k then some v else members.lookup key := by
  rw [List.lookup_cons]
  cases h : key == k <;> simp_all

theorem lookup_insertMember (key : String) :
    (insertMember k v members).lookup key = if key = k then some v else members.lookup key := by
  induction members with
  | nil => rw [insertMember, lookup_cons]
  | cons l rest ih =>
    obtain ⟨l, w⟩ := l
    by_cases hkey : k = l
    · subst hkey
      rw [insertMember, if_pos rfl, lookup_cons, lookup_cons]
      split_ifs <;> rfl
    · by_cases hless : k < l
      · rw [insertMember, if_neg hkey, if_pos hless, lookup_cons]
      · rw [insertMember, if_neg hkey, if_neg hless, lookup_cons, lookup_cons, ih]
        -- only one of the two keys can be the one looked up
        split_ifs with hl hk
        · exact absurd (hk.symm.trans hl) hkey
        all_goals rfl

/-- A member whose key is beyond all others comes last. -/
theorem insertMember_of_forall_lt (h : ∀ m ∈ members, m.1 < k) :
    insertMember k v members = members ++ [(k, v)] := by
  induction members with
  | nil => rfl
  | cons l rest ih =>
    have hl : l.1 < k := h l List.mem_cons_self
    rw [insertMember, if_neg (ne_of_gt hl), if_neg (not_lt.mpr hl.le),
      ih fun m hm => h m (List.mem_cons_of_mem l hm)]
    rfl

end Members

/-! ## The members of a value -/

section Values

variable {members taken : List (String × Json)}

theorem mem_normalMembers {m : String × Json} (h : m ∈ normalMembers members taken) :
    m ∈ taken ∨ ∃ l ∈ members, m = (l.1, l.2.normal) := by
  induction members generalizing taken with
  | nil => exact .inl h
  | cons l rest ih =>
    rcases ih h with htaken | ⟨l', hl', rfl⟩
    · rcases mem_insertMember htaken with rfl | htaken
      exacts [.inr ⟨l, List.mem_cons_self, rfl⟩, .inl htaken]
    · exact .inr ⟨l', List.mem_cons_of_mem l hl', rfl⟩

theorem Ascending.normalMembers (h : Ascending taken) :
    Ascending (normalMembers members taken) := by
  induction members generalizing taken with
  | nil => exact h
  | cons l rest ih => exact ih h.insertMember

/-- A key leads to the value of its last member, or to what was taken in before. -/
theorem lookup_normalMembers (key : String) :
    (normalMembers members taken).lookup key =
      (((members.filter fun m => m.1 == key).getLast?).map fun m => m.2.normal).or
        (taken.lookup key) := by
  induction members generalizing taken with
  | nil => rfl
  | cons l rest ih =>
    rw [normalMembers, ih, lookup_insertMember, List.filter_cons]
    by_cases hkey : l.1 = key
    · subst hkey
      cases hlast : (rest.filter fun m => m.1 == l.1).getLast? <;>
        simp [List.getLast?_cons, hlast]
    · simp [hkey, Ne.symm hkey]

/-- Members that ascend behind those taken in are appended with their values. -/
theorem normalMembers_of_ascending (h : Ascending (taken ++ members)) :
    normalMembers members taken = taken ++ members.map fun m => (m.1, m.2.normal) := by
  induction members generalizing taken with
  | nil => simp [normalMembers]
  | cons l rest ih =>
    have hbefore : ∀ m ∈ taken, m.1 < l.1 := fun m hm =>
      (List.pairwise_append.mp h).2.2 m hm l List.mem_cons_self
    have hrest : Ascending ((taken ++ [(l.1, l.2.normal)]) ++ rest) := by
      have hkeys : (taken ++ l :: rest).map (·.1) =
          ((taken ++ [(l.1, l.2.normal)]) ++ rest).map (·.1) := by simp
      have hpairwise := List.pairwise_map.mpr h
      rw [hkeys] at hpairwise
      exact List.pairwise_map.mp hpairwise
    rw [normalMembers, insertMember_of_forall_lt hbefore, ih hrest]
    simp

end Values

/-! ## Results -/

/-- What is read has values throughout and nests no deeper than the limit. -/
theorem sound_of_parse {text : String} {j : Json} (h : parse text = some j) :
    j.sound = true ∧ j.depth ≤ depthLimit := by
  obtain ⟨value, -, h⟩ := Option.bind_eq_some_iff.mp h
  split_ifs at h with hlimits
  obtain rfl := Option.some.inj h
  simpa using hlimits

/-- A value has sorted keys, each once. -/
theorem sorted_normal (j : Json) : j.normal.sorted = true := by
  induction j using induct with
  | array items ih =>
    rw [normal, sorted, sortedItems_iff, normalItems_eq_map]
    simpa using ih
  | object members ih =>
    rw [normal, sorted, sortedMembers_iff]
    refine ⟨Ascending.normalMembers List.Pairwise.nil, fun m hm => ?_⟩
    rcases mem_normalMembers hm with hm | ⟨l, hl, rfl⟩
    exacts [(nomatch hm), ih l hl]
  | _ => rfl

/-- A sorted document is its own value. -/
theorem normal_of_sorted {j : Json} (h : j.sorted = true) : j.normal = j := by
  induction j using induct with
  | array items ih =>
    rw [sorted, sortedItems_iff] at h
    rw [normal, normalItems_eq_map, List.map_congr_left fun x hx => ih x hx (h x hx), List.map_id']
  | object members ih =>
    rw [sorted, sortedMembers_iff] at h
    have hvalues : members.map (fun m => (m.1, m.2.normal)) = members := by
      have hid : ∀ m ∈ members, (m.1, m.2.normal) = id m := fun m hm =>
        Prod.ext rfl (ih m hm (h.2 m hm))
      rw [List.map_congr_left hid, List.map_id]
    have hascending : Ascending ([] ++ members) := h.1
    rw [normal, normalMembers_of_ascending hascending, hvalues, List.nil_append]
  | _ => rfl

theorem sound_normal {j : Json} (h : j.sound = true) : j.normal.sound = true := by
  induction j using induct with
  | array items ih =>
    rw [sound, soundItems_iff] at h
    rw [normal, sound, soundItems_iff, normalItems_eq_map]
    simpa using fun x hx => ih x hx (h x hx)
  | object members ih =>
    rw [sound, soundMembers_iff] at h
    rw [normal, sound, soundMembers_iff]
    intro m hm
    rcases mem_normalMembers hm with hm | ⟨l, hl, rfl⟩
    exacts [(nomatch hm), ih l hl (h l hl)]
  | faulty => exact h
  | _ => rfl

/-- A value nests no deeper than its document. -/
theorem depth_normal_le (j : Json) : j.normal.depth ≤ j.depth := by
  induction j using induct with
  | array items ih =>
    rw [normal, depth, depth, Nat.add_le_add_iff_left, depthItems_le_iff, normalItems_eq_map]
    have hitems : ∀ x ∈ items, x.depth ≤ depthItems items := depthItems_le_iff.mp le_rfl
    simpa using fun x hx => (ih x hx).trans (hitems x hx)
  | object members ih =>
    rw [normal, depth, depth, Nat.add_le_add_iff_left, depthMembers_le_iff]
    have hmembers : ∀ m ∈ members, m.2.depth ≤ depthMembers members :=
      depthMembers_le_iff.mp le_rfl
    intro m hm
    rcases mem_normalMembers hm with hm | ⟨l, hl, rfl⟩
    exacts [(nomatch hm), (ih l hl).trans (hmembers l hl)]
  | _ => exact le_rfl

end AbiBindings.Json
