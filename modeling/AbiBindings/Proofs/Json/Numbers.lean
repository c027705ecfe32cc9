import AbiBindings.Proofs.Json.Normal

/-!
# The numbers of documents

* `Json.allNumbers`: the documents all of whose numbers have a property.
* `Json.Literals`: the tokens whose number literals stand for numbers with a property.
* `Json.mapNumbers`: a document with other numbers.

Results:
* `Json.allNumbers_normal`, `Json.allNumbers_member?`: the value and the members of a document have
  no other numbers.
* `Json.allNumbers_of_parse`: a document that is read has the numbers of its number literals.
* `Json.mapNumbers_eq_self`: numbers that stay leave the document as it is.
-/

namespace AbiBindings.Json

/-! ## Properties of all numbers -/

mutual

/-- Whether every number of the document has a property. -/
def allNumbers (p : Number → Bool) : Json → Bool
  | .number n => p n
  | .array items => allNumbersItems p items
  | .object members => allNumbersMembers p members
  | _ => true

/-- Whether every number of the items has a property. -/
def allNumbersItems (p : Number → Bool) : List Json → Bool
  | [] => true
  | x :: rest => x.allNumbers p && allNumbersItems p rest

/-- Whether every number of the members has a property. -/
def allNumbersMembers (p : Number → Bool) : List (String × Json) → Bool
  | [] => true
  | (_, x) :: rest => x.allNumbers p && allNumbersMembers p rest

end

section Property

variable {p : Number → Bool}

theorem allNumbersItems_iff {items : List Json} :
    allNumbersItems p items = true ↔ ∀ x ∈ items, x.allNumbers p = true := by
  induction items with
  | nil => simp [allNumbersItems]
  | cons x rest ih => simp [allNumbersItems, ih]

theorem allNumbersMembers_iff {members : List (String × Json)} :
    allNumbersMembers p members = true ↔ ∀ m ∈ members, m.2.allNumbers p = true := by
  induction members with
  | nil => simp [allNumbersMembers]
  | cons m rest ih => simp [allNumbersMembers, ih]

theorem allNumbers_mono {q : Number → Bool} (hpq : ∀ n, p n = true → q n = true) {j : Json}
    (h : j.allNumbers p = true) : j.allNumbers q = true := by
  induction j using induct with
  | number n => exact hpq n h
  | array items ih =>
    rw [allNumbers, allNumbersItems_iff] at h ⊢
    exact fun x hx => ih x hx (h x hx)
  | object members ih =>
    rw [allNumbers, allNumbersMembers_iff] at h ⊢
    exact fun m hm => ih m hm (h m hm)
  | _ => rfl

theorem allNumbers_normal {j : Json} (h : j.allNumbers p = true) :
    j.normal.allNumbers p = true := by
  induction j using induct with
  | array items ih =>
    rw [allNumbers, allNumbersItems_iff] at h
    rw [normal, allNumbers, allNumbersItems_iff, normalItems_eq_map]
    simpa using fun x hx => ih x hx (h x hx)
  | object members ih =>
    rw [allNumbers, allNumbersMembers_iff] at h
    rw [normal, allNumbers, allNumbersMembers_iff]
    intro m hm
    rcases mem_normalMembers hm with hm | ⟨l, hl, rfl⟩
    exacts [absurd hm List.not_mem_nil, ih l hl (h l hl)]
  | number n => exact h
  | _ => rfl

theorem allNumbers_member? {j x : Json} {key : String} (h : j.allNumbers p = true)
    (hx : j.member? key = some x) : x.allNumbers p = true := by
  cases j with
  | object members =>
    obtain ⟨m, hm, rfl⟩ := Option.map_eq_some_iff.mp hx
    rw [allNumbers, allNumbersMembers_iff] at h
    exact h m (List.mem_reverse.mp (List.mem_of_find?_eq_some hm))
  | _ => cases hx

end Property

/-! ## The numbers that are read -/

/-- Whether the number of every number literal has a property. -/
def Literals (p : Number → Bool) (tokens : List Token) : Prop :=
  ∀ l, .number l ∈ tokens → ∀ n, Number.ofLiteral? l = some n → p n = true

theorem Literals.tail {p : Number → Bool} {t : Token} {tokens : List Token}
    (h : Literals p (t :: tokens)) : Literals p tokens :=
  fun l hl => h l (List.mem_cons_of_mem t hl)

/-- Whether what is read with some fuel only has numbers with a property, if this is so of all
number literals. -/
structure Reads (p : Number → Bool) (fuel : Nat) : Prop where
  value : ∀ {tokens j rest}, Literals p tokens → readValue fuel tokens = some (j, rest) →
    j.allNumbers p = true ∧ Literals p rest
  items : ∀ {tokens items rest}, Literals p tokens → readItems fuel tokens = some (items, rest) →
    allNumbersItems p items = true ∧ Literals p rest
  members : ∀ {tokens members rest}, Literals p tokens →
    readMembers fuel tokens = some (members, rest) →
    allNumbersMembers p members = true ∧ Literals p rest

namespace Reads

variable {p : Number → Bool} {fuel : Nat} {tokens rest : List Token}

theorem value_succ (ih : Reads p fuel) {j : Json} (hp : Literals p tokens)
    (h : readValue (fuel + 1) tokens = some (j, rest)) :
    j.allNumbers p = true ∧ Literals p rest := by
  rw [readValue.eq_def] at h
  dsimp only at h
  split at h
  case h_5 l tokens' =>
    obtain ⟨rfl, rfl⟩ := Prod.mk.inj (Option.some.inj h)
    refine ⟨?_, hp.tail⟩
    rw [ofLiteral]
    split
    · rename_i n hn
      exact hp l List.mem_cons_self n hn
    · rfl
  case h_7 tokens' _ =>
    obtain ⟨⟨items, rest'⟩, hitems, h⟩ := Option.bind_eq_some_iff.mp h
    obtain ⟨rfl, rfl⟩ := Prod.mk.inj (Option.some.inj h)
    exact ih.items hp.tail hitems
  case h_9 tokens' _ =>
    obtain ⟨⟨members, rest'⟩, hmembers, h⟩ := Option.bind_eq_some_iff.mp h
    obtain ⟨rfl, rfl⟩ := Prod.mk.inj (Option.some.inj h)
    exact ih.members hp.tail hmembers
  case h_6 | h_8 =>
    obtain ⟨rfl, rfl⟩ := Prod.mk.inj (Option.some.inj h)
    exact ⟨rfl, hp.tail.tail⟩
  case h_10 => cases h
  all_goals
    obtain ⟨rfl, rfl⟩ := Prod.mk.inj (Option.some.inj h)
    exact ⟨rfl, hp.tail⟩

theorem items_succ (ih : Reads p fuel) {items : List Json} (hp : Literals p tokens)
    (h : readItems (fuel + 1) tokens = some (items, rest)) :
    allNumbersItems p items = true ∧ Literals p rest := by
  rw [readItems.eq_def] at h
  obtain ⟨⟨item, rest'⟩, hitem, h⟩ := Option.bind_eq_some_iff.mp h
  obtain ⟨hnumbers, hp'⟩ := ih.value hp hitem
  dsimp only at h
  split at h
  · obtain ⟨rfl, rfl⟩ := Prod.mk.inj (Option.some.inj h)
    exact ⟨by simp [allNumbersItems, hnumbers], hp'.tail⟩
  · obtain ⟨⟨items', rest''⟩, hitems, h⟩ := Option.bind_eq_some_iff.mp h
    obtain ⟨rfl, rfl⟩ := Prod.mk.inj (Option.some.inj h)
    obtain ⟨hnumbers', hp''⟩ := ih.items hp'.tail hitems
    exact ⟨by simp [allNumbersItems, hnumbers, hnumbers'], hp''⟩
  · cases h

theorem members_succ (ih : Reads p fuel) {members : List (String × Json)} (hp : Literals p tokens)
    (h : readMembers (fuel + 1) tokens = some (members, rest)) :
    allNumbersMembers p members = true ∧ Literals p rest := by
  rw [readMembers.eq_def] at h
  dsimp only at h
  split at h
  · obtain ⟨⟨value, rest'⟩, hvalue, h⟩ := Option.bind_eq_some_iff.mp h
    obtain ⟨hnumbers, hp'⟩ := ih.value hp.tail.tail hvalue
    dsimp only at h
    split at h
    · obtain ⟨rfl, rfl⟩ := Prod.mk.inj (Option.some.inj h)
      exact ⟨by simp [allNumbersMembers, hnumbers], hp'.tail⟩
    · obtain ⟨⟨members', rest''⟩, hmembers, h⟩ := Option.bind_eq_some_iff.mp h
      obtain ⟨rfl, rfl⟩ := Prod.mk.inj (Option.some.inj h)
      obtain ⟨hnumbers', hp''⟩ := ih.members hp'.tail hmembers
      exact ⟨by simp [allNumbersMembers, hnumbers, hnumbers'], hp''⟩
    · cases h
  · cases h

end Reads

theorem reads (p : Number → Bool) : ∀ fuel, Reads p fuel
  | 0 => ⟨nofun, nofun, nofun⟩
  | fuel + 1 =>
    have ih := reads p fuel
    ⟨ih.value_succ, ih.items_succ, ih.members_succ⟩

/-- A text that is read is made of tokens, and its document has the numbers of their literals. -/
theorem allNumbers_of_parse {p : Number → Bool} {text : String} {j : Json}
    (h : parse text = some j) (hp : ∀ tokens, Token.scan text = some tokens → Literals p tokens) :
    j.allNumbers p = true := by
  obtain ⟨value, hread, h⟩ := Option.bind_eq_some_iff.mp h
  split_ifs at h
  obtain rfl := Option.some.inj h
  obtain ⟨tokens, hscan, hread⟩ := Option.bind_eq_some_iff.mp hread
  rw [ofTokens] at hread
  split at hread
  · rename_i value' hvalue
    obtain rfl := Option.some.inj hread
    exact ((reads p _).value (hp tokens hscan) hvalue).1
  · cases hread

/-! ## Other numbers -/

mutual

/-- The document with other numbers. -/
def mapNumbers (g : Number → Number) : Json → Json
  | .number n => .number (g n)
  | .array items => .array (mapNumbersItems g items)
  | .object members => .object (mapNumbersMembers g members)
  | x => x

/-- The items with other numbers. -/
def mapNumbersItems (g : Number → Number) : List Json → List Json
  | [] => []
  | x :: rest => x.mapNumbers g :: mapNumbersItems g rest

/-- The members with other numbers. -/
def mapNumbersMembers (g : Number → Number) : List (String × Json) → List (String × Json)
  | [] => []
  | (k, x) :: rest => (k, x.mapNumbers g) :: mapNumbersMembers g rest

end

section Map

variable {g : Number → Number}

theorem mapNumbersItems_eq_map (items : List Json) :
    mapNumbersItems g items = items.map (mapNumbers g) := by
  induction items with
  | nil => rfl
  | cons x rest ih => rw [mapNumbersItems, ih, List.map_cons]

theorem mapNumbersMembers_eq_map (members : List (String × Json)) :
    mapNumbersMembers g members = members.map fun m => (m.1, m.2.mapNumbers g) := by
  induction members with
  | nil => rfl
  | cons m rest ih => rw [mapNumbersMembers, ih, List.map_cons]

theorem mapNumbers_eq_self {p : Number → Bool} (hg : ∀ n, p n = true → g n = n) {j : Json}
    (h : j.allNumbers p = true) : j.mapNumbers g = j := by
  induction j using induct with
  | number n => rw [mapNumbers, hg n h]
  | array items ih =>
    rw [allNumbers, allNumbersItems_iff] at h
    rw [mapNumbers, mapNumbersItems_eq_map, List.map_congr_left fun x hx => ih x hx (h x hx),
      List.map_id']
  | object members ih =>
    rw [allNumbers, allNumbersMembers_iff] at h
    have hid : ∀ m ∈ members, (m.1, m.2.mapNumbers g) = id m := fun m hm =>
      Prod.ext rfl (ih m hm (h m hm))
    rw [mapNumbers, mapNumbersMembers_eq_map, List.map_congr_left hid, List.map_id]
  | _ => rfl

theorem sound_mapNumbers (j : Json) : (j.mapNumbers g).sound = j.sound := by
  rw [Bool.eq_iff_iff]
  induction j using induct with
  | array items ih =>
    simp only [mapNumbers, sound, mapNumbersItems_eq_map, soundItems_iff, List.forall_mem_map]
    exact forall₂_congr ih
  | object members ih =>
    simp only [mapNumbers, sound, mapNumbersMembers_eq_map, soundMembers_iff, List.forall_mem_map]
    exact forall₂_congr ih
  | _ => exact Iff.rfl

theorem depth_mapNumbers (j : Json) : (j.mapNumbers g).depth = j.depth := by
  refine eq_of_forall_ge_iff fun n => ?_
  induction j using induct generalizing n with
  | array items ih =>
    cases n with
    | zero => simp [mapNumbers, depth]
    | succ n =>
      rw [mapNumbers, depth, depth, Nat.add_comm 1, Nat.add_comm 1, Nat.add_le_add_iff_right,
        Nat.add_le_add_iff_right, mapNumbersItems_eq_map, depthItems_le_iff, depthItems_le_iff,
        List.forall_mem_map]
      exact forall₂_congr fun x hx => ih x hx n
  | object members ih =>
    cases n with
    | zero => simp [mapNumbers, depth]
    | succ n =>
      rw [mapNumbers, depth, depth, Nat.add_comm 1, Nat.add_comm 1, Nat.add_le_add_iff_right,
        Nat.add_le_add_iff_right, mapNumbersMembers_eq_map, depthMembers_le_iff,
        depthMembers_le_iff, List.forall_mem_map]
      exact forall₂_congr fun m hm => ih m hm n
  | _ => exact Iff.rfl

end Map

end AbiBindings.Json
