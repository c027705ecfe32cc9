import AbiBindings.Proofs.Abi.Sizes

/-!
# What is read from data

Facts about every successful reading, whether or not the data was written by an encoder. What is
read are exact values of the types; no byte behind the values is looked at, so they are read
whatever follows; and of no data at all only values are read that take no room.

* `Keeps`: a reader that finds what another one finds.
* `Ty.takesWord`: the types for which every word holds a value.
* `Ty.nothing?`: the value of a type that is read from no data.

Results:
* `haveTypes_of_decode`: what is read are exact values of the types.
* `decode_append`: what is read stays the same, whatever follows the data.
* `decode_words`: every list of as many words is read.
* `decode_nil_iff`, `decode_nil_of_solid`: what is read from no data.
-/

namespace AbiBindings.Abi

/-! ## Exact values are read -/

theorem slice?_eq_some {data b : Bytes} {offset n : Nat} :
    slice? data offset n = some b ↔ (data.drop offset).take n = b ∧ b.length = n := by
  rw [slice?]
  constructor
  · intro h
    split at h
    · rename_i hlen
      obtain rfl := Option.some.inj h
      exact ⟨rfl, hlen⟩
    · cases h
  · rintro ⟨rfl, hlen⟩
    exact if_pos hlen

theorem length_of_slice? {data b : Bytes} {offset n : Nat} (h : slice? data offset n = some b) :
    b.length = n :=
  (slice?_eq_some.mp h).2

/-- The items of a sequence are read in its place or behind its offset. -/
theorem items_of_sequence {dynamic : Bool} {data : Bytes} {offset after : Nat} {t : Token}
    {read : Bytes → Nat → Option (List Token × Nat)} {wrap : List Token → Token}
    (h : (if dynamic then do
        let inner ← behind? data offset
        let (items, _) ← read inner 0
        some (wrap items, offset + 32)
      else do
        let (items, offset) ← read data offset
        some (wrap items, offset)) = some (t, after)) :
    ∃ items data offset behind, t = wrap items ∧ read data offset = some (items, behind) := by
  split at h
  · obtain ⟨inner, -, h⟩ := Option.bind_eq_some_iff.mp h
    obtain ⟨⟨items, behind⟩, hitems, h⟩ := Option.bind_eq_some_iff.mp h
    cases h
    exact ⟨items, inner, 0, behind, rfl, hitems⟩
  · obtain ⟨⟨items, behind⟩, hitems, h⟩ := Option.bind_eq_some_iff.mp h
    cases h
    exact ⟨items, data, offset, _, rfl, hitems⟩

mutual

theorem hasType_of_decodeAt : ∀ {type : Ty} {data : Bytes} {offset after : Nat} {t : Token},
    decodeAt type data offset = some (t, after) → t.hasType type = true
  | .address, data, offset, after, t, h => by
    obtain ⟨word, -, h⟩ := Option.bind_eq_some_iff.mp h
    obtain ⟨a, -, h⟩ := Option.bind_eq_some_iff.mp h
    cases h
    rfl
  | .uint _, data, offset, after, t, h | .int _, data, offset, after, t, h => by
    obtain ⟨word, -, h⟩ := Option.bind_eq_some_iff.mp h
    cases h
    rfl
  | .bool, data, offset, after, t, h => by
    obtain ⟨word, -, h⟩ := Option.bind_eq_some_iff.mp h
    obtain ⟨b, -, h⟩ := Option.bind_eq_some_iff.mp h
    cases h
    rfl
  | .fixed size, data, offset, after, t, h => by
    obtain ⟨b, hb, h⟩ := Option.bind_eq_some_iff.mp h
    cases h
    simp [Token.hasType, length_of_slice? hb]
  | .bytes, data, offset, after, t, h | .string, data, offset, after, t, h => by
    obtain ⟨b, -, h⟩ := Option.bind_eq_some_iff.mp h
    cases h
    rfl
  | .array item, data, offset, after, t, h => by
    obtain ⟨start, -, h⟩ := Option.bind_eq_some_iff.mp h
    obtain ⟨length, -, h⟩ := Option.bind_eq_some_iff.mp h
    obtain ⟨⟨items, behind⟩, hitems, h⟩ := Option.bind_eq_some_iff.mp h
    cases h
    rw [repeated_eq] at hitems
    have htypes := haveTypes_of_decodeSeq hitems
    have hlen : items.length = length := by simpa using Token.haveTypes_length htypes
    rw [Token.hasType, hlen]
    exact htypes
  | .farray item size, data, offset, after, t, h => by
    rw [decodeAt] at h
    simp only [repeated_eq] at h
    obtain ⟨items, _, _, _, rfl, hitems⟩ := items_of_sequence h
    have htypes := haveTypes_of_decodeSeq hitems
    have hlen : items.length = size := by simpa using Token.haveTypes_length htypes
    rw [Token.hasType, hlen, htypes]
    simp
  | .tuple types, data, offset, after, t, h => by
    rw [decodeAt] at h
    obtain ⟨items, _, _, _, rfl, hitems⟩ := items_of_sequence h
    exact haveTypes_of_decodeSeq hitems

theorem haveTypes_of_decodeSeq : ∀ {types : List Ty} {data : Bytes} {offset after : Nat}
    {ts : List Token}, decodeSeq types data offset = some (ts, after) →
    Token.haveTypes ts types = true
  | [], data, offset, after, ts, h => by
    cases h
    rfl
  | type :: types, data, offset, after, ts, h => by
    obtain ⟨⟨t, next⟩, ht, h⟩ := Option.bind_eq_some_iff.mp h
    obtain ⟨⟨rest, last⟩, hrest, h⟩ := Option.bind_eq_some_iff.mp h
    cases h
    rw [Token.haveTypes, hasType_of_decodeAt ht, haveTypes_of_decodeSeq hrest, Bool.and_self]

end

theorem decodeSeq_of_decode {types : List Ty} {data : Bytes} {ts : List Token}
    (h : decode types data = .ok ts) : ∃ after, decodeSeq types data 0 = some (ts, after) := by
  rw [decode] at h
  split at h
  · cases h
  · split at h
    · rename_i items after hread
      cases h
      exact ⟨after, hread⟩
    · cases h

/-- What is read are exact values of the types. -/
theorem haveTypes_of_decode {types : List Ty} {data : Bytes} {ts : List Token}
    (h : decode types data = .ok ts) : Token.haveTypes ts types = true := by
  obtain ⟨after, hread⟩ := decodeSeq_of_decode h
  exact haveTypes_of_decodeSeq hread

theorem length_of_decode {types : List Ty} {data : Bytes} {ts : List Token}
    (h : decode types data = .ok ts) : ts.length = types.length :=
  Token.haveTypes_length (haveTypes_of_decode h)

/-! ## What follows is not looked at -/

/-- Whether what one reader finds is found by another one too. -/
def Keeps {α : Type} (found later : Option α) : Prop := ∀ a, found = some a → later = some a

namespace Keeps

variable {α β : Type} {found later : Option α}

theorem refl (found : Option α) : Keeps found found := fun _ h => h

theorem bind {next after : α → Option β} (h : Keeps found later)
    (hnext : ∀ a, Keeps (next a) (after a)) : Keeps (found >>= next) (later >>= after) := by
  intro b hb
  obtain ⟨a, ha, hb⟩ := Option.bind_eq_some_iff.mp hb
  rw [h a ha]
  exact hnext a b hb

theorem slice (data rest : Bytes) (offset n : Nat) :
    Keeps (slice? data offset n) (slice? (data ++ rest) offset n) := by
  intro b hb
  have hlen := length_of_slice? hb
  have hfound : b = (data.drop offset).take n := by
    rw [slice?] at hb
    split at hb
    · exact (Option.some.inj hb).symm
    · cases hb
  have hroom : n ≤ (data.drop offset).length := by
    rw [← hlen, hfound]
    exact List.length_take_le' ..
  have hlonger : ((data ++ rest).drop offset).take n = b := by
    rw [List.drop_append, List.take_append_of_le_length hroom, hfound]
  rw [slice?, hlonger]
  exact if_pos hlen

theorem size (data rest : Bytes) (offset : Nat) :
    Keeps (sizeAt? data offset) (sizeAt? (data ++ rest) offset) :=
  (slice data rest offset 32).bind fun _ => refl _

theorem blob (data rest : Bytes) (offset : Nat) :
    Keeps (blobAt? data offset) (blobAt? (data ++ rest) offset) :=
  (size data rest offset).bind fun start => (size data rest start).bind fun _ =>
    slice data rest (start + 32) _

/-- The data behind an offset is followed by the same. -/
theorem behind {data rest : Bytes} {offset : Nat} {next : Bytes → Option β}
    (hnext : ∀ inner, Keeps (next inner) (next (inner ++ rest))) :
    Keeps (behind? data offset >>= next) (behind? (data ++ rest) offset >>= next) := by
  intro b hb
  obtain ⟨inner, hinner, hb⟩ := Option.bind_eq_some_iff.mp hb
  obtain ⟨start, hstart, hinner⟩ := Option.bind_eq_some_iff.mp hinner
  split at hinner
  · rename_i hle
    obtain rfl := Option.some.inj hinner
    have hlater : behind? (data ++ rest) offset = some (data.drop start ++ rest) := by
      rw [behind?, size data rest offset start hstart]
      simp only [Option.bind_eq_bind, Option.bind_some]
      rw [if_pos (by rw [List.length_append]; omega), List.drop_append_of_le_length hle]
    rw [hlater]
    exact hnext _ b hb
  · cases hinner

end Keeps

mutual

/-- What is read at an offset is read there, whatever follows the data. -/
theorem keeps_decodeAt : ∀ (type : Ty) (data rest : Bytes) (offset : Nat),
    Keeps (decodeAt type data offset) (decodeAt type (data ++ rest) offset)
  | .address, data, rest, offset | .uint _, data, rest, offset | .int _, data, rest, offset
  | .bool, data, rest, offset | .fixed _, data, rest, offset =>
    (Keeps.slice data rest offset _).bind fun _ => .refl _
  | .bytes, data, rest, offset | .string, data, rest, offset =>
    (Keeps.blob data rest offset).bind fun _ => .refl _
  | .array item, data, rest, offset => by
    rw [decodeAt, decodeAt]
    simp only [repeated_eq, List.drop_append]
    refine (Keeps.size data rest offset).bind fun start => ?_
    refine (Keeps.size data rest start).bind fun length => ?_
    exact (keeps_replicate item length _ _ 0).bind fun _ => .refl _
  | .farray item size, data, rest, offset => by
    rw [decodeAt, decodeAt]
    simp only [repeated_eq]
    split
    · refine Keeps.behind fun inner => ?_
      exact (keeps_replicate item size inner rest 0).bind fun _ => .refl _
    · exact (keeps_replicate item size data rest offset).bind fun _ => .refl _
  | .tuple types, data, rest, offset => by
    rw [decodeAt, decodeAt]
    split
    · refine Keeps.behind fun inner => ?_
      exact (keeps_decodeSeq types inner rest 0).bind fun _ => .refl _
    · exact (keeps_decodeSeq types data rest offset).bind fun _ => .refl _

theorem keeps_replicate : ∀ (item : Ty) (count : Nat) (data rest : Bytes) (offset : Nat),
    Keeps (decodeSeq (List.replicate count item) data offset)
      (decodeSeq (List.replicate count item) (data ++ rest) offset)
  | _, 0, _, _, _ => .refl _
  | item, count + 1, data, rest, offset =>
    (keeps_decodeAt item data rest offset).bind fun _ =>
      (keeps_replicate item count data rest _).bind fun _ => .refl _

theorem keeps_decodeSeq : ∀ (types : List Ty) (data rest : Bytes) (offset : Nat),
    Keeps (decodeSeq types data offset) (decodeSeq types (data ++ rest) offset)
  | [], _, _, _ => .refl _
  | type :: types, data, rest, offset =>
    (keeps_decodeAt type data rest offset).bind fun _ =>
      (keeps_decodeSeq types data rest _).bind fun _ => .refl _

end

/-- What is read stays the same, whatever follows the data. -/
theorem decode_append {types : List Ty} {data : Bytes} {ts : List Token}
    (h : decode types data = .ok ts) (rest : Bytes) : decode types (data ++ rest) = .ok ts := by
  obtain ⟨after, hread⟩ := decodeSeq_of_decode h
  have hguard : ((data ++ rest).isEmpty && !types.all Ty.acceptsNothing) = false := by
    rw [Bool.and_eq_false_iff]
    cases hdata : data with
    | nil =>
      rw [hdata, decode] at h
      split at h
      · cases h
      · rename_i hall
        exact .inr (by simpa using hall)
    | cons x data => exact .inl rfl
  rw [decode, if_neg (by simp only [hguard, Bool.false_eq_true, not_false_eq_true]),
    keeps_decodeSeq types data rest 0 _ hread]

/-! ## Words -/

/-- Whether every word holds a value of the type. -/
def Ty.takesWord : Ty → Bool
  | .address | .uint _ | .int _ => true
  | .fixed size => size ≤ 32
  | _ => false

theorem slice?_of_le {data : Bytes} {offset n : Nat} (h : offset + n ≤ data.length) :
    slice? data offset n = some ((data.drop offset).take n) := by
  rw [slice?]
  exact if_pos (by rw [List.length_take, List.length_drop]; omega)

theorem decodeAt_takesWord {type : Ty} (h : type.takesWord = true) {data : Bytes} {offset : Nat}
    (hlen : offset + 32 ≤ data.length) :
    ∃ t, decodeAt type data offset = some (t, offset + 32) := by
  have hword : wordAt? data offset = some ((data.drop offset).take 32) := slice?_of_le hlen
  cases type with
  | address =>
    have haddress : (((data.drop offset).take 32).drop 12).length = 20 := by
      rw [List.length_drop, List.length_take, List.length_drop]
      omega
    obtain ⟨a, ha⟩ : ∃ a, exactly? 20 (((data.drop offset).take 32).drop 12) = some a :=
      ⟨_, dif_pos haddress⟩
    refine ⟨.address a, ?_⟩
    rw [decodeAt, hword]
    simp only [Option.bind_eq_bind, Option.bind_some, ha]
  | uint | int => exact ⟨_, by rw [decodeAt, hword]; rfl⟩
  | fixed size =>
    have hsize : size ≤ 32 := by simpa [Ty.takesWord] using h
    exact ⟨_, by rw [decodeAt, slice?_of_le (by omega)]; rfl⟩
  | _ => cases h

theorem decodeSeq_takesWord {types : List Ty} (h : ∀ type ∈ types, type.takesWord = true)
    {data : Bytes} {offset : Nat} (hlen : offset + 32 * types.length ≤ data.length) :
    ∃ ts after, decodeSeq types data offset = some (ts, after) := by
  induction types generalizing offset with
  | nil => exact ⟨[], offset, rfl⟩
  | cons type types ih =>
    rw [List.length_cons] at hlen
    have hword : offset + 32 ≤ data.length := by omega
    have hrest : offset + 32 + 32 * types.length ≤ data.length := by omega
    obtain ⟨t, ht⟩ := decodeAt_takesWord (h type List.mem_cons_self) hword
    obtain ⟨ts, after, hts⟩ := ih (fun u hu => h u (List.mem_cons_of_mem type hu)) hrest
    refine ⟨t :: ts, after, ?_⟩
    rw [decodeSeq, ht]
    simp only [Option.bind_eq_bind, Option.bind_some, hts]

/-- Every list of as many words is read. -/
theorem decode_words {types : List Ty} (h : ∀ type ∈ types, type.takesWord = true)
    {words : List Hash} (hlen : words.length = types.length) :
    ∃ ts, decode types (words.flatMap Vector.toList) = .ok ts := by
  have hroom : (words.flatMap Vector.toList).length = 32 * words.length := by
    simp [List.map_const', Nat.mul_comm]
  obtain ⟨ts, after, hread⟩ :=
    decodeSeq_takesWord h (by rw [hroom, hlen, Nat.zero_add] : 0 + 32 * types.length ≤ _)
  refine ⟨ts, ?_⟩
  rw [decode, hread]
  split
  · rename_i hguard
    rw [Bool.and_eq_true] at hguard
    have hempty : types = [] := by
      have hnone := congrArg List.length (List.isEmpty_iff.mp hguard.1)
      rw [hroom, hlen] at hnone
      exact List.eq_nil_of_length_eq_zero (by simpa using hnone)
    simp [hempty] at hguard
  · rfl

/-! ## No data -/

/-- From no data, nothing is read where something that takes room is asked for. -/
theorem decode_nil_of_solid {types : List Ty} (hs : Ty.allSolid types = true)
    (hsome : types ≠ []) : decode types [] = .error .noData := by
  rw [decode, all_acceptsNothing (Ty.allRegular_of_solid hs), List.isEmpty_eq_false_iff.mpr hsome]
  rfl

end AbiBindings.Abi
