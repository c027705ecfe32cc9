import AbiBindings.Proofs.Abi.Injective

/-!
# Sizes of encodings

Where no tuple is empty, every member of a sequence takes a word of the head at least. So the
encoding is longer than any array in it has items, and it is only empty if it encodes nothing.

* `Ty.solid`: the types whose values take a word of the head.
* `Token.TooLong`: values whose length or number of items does not fit into 32 bits.

Results:
* `Token.countsWithin_of_solid`: no array has more items than its encoding has bytes.
* `Token.legible_of_solid`, `decode_encode_of_solid`, `encode_injective_of_solid`: reading back and
  telling apart values of such types, with no condition but on the size.
* `decode_encode_of_tooLong`: values of which one is too long are not read back.
-/

namespace AbiBindings.Abi

/-! ## Types that take room -/

namespace Ty

mutual

/-- Whether the type is regular and made of tuples that are not empty. -/
def solid : Ty → Bool
  | .fixed size => 1 ≤ size && size ≤ 32
  | .array item => item.solid
  | .farray item size => size != 0 && item.solid
  | .tuple items => !items.isEmpty && allSolid items
  | _ => true

/-- Whether every type is solid. -/
def allSolid : List Ty → Bool
  | [] => true
  | t :: rest => t.solid && allSolid rest

end

mutual

theorem regular_of_solid : ∀ {type : Ty}, type.solid = true → type.regular = true
  | .address, _ | .bool, _ | .string, _ | .bytes, _ | .uint _, _ | .int _, _ => rfl
  | .fixed size, h => h
  | .array item, h => by
    have hitem : item.solid = true := h
    have hregular : item.regular = true := regular_of_solid hitem
    exact hregular
  | .farray item size, h => by
    simp only [solid, Bool.and_eq_true] at h
    simp [regular, h.1, regular_of_solid h.2]
  | .tuple items, h => by
    simp only [solid, Bool.and_eq_true] at h
    exact allRegular_of_solid h.2

theorem allRegular_of_solid : ∀ {types : List Ty}, allSolid types = true → allRegular types = true
  | [], _ => rfl
  | t :: rest, h => by
    simp only [allSolid, Bool.and_eq_true] at h
    simp [allRegular, regular_of_solid h.1, allRegular_of_solid h.2]

end

theorem allSolid_iff {types : List Ty} :
    allSolid types = true ↔ ∀ type ∈ types, type.solid = true := by
  induction types with
  | nil => simp [allSolid]
  | cons type types ih => simp [allSolid, ih]

theorem allSolid_replicate {item : Ty} (h : item.solid = true) (n : Nat) :
    allSolid (List.replicate n item) = true := by
  induction n with
  | zero => rfl
  | succ n ih => simp [List.replicate_succ, allSolid, h, ih]

end Ty

/-! ## Room in the head -/

namespace Token

mutual

/-- A value takes a word of the head at least. -/
theorem room_of_solid : ∀ {t : Token} {type : Ty}, t.hasType type = true → type.solid = true →
    32 ≤ t.part.headSize
  | .address _, _, _, _ | .uint _, _, _, _ | .int _, _, _, _ | .bool _, _, _, _
  | .string _, _, _, _ | .bytes _, _, _, _ | .array _, _, _, _ => by
    simp [part, Part.headSize, isDynamic, body]
  | .fixed b, type, ht, hs => by
    obtain rfl := hasType_fixed_iff.mp ht
    obtain ⟨h1, h32⟩ : 1 ≤ b.length ∧ b.length ≤ 32 := by simpa [Ty.solid] using hs
    have hlen : (Token.fixed b).body.length = 32 := length_padRight h1 h32
    rw [headSize_of_word rfl hlen]
  | .farray items, type, ht, hs => by
    obtain ⟨item, rfl, hitems⟩ := hasType_farray_iff.mp ht
    simp only [Ty.solid, Bool.and_eq_true, bne_iff_ne] at hs
    have hroom := rooms_of_solid hitems (Ty.allSolid_replicate hs.2 _)
    cases hd : (Token.farray items).isDynamic with
    | true => rw [headSize_of_dynamic hd]
    | false =>
      rw [headSize_of_static hd, body, length_layout_of_static hd]
      omega
  | .tuple items, type, ht, hs => by
    obtain ⟨types, rfl, hitems⟩ := hasType_tuple_iff.mp ht
    simp only [Ty.solid, Bool.and_eq_true, Bool.not_eq_true', List.isEmpty_eq_false_iff] at hs
    have hroom := rooms_of_solid hitems hs.2
    have hlen := haveTypes_length hitems
    have hpos : 0 < types.length := List.length_pos_iff.mpr hs.1
    cases hd : (Token.tuple items).isDynamic with
    | true => rw [headSize_of_dynamic hd]
    | false =>
      rw [headSize_of_static hd, body, length_layout_of_static hd]
      omega

theorem rooms_of_solid : ∀ {ts : List Token} {types : List Ty}, haveTypes ts types = true →
    Ty.allSolid types = true → 32 * ts.length ≤ headSize (parts ts)
  | [], _, _, _ => by simp
  | t :: rest, types, ht, hs => by
    obtain ⟨type, types, rfl⟩ : ∃ type rest, types = type :: rest := by
      cases types <;> simp_all [haveTypes]
    simp only [haveTypes, Ty.allSolid, Bool.and_eq_true] at ht hs
    have hhead := room_of_solid ht.1 hs.1
    have htail := rooms_of_solid ht.2 hs.2
    simp only [parts_cons, headSize_cons, List.length_cons]
    omega

end

/-! ## Counts of items -/

theorem body_le_layout (t : Token) (rest : List Token) :
    t.body.length ≤ (layout (parts (t :: rest))).length ∧
      (layout (parts rest)).length ≤ (layout (parts (t :: rest))).length := by
  simp only [length_layout, parts_cons, headSize_cons, tails]
  cases hd : t.isDynamic with
  | true =>
    simp only [part, hd, if_true, List.length_append]
    omega
  | false =>
    simp only [part, Part.headSize, hd, Bool.false_eq_true, if_false]
    omega

mutual

/-- No array in a value has more items than the value has bytes. -/
theorem countsWithin_of_solid {n : Nat} : ∀ {t : Token} {type : Ty}, t.hasType type = true →
    type.solid = true → t.body.length ≤ n → t.countsWithin n = true
  | .address _, _, _, _ | .uint _, _, _, _ | .int _, _, _, _ | .bool _, _, _, _
  | .string _, _, _, _ | .bytes _, _, _, _ | .fixed _, _, _, _ => fun _ => by simp [countsWithin]
  | .array items, type, ht, hs => fun hn => by
    obtain ⟨item, rfl, hitems⟩ := hasType_array_iff.mp ht
    have hitem : item.solid = true := hs
    have hsolid := Ty.allSolid_replicate hitem items.length
    have hroom := rooms_of_solid hitems hsolid
    have hlayout : (layout (parts items)).length ≤ n := by
      rw [body, List.length_append] at hn
      omega
    have hcount : items.length ≤ n := by
      rw [length_layout] at hlayout
      omega
    simp [countsWithin, hcount, allCountsWithin_of_solid hitems hsolid hlayout]
  | .farray items, type, ht, hs => fun hn => by
    obtain ⟨item, rfl, hitems⟩ := hasType_farray_iff.mp ht
    simp only [Ty.solid, Bool.and_eq_true] at hs
    rw [body] at hn
    rw [countsWithin]
    exact allCountsWithin_of_solid hitems (Ty.allSolid_replicate hs.2 _) hn
  | .tuple items, type, ht, hs => fun hn => by
    obtain ⟨types, rfl, hitems⟩ := hasType_tuple_iff.mp ht
    simp only [Ty.solid, Bool.and_eq_true] at hs
    rw [body] at hn
    rw [countsWithin]
    exact allCountsWithin_of_solid hitems hs.2 hn

theorem allCountsWithin_of_solid {n : Nat} : ∀ {ts : List Token} {types : List Ty},
    haveTypes ts types = true → Ty.allSolid types = true → (layout (parts ts)).length ≤ n →
    allCountsWithin n ts = true
  | [], _, _, _, _ => rfl
  | t :: rest, types, ht, hs, hn => by
    obtain ⟨type, types, rfl⟩ : ∃ type rest, types = type :: rest := by
      cases types <;> simp_all [haveTypes]
    simp only [haveTypes, Ty.allSolid, Bool.and_eq_true] at ht hs
    obtain ⟨hbody, hrest⟩ := body_le_layout t rest
    simp [allCountsWithin, countsWithin_of_solid ht.1 hs.1 (hbody.trans hn),
      allCountsWithin_of_solid ht.2 hs.2 (hrest.trans hn)]

end

end Token

/-! ## Values that are too long -/

theorem length_padRight_le (b : Bytes) : (padRight b).length ≤ b.length + 32 := by
  simp only [padRight, List.length_append, length_zeros]
  omega

/-- Every value takes its body and at most the word of an offset. -/
theorem length_encode_le (ts : List Token) :
    (encode ts).length ≤ (ts.map fun t => 32 + t.body.length).sum := by
  rw [encode, length_layout]
  induction ts with
  | nil => rfl
  | cons t rest ih =>
    simp only [Token.parts_cons, headSize_cons, tails, List.map_cons, List.sum_cons]
    cases hd : t.isDynamic with
    | true =>
      simp only [Token.part, Part.headSize, hd, if_true, List.length_append]
      omega
    | false =>
      simp only [Token.part, Part.headSize, hd, Bool.false_eq_true, if_false]
      omega

/-- Whether the length or the number of items of the value does not fit into 32 bits. -/
def Token.TooLong : Token → Prop
  | .string s => 2 ^ 32 ≤ (utf8 s).length
  | .bytes b => 2 ^ 32 ≤ b.length
  | .array items => 2 ^ 32 ≤ items.length
  | _ => False

/-- Nothing is read behind a length that is too large. -/
theorem sizeAt?_bind_of_le {α : Type} {data : Bytes} {offset start m n : Nat}
    {next : Nat → Nat → Option α} (hstart : data.Holds offset (sizeWord start))
    (hbody : data.Holds start (sizeWord m)) (hwithin : start ≤ n) (hm : m ≤ n) (hn : n < 2 ^ 256)
    (hlarge : 2 ^ 32 ≤ m) :
    (do
      let start ← sizeAt? data offset
      let length ← sizeAt? data start
      next start length) = none := by
  have hword : wordAt? data start = some (sizeWord m) := by
    have hslice := hbody.slice?
    rwa [length_sizeWord] at hslice
  have hlength : sizeAt? data start = none := by
    simp only [sizeAt?, hword, bind, Option.bind]
    rw [sizeOfWord?_sizeWord (by omega), if_neg (by omega)]
  rcases Reads.size hstart hwithin hn with hread | ⟨hread, -⟩ <;>
    simp only [hread, hlength, bind, Option.bind]

/-- A value that is too long is not read in its place. -/
theorem decodeAt_of_tooLong {n : Nat} (hn : n < 2 ^ 256) {t : Token} {type : Ty} {data : Bytes}
    {offset start : Nat} (ht : t.hasType type = true) (hc : t.countsWithin n = true)
    (hlong : t.TooLong) (hat : t.part.At data offset start n) :
    decodeAt type data offset = none := by
  cases t with
  | bytes b =>
    cases Token.typed_of_hasType ht
    obtain ⟨hstart, hbody, hwithin⟩ := hat.dynamic rfl
    simp only [Token.body, padRight, List.length_append] at hbody hwithin
    rw [decodeAt, blobAt?,
      sizeAt?_bind_of_le hstart hbody.left (by omega) (by omega) hn hlong]
    rfl
  | string s =>
    cases Token.typed_of_hasType ht
    obtain ⟨hstart, hbody, hwithin⟩ := hat.dynamic rfl
    simp only [Token.body, padRight, List.length_append] at hbody hwithin
    rw [decodeAt, blobAt?,
      sizeAt?_bind_of_le hstart hbody.left (by omega) (by omega) hn hlong]
    rfl
  | array items =>
    obtain ⟨item, rfl, -⟩ := Token.hasType_array_iff.mp ht
    obtain ⟨hstart, hbody, hwithin⟩ := hat.dynamic rfl
    simp only [Token.countsWithin, Bool.and_eq_true, decide_eq_true_eq] at hc
    rw [decodeAt]
    exact sizeAt?_bind_of_le hstart hbody.left (by omega) hc.1 hn hlong
  | _ => exact hlong.elim

/-- A sequence with a value that is too long is not read. -/
theorem decodeSeq_of_tooLong {n : Nat} (hn : n < 2 ^ 256) {t : Token} (hlong : t.TooLong) :
    ∀ {ts : List Token} {types : List Ty} {data : Bytes} {offset start : Nat}, t ∈ ts →
      Token.haveTypes ts types = true → Ty.allRegular types = true →
      Token.allCountsWithin n ts = true → Placed (Token.parts ts) data offset start n →
      decodeSeq types data offset = none
  | [], _, _, _, _, hmem, _, _, _, _ => by cases hmem
  | u :: rest, [], _, _, _, _, ht, _, _, _ => by simp [Token.haveTypes] at ht
  | u :: rest, type :: types, data, offset, start, hmem, ht, hr, hc, hplaced => by
    simp only [Token.haveTypes, Ty.allRegular, Token.allCountsWithin, Bool.and_eq_true] at ht hr hc
    obtain ⟨start', hrest⟩ := hplaced.tail
    rw [decodeSeq]
    rcases List.mem_cons.mp hmem with rfl | hmem
    · rw [decodeAt_of_tooLong hn ht.1 hc.1 hlong hplaced.head]
      rfl
    · have hnone : decodeSeq types data (offset + u.part.headSize) = none :=
        decodeSeq_of_tooLong hn hlong hmem ht.2 hr.2 hc.2 hrest
      rcases decodeAt_reads hn ht.1 hr.1 hc.1 hplaced.head with hread | ⟨hread, -⟩ <;>
        simp only [hread, hnone, bind, Option.bind]

/-! ## Whole encodings -/

section WholeEncodings

variable {ts us : List Token} {types : List Ty}

theorem types_eq_nil_of_encode (ht : Token.haveTypes ts types = true)
    (hs : Ty.allSolid types = true) (h : encode ts = []) : types = [] := by
  have hroom := Token.rooms_of_solid ht hs
  have hlen := Token.haveTypes_length ht
  have hempty : (layout (Token.parts ts)).length = 0 := by
    have := congrArg List.length h
    simpa [encode] using this
  rw [length_layout] at hempty
  exact List.eq_nil_of_length_eq_zero (by omega)

/-- Values whose encoding is small enough are read back. -/
theorem Token.legible_of_solid (ht : Token.haveTypes ts types = true)
    (hs : Ty.allSolid types = true) (hlen : (encode ts).length < 2 ^ 32) :
    Token.Legible ts types where
  exact := ht
  regular := Ty.allRegular_of_solid hs
  counts := Token.allCountsWithin_of_solid ht hs (Nat.le_sub_one_of_lt hlen)
  small := hlen
  something := types_eq_nil_of_encode ht hs

/-- Encoded values are read back, whatever follows them, or refused for a size of `2 ^ 32` or more.
-/
theorem decode_encode_of_solid (ht : Token.haveTypes ts types = true)
    (hs : Ty.allSolid types = true) (hlen : (encode ts).length < 2 ^ 256) (rest : Bytes) :
    decode types (encode ts ++ rest) = .ok ts ∨
      decode types (encode ts ++ rest) = .error .invalid ∧ 2 ^ 32 ≤ (encode ts).length :=
  decode_encode ht (Ty.allRegular_of_solid hs) (Token.allCountsWithin_of_solid ht hs Nat.le.refl)
    Nat.le.refl hlen rest fun h => types_eq_nil_of_encode ht hs (List.append_eq_nil_iff.mp h).1

/-- Encoded values of which one is too long are refused. -/
theorem decode_encode_of_tooLong (ht : Token.haveTypes ts types = true)
    (hs : Ty.allSolid types = true) (hlen : (encode ts).length < 2 ^ 256) {t : Token}
    (hmem : t ∈ ts) (hlong : t.TooLong) : decode types (encode ts) = .error .invalid := by
  have hsome : (encode ts).isEmpty = false := by
    rw [List.isEmpty_eq_false_iff]
    intro hnil
    obtain rfl := types_eq_nil_of_encode ht hs hnil
    cases ts with
    | nil => cases hmem
    | cons u rest => cases ht
  have hheld : (encode ts).Holds 0 (encode ts) := by
    simpa using Bytes.Holds.start (encode ts) []
  have hplaced : Placed (Token.parts ts) (encode ts) 0 _ (encode ts).length :=
    .of_layout hheld Nat.le.refl
  have hnone := decodeSeq_of_tooLong hlen hlong hmem ht (Ty.allRegular_of_solid hs)
    (Token.allCountsWithin_of_solid ht hs Nat.le.refl) hplaced
  rw [decode, hsome, hnone]
  rfl

/-- Different values of the same types have different encodings. -/
theorem encode_injective_of_solid (ht : Token.haveTypes ts types = true)
    (hu : Token.haveTypes us types = true) (hs : Ty.allSolid types = true)
    (hlen : (encode ts).length < 2 ^ 256) (h : encode ts = encode us) : ts = us := by
  have hus : (encode us).length ≤ (encode ts).length := by rw [h]
  exact encode_injective ht hu (Ty.allRegular_of_solid hs)
    (Token.allCountsWithin_of_solid ht hs Nat.le.refl) (Token.allCountsWithin_of_solid hu hs hus)
    Nat.le.refl hlen h

end WholeEncodings

end AbiBindings.Abi
