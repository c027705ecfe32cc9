import AbiBindings.Proofs.Abi.Values
import AbiBindings.Proofs.Abi.Words

/-!
# Encoded values are read back

The head and tail layout is read as it is written: each member is found where its head says, and the
position behind a member is where the head of the next one starts. Offsets and lengths are written
in full and read only below `2 ^ 32`, so an encoding of that size or more may be refused; it is
never misread.

* `Part.At`, `Placed`: where the members of a sequence stand in a byte string.
* `Reads`: a reader finds the value, or refuses an encoding that is too large for it.

Results:
* `decodeAt_reads`, `decodeSeq_reads`: what stands in its place is read back.
* `decode_encode`: encoded values are read back, whatever follows them, or refused for their size;
  `Token.Legible.decode_encode` says which are not refused.
-/

namespace AbiBindings.Abi

/-! ## The layout of a sequence -/

/-- The value as a member of a sequence. -/
def Token.part (t : Token) : Part := ⟨t.isDynamic, t.body⟩

@[simp] theorem Token.parts_cons (t : Token) (rest : List Token) :
    Token.parts (t :: rest) = t.part :: Token.parts rest := rfl

@[simp] theorem headSize_cons (p : Part) (rest : List Part) :
    headSize (p :: rest) = p.headSize + headSize rest := rfl

theorem length_heads (offset : Nat) (parts : List Part) :
    (heads offset parts).length = headSize parts := by
  induction parts generalizing offset with
  | nil => rfl
  | cons p rest ih =>
    by_cases hd : p.dynamic <;> simp [heads, Part.headSize, hd, ih]

theorem length_layout (parts : List Part) :
    (layout parts).length = headSize parts + (tails parts).length := by
  simp [layout, length_heads]

/-- Without dynamic members nothing depends on where the bodies would start. -/
theorem heads_eq_of_static {ts : List Token} (h : Token.anyDynamic ts = false) (offset : Nat) :
    heads offset (Token.parts ts) = layout (Token.parts ts) ∧ tails (Token.parts ts) = [] := by
  have hboth : ∀ ts : List Token, Token.anyDynamic ts = false → ∀ a b,
      heads a (Token.parts ts) = heads b (Token.parts ts) ∧ tails (Token.parts ts) = [] := by
    intro ts
    induction ts with
    | nil => exact fun _ _ _ => ⟨rfl, rfl⟩
    | cons t rest ih =>
      intro h a b
      simp only [Token.anyDynamic, Bool.or_eq_false_iff] at h
      simp [heads, tails, Token.part, h.1, (ih h.2 a b).1, (ih h.2 a b).2]
  obtain ⟨hheads, htails⟩ := hboth ts h offset (headSize (Token.parts ts))
  exact ⟨by rw [hheads, layout, htails, List.append_nil], htails⟩

theorem length_layout_of_static {ts : List Token} (h : Token.anyDynamic ts = false) :
    (layout (Token.parts ts)).length = headSize (Token.parts ts) := by
  rw [length_layout, (heads_eq_of_static h 0).2, List.length_nil, Nat.add_zero]

/-- Whether a member stands in place: its head at `offset`, and its body, if it is dynamic, at
`start` and within the first `n` bytes. -/
def Part.At (p : Part) (data : Bytes) (offset start n : Nat) : Prop :=
  if p.dynamic then
    data.Holds offset (sizeWord start) ∧ data.Holds start p.body ∧ start + p.body.length ≤ n
  else data.Holds offset p.body

/-- Whether members stand in place: the heads at `offset`, and the dynamic bodies at `start` and
within the first `n` bytes. -/
structure Placed (parts : List Part) (data : Bytes) (offset start n : Nat) : Prop where
  heads : data.Holds offset (heads start parts)
  tails : data.Holds start (tails parts)
  within : start + (Abi.tails parts).length ≤ n

namespace Placed

variable {parts rest : List Part} {p : Part} {data : Bytes} {offset start n : Nat}

theorem head (h : Placed (p :: rest) data offset start n) : p.At data offset start n := by
  obtain ⟨hheads, htails, hwithin⟩ := h
  rw [Part.At]
  split
  · rename_i hd
    simp only [Abi.heads, Abi.tails, hd, if_true, List.length_append] at hheads htails hwithin
    exact ⟨hheads.left, htails.left, by omega⟩
  · rename_i hd
    simp only [Abi.heads, hd] at hheads
    exact hheads.left

theorem tail (h : Placed (p :: rest) data offset start n) :
    ∃ start', Placed rest data (offset + p.headSize) start' n := by
  obtain ⟨hheads, htails, hwithin⟩ := h
  by_cases hd : p.dynamic
  · simp only [Abi.heads, Abi.tails, hd, if_true, List.length_append] at hheads htails hwithin
    refine ⟨start + p.body.length, ?_, htails.right, by omega⟩
    simpa [Part.headSize, hd] using hheads.right
  · simp only [Abi.heads, Abi.tails, hd] at hheads htails hwithin
    refine ⟨start, ?_, htails, hwithin⟩
    simpa [Part.headSize, hd] using hheads.right

/-- An encoded sequence has its members in place. -/
theorem of_layout (h : data.Holds 0 (layout parts)) (hn : (layout parts).length ≤ n) :
    Placed parts data 0 (headSize parts) n := by
  refine ⟨h.left, ?_, by rwa [← length_layout]⟩
  simpa [length_heads] using h.right

/-- An encoded sequence without dynamic members has its members in place at any offset. -/
theorem of_static {ts : List Token} (hs : Token.anyDynamic ts = false)
    (h : data.Holds offset (layout (Token.parts ts))) :
    Placed (Token.parts ts) data offset 0 n := by
  obtain ⟨hheads, htails⟩ := heads_eq_of_static hs 0
  exact ⟨by rwa [hheads], by rw [htails]; exact .start [] data, by simp [htails]⟩

end Placed

/-! ## What a reader finds -/

/-- Whether a reader finds the value, or refuses it where sizes reach `2 ^ 32`. -/
def Reads {α : Type} (n : Nat) (found : Option α) (value : α) : Prop :=
  found = some value ∨ found = none ∧ 2 ^ 32 ≤ n

namespace Reads

variable {α β : Type} {n : Nat} {found : Option α} {a : α} {b : β}

theorem some (a : α) : Reads n (some a) a := .inl rfl

theorem bind {next : α → Option β} (h : Reads n found a) (hnext : Reads n (next a) b) :
    Reads n (found >>= next) b := by
  rcases h with rfl | ⟨rfl, hn⟩
  · exact hnext
  · exact .inr ⟨rfl, hn⟩

variable {data : Bytes} {offset : Nat}

theorem word {piece : Bytes} (h : data.Holds offset piece) (hlen : piece.length = 32) :
    Reads n (wordAt? data offset) piece := by
  rw [wordAt?, ← hlen, h.slice?]
  exact .some _

/-- A size is read where it is written, if it is not too large. -/
theorem size {m : Nat} (h : data.Holds offset (sizeWord m)) (hm : m ≤ n) (hn : n < 2 ^ 256) :
    Reads n (sizeAt? data offset) m := by
  have hword : Reads n (wordAt? data offset) (sizeWord m) := word h (length_sizeWord m)
  refine hword.bind ?_
  rw [sizeOfWord?_sizeWord (by omega)]
  split
  · exact .some _
  · exact .inr ⟨rfl, by omega⟩

/-- A dynamic byte string is read where it is written. -/
theorem blob {start : Nat} {b padding : Bytes} (hstart : data.Holds offset (sizeWord start))
    (hbody : data.Holds start (sizeWord b.length ++ (b ++ padding)))
    (hwithin : start + b.length ≤ n) (hn : n < 2 ^ 256) : Reads n (blobAt? data offset) b := by
  refine (size hstart (by omega) hn).bind ((size hbody.left (by omega) hn).bind ?_)
  have hslice : data.Holds (start + 32) b := by simpa using hbody.right.left
  rw [hslice.slice?]
  exact .some _

/-- The data behind an offset starts with the body that is written there. -/
theorem behind {start : Nat} {body : Bytes} (hstart : data.Holds offset (sizeWord start))
    (hbody : data.Holds start body) (hwithin : start + body.length ≤ n) (hn : n < 2 ^ 256) :
    Reads n (behind? data offset) (data.drop start) := by
  refine (size hstart (by omega) hn).bind ?_
  rw [if_pos (by have := hbody.le_length; omega)]
  exact .some _

end Reads

/-! ## Reading back -/

/-- What is read of an array read item by item is read of a sequence of as many types. -/
theorem repeated_eq (item : Ty) (data : Bytes) (count offset : Nat) :
    repeated (fun data offset => decodeAt item data offset) data count offset =
      decodeSeq (List.replicate count item) data offset := by
  induction count generalizing offset with
  | zero => rfl
  | succ count ih =>
    rw [repeated, List.replicate_succ, decodeSeq]
    simp only [ih]

theorem length_padRight {b : Bytes} (h1 : 1 ≤ b.length) (h32 : b.length ≤ 32) :
    (padRight b).length = 32 := by
  simp only [padRight, List.length_append, length_zeros]
  omega

section OneValue

variable {t : Token} {data : Bytes} {offset start n : Nat}

theorem headSize_of_word (hd : t.isDynamic = false) (hlen : t.body.length = 32) :
    t.part.headSize = 32 := by
  simp [Token.part, Part.headSize, hd, hlen]

theorem headSize_of_dynamic (hd : t.isDynamic = true) : t.part.headSize = 32 := by
  simp [Token.part, Part.headSize, hd]

theorem headSize_of_static (hd : t.isDynamic = false) : t.part.headSize = t.body.length := by
  simp [Token.part, Part.headSize, hd]

theorem Part.At.static (h : t.part.At data offset start n) (hd : t.isDynamic = false) :
    data.Holds offset t.body := by
  rw [Part.At, if_neg (by simp [Token.part, hd])] at h
  exact h

theorem Part.At.dynamic (h : t.part.At data offset start n) (hd : t.isDynamic = true) :
    data.Holds offset (sizeWord start) ∧ data.Holds start t.body ∧
      start + t.body.length ≤ n := by
  rw [Part.At, if_pos (by simp [Token.part, hd])] at h
  exact h

theorem Part.At.word (h : t.part.At data offset start n) (hd : t.isDynamic = false)
    (hlen : t.body.length = 32) : Reads n (wordAt? data offset) t.body :=
  .word (h.static hd) hlen

/-- Whether the value is encoded as the sequence of its items alone. -/
structure Token.IsSequence (t : Token) (items : List Token) : Prop where
  body : t.body = layout (Token.parts items)
  dynamic : t.isDynamic = Token.anyDynamic items

/-- The items of a sequence are read in its place, or behind its offset if there is a dynamic one
among them. -/
theorem Part.At.sequence {items : List Token} (h : t.part.At data offset start n)
    (hn : n < 2 ^ 256) (hs : t.IsSequence items)
    {read : Bytes → Nat → Option (List Token × Nat)}
    (hread : ∀ {data offset start}, Placed (Token.parts items) data offset start n →
      Reads n (read data offset) (items, offset + Abi.headSize (Token.parts items)))
    (wrap : List Token → Token) :
    Reads n
      (if t.isDynamic then do
        let inner ← behind? data offset
        let (items, _) ← read inner 0
        some (wrap items, offset + 32)
      else do
        let (items, offset) ← read data offset
        some (wrap items, offset))
      (wrap items, offset + t.part.headSize) := by
  cases hd : t.isDynamic with
  | true =>
    obtain ⟨hstart, hbody, hwithin⟩ := h.dynamic hd
    rw [hs.body] at hbody hwithin
    rw [headSize_of_dynamic hd, if_pos rfl]
    refine (Reads.behind hstart hbody hwithin hn).bind ?_
    exact (hread (.of_layout hbody.drop (Nat.le_of_add_left_le hwithin))).bind (.some _)
  | false =>
    have hstatic : Token.anyDynamic items = false := hs.dynamic.symm.trans hd
    have hbody := h.static hd
    rw [hs.body] at hbody
    rw [headSize_of_static hd, hs.body, length_layout_of_static hstatic, if_neg nofun]
    exact (hread (.of_static hstatic hbody)).bind (.some _)

end OneValue

mutual

/-- A value that stands in its place is read back, and the position behind its head with it. -/
theorem decodeAt_reads {n : Nat} (hn : n < 2 ^ 256) :
    ∀ {t : Token} {type : Ty} {data : Bytes} {offset start : Nat}, t.hasType type = true →
      type.regular = true → t.countsWithin n = true → t.part.At data offset start n →
      Reads n (decodeAt type data offset) (t, offset + t.part.headSize)
  | .address a, type, data, offset, start, ht, hr, hc, hat => by
    cases Token.typed_of_hasType ht
    have hlen : (Token.address a).body.length = 32 := by simp [Token.body]
    have hdrop : (Token.address a).body.drop 12 = a.toList := by
      simp [Token.body, zeros]
    rw [headSize_of_word rfl hlen, decodeAt]
    refine (hat.word rfl hlen).bind ?_
    rw [hdrop, exactly?_toList]
    exact .some _
  | .uint w, type, data, offset, start, ht, hr, hc, hat => by
    cases Token.typed_of_hasType ht
    have hlen : (Token.uint w).body.length = 32 := w.length_bytes
    rw [headSize_of_word rfl hlen, decodeAt]
    refine (hat.word rfl hlen).bind ?_
    rw [Token.body, Word.ofBytes_bytes]
    exact .some _
  | .int w, type, data, offset, start, ht, hr, hc, hat => by
    cases Token.typed_of_hasType ht
    have hlen : (Token.int w).body.length = 32 := w.length_bytes
    rw [headSize_of_word rfl hlen, decodeAt]
    refine (hat.word rfl hlen).bind ?_
    rw [Token.body, Word.ofBytes_bytes]
    exact .some _
  | .bool b, type, data, offset, start, ht, hr, hc, hat => by
    cases Token.typed_of_hasType ht
    have hlen : (Token.bool b).body.length = 32 := length_sizeWord _
    rw [headSize_of_word rfl hlen, decodeAt]
    refine (hat.word rfl hlen).bind ?_
    rw [Token.body, boolOfWord?_sizeWord]
    exact .some _
  | .fixed b, type, data, offset, start, ht, hr, hc, hat => by
    obtain rfl := Token.hasType_fixed_iff.mp ht
    obtain ⟨h1, h32⟩ : 1 ≤ b.length ∧ b.length ≤ 32 := by simpa [Ty.regular] using hr
    have hlen : (Token.fixed b).body.length = 32 := length_padRight h1 h32
    have hheld : data.Holds offset b := (hat.static rfl).left
    rw [headSize_of_word rfl hlen, decodeAt, hheld.slice?]
    exact .some _
  | .bytes b, type, data, offset, start, ht, hr, hc, hat => by
    cases Token.typed_of_hasType ht
    obtain ⟨hstart, hbody, hwithin⟩ := hat.dynamic rfl
    simp only [Token.body, padRight, List.length_append] at hbody hwithin
    rw [headSize_of_dynamic rfl, decodeAt]
    exact (Reads.blob hstart hbody (by omega) hn).bind (.some _)
  | .string s, type, data, offset, start, ht, hr, hc, hat => by
    cases Token.typed_of_hasType ht
    obtain ⟨hstart, hbody, hwithin⟩ := hat.dynamic rfl
    simp only [Token.body, padRight, List.length_append] at hbody hwithin
    rw [headSize_of_dynamic rfl, decodeAt]
    refine (Reads.blob hstart hbody (by omega) hn).bind ?_
    rw [utf8Lossy_utf8]
    exact .some _
  | .array items, type, data, offset, start, ht, hr, hc, hat => by
    obtain ⟨item, rfl, hitems⟩ := Token.hasType_array_iff.mp ht
    obtain ⟨hstart, hbody, hwithin⟩ := hat.dynamic rfl
    simp only [Token.countsWithin, Bool.and_eq_true, decide_eq_true_eq] at hc
    simp only [Token.body, List.length_append, length_sizeWord] at hbody hwithin
    have hlayout : Bytes.Holds (data.drop (start + 32)) 0 (layout (Token.parts items)) := by
      apply Bytes.Holds.drop
      simpa using hbody.right
    rw [headSize_of_dynamic rfl, decodeAt]
    refine (Reads.size hstart (by omega) hn).bind ((Reads.size hbody.left hc.1 hn).bind ?_)
    rw [repeated_eq]
    have hitem : item.regular = true := hr
    have hread := decodeSeq_reads hn hitems (Ty.allRegular_replicate hitem _) hc.2
      (.of_layout hlayout (by omega))
    exact hread.bind (.some _)
  | .farray items, type, data, offset, start, ht, hr, hc, hat => by
    obtain ⟨item, rfl, hitems⟩ := Token.hasType_farray_iff.mp ht
    have hdynamic : (Token.farray items).isDynamic = (Ty.farray item items.length).isDynamic :=
      Token.isDynamic_of_hasType ht hr
    simp only [Ty.regular, Bool.and_eq_true] at hr
    have hregular := Ty.allRegular_replicate hr.2 items.length
    rw [Ty.isDynamic] at hdynamic
    rw [decodeAt, ← hdynamic]
    simp only [repeated_eq]
    exact hat.sequence hn ⟨rfl, rfl⟩ (decodeSeq_reads hn hitems hregular hc) .farray
  | .tuple items, type, data, offset, start, ht, hr, hc, hat => by
    obtain ⟨types, rfl, hitems⟩ := Token.hasType_tuple_iff.mp ht
    have hdynamic : (Token.tuple items).isDynamic = Ty.anyDynamic types :=
      Token.isDynamic_of_hasType ht hr
    rw [decodeAt, ← hdynamic]
    exact hat.sequence hn ⟨rfl, rfl⟩ (decodeSeq_reads hn hitems hr hc) .tuple

theorem decodeSeq_reads {n : Nat} (hn : n < 2 ^ 256) :
    ∀ {ts : List Token} {types : List Ty} {data : Bytes} {offset start : Nat},
      Token.haveTypes ts types = true → Ty.allRegular types = true →
      Token.allCountsWithin n ts = true → Placed (Token.parts ts) data offset start n →
      Reads n (decodeSeq types data offset) (ts, offset + headSize (Token.parts ts))
  | [], types, data, offset, start, ht, hr, hc, hplaced => by
    obtain rfl : types = [] := by cases types <;> simp_all [Token.haveTypes]
    exact .some _
  | t :: rest, [], data, offset, start, ht, hr, hc, hplaced => by simp [Token.haveTypes] at ht
  | t :: rest, type :: types, data, offset, start, ht, hr, hc, hplaced => by
    simp only [Token.haveTypes, Ty.allRegular, Token.allCountsWithin, Bool.and_eq_true] at ht hr hc
    obtain ⟨start', hrest⟩ := hplaced.tail
    rw [decodeSeq]
    refine (decodeAt_reads hn ht.1 hr.1 hc.1 hplaced.head).bind ?_
    refine (decodeSeq_reads hn ht.2 hr.2 hc.2 hrest).bind ?_
    rw [Token.parts_cons, headSize_cons, Nat.add_assoc]
    exact .some _

end

/-! ## Whole encodings -/

theorem acceptsNothing_eq_false {type : Ty} (h : type.regular = true) :
    type.acceptsNothing = false := by
  unfold Ty.acceptsNothing
  split <;> simp_all [Ty.regular]

theorem all_acceptsNothing {types : List Ty} (h : Ty.allRegular types = true) :
    types.all Ty.acceptsNothing = types.isEmpty := by
  cases types with
  | nil => rfl
  | cons type types =>
    simp only [Ty.allRegular, Bool.and_eq_true] at h
    simp [acceptsNothing_eq_false h.1]

section WholeEncodings

variable {ts : List Token} {types : List Ty} {n : Nat}

/-- Encoded values are read back, whatever follows them, or refused for their size. Nothing at all
is only read where nothing is asked for. -/
theorem decode_encode (ht : Token.haveTypes ts types = true) (hr : Ty.allRegular types = true)
    (hc : Token.allCountsWithin n ts = true) (hlen : (encode ts).length ≤ n) (hn : n < 2 ^ 256)
    (rest : Bytes) (hsome : encode ts ++ rest = [] → types = []) :
    decode types (encode ts ++ rest) = .ok ts ∨
      decode types (encode ts ++ rest) = .error .invalid ∧ 2 ^ 32 ≤ n := by
  have hplaced : Placed (Token.parts ts) (encode ts ++ rest) 0 _ n :=
    .of_layout (.start _ rest) hlen
  have hguard : ((encode ts ++ rest).isEmpty && !types.all Ty.acceptsNothing) = false := by
    rw [all_acceptsNothing hr, Bool.and_eq_false_iff]
    cases hempty : (encode ts ++ rest).isEmpty with
    | false => exact .inl rfl
    | true => exact .inr (by simp [hsome (List.isEmpty_iff.mp hempty)])
  rw [decode, if_neg (by simp only [hguard, Bool.false_eq_true, not_false_eq_true])]
  rcases decodeSeq_reads hn ht hr hc hplaced with hread | ⟨hread, hlarge⟩
  · exact .inl (by rw [hread])
  · exact .inr ⟨by rw [hread], hlarge⟩

/-- Values that a reader gets back from their encoding: exact values of regular types, of a size and
with counts that are read, and not encoded as nothing. -/
structure Token.Legible (ts : List Token) (types : List Ty) : Prop where
  exact : Token.haveTypes ts types = true
  regular : Ty.allRegular types = true
  counts : Token.allCountsWithin (2 ^ 32 - 1) ts = true
  small : (encode ts).length < 2 ^ 32
  something : encode ts = [] → types = []

/-- Legible values are read back. -/
theorem Token.Legible.decode_encode (h : Token.Legible ts types) :
    decode types (encode ts) = .ok ts := by
  have hsome : encode ts ++ [] = [] → types = [] := by simpa using h.something
  have hread := Abi.decode_encode h.exact h.regular h.counts (Nat.le_sub_one_of_lt h.small)
    (by omega) [] hsome
  rw [List.append_nil] at hread
  rcases hread with hread | ⟨-, hlarge⟩
  · exact hread
  · omega

end WholeEncodings

end AbiBindings.Abi
