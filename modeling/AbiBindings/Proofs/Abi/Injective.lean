import AbiBindings.Proofs.Abi.RoundTrip

/-!
# Encodings are different

Different values of one list of types have different encodings, whatever their size: a size is
written in full, though only a small one is read.

Results:
* `eq_of_at`, `eq_of_placed`: of two values that stand in one place, both are the same.
* `encode_injective`: values of the same types with the same encoding are the same.
-/

namespace AbiBindings

/-! ## Equal pieces -/

/-- Two pieces of one size that stand in one place are the same. -/
theorem Bytes.Holds.unique {data a b : Bytes} {offset : Nat} (ha : data.Holds offset a)
    (hb : data.Holds offset b) (hlen : a.length = b.length) : a = b := by
  have ha' := ha.slice?
  rw [hlen, hb.slice?, Option.some.injEq] at ha'
  exact ha'.symm

theorem utf8_injective {s t : String} (h : utf8 s = utf8 t) : s = t := by
  rw [← utf8Lossy_utf8 s, h, utf8Lossy_utf8]

theorem Word.bytes_injective {v w : Word} (h : v.bytes = w.bytes) : v = w := by
  rw [← Word.ofBytes_bytes v, h, Word.ofBytes_bytes]

theorem padRight_injective {a b : Bytes} (hlen : a.length = b.length)
    (h : padRight a = padRight b) : a = b :=
  (List.append_inj h hlen).1

namespace Abi

theorem sizeWord_injective {m n : Nat} (hm : m < 2 ^ 256) (hn : n < 2 ^ 256)
    (h : sizeWord m = sizeWord n) : m = n := by
  rw [← toNat_sizeWord hm, h, toNat_sizeWord hn]

section Sized

variable {data : Bytes} {offset j k n : Nat}

theorem size_unique (hj : data.Holds offset (sizeWord j)) (hk : data.Holds offset (sizeWord k))
    (hjn : j ≤ n) (hkn : k ≤ n) (hn : n < 2 ^ 256) : j = k :=
  sizeWord_injective (by omega) (by omega) (hj.unique hk (by simp))

theorem blob_unique {a b : Bytes} (ha : data.Holds offset (sizeWord a.length ++ padRight a))
    (hb : data.Holds offset (sizeWord b.length ++ padRight b)) (han : a.length ≤ n)
    (hbn : b.length ≤ n) (hn : n < 2 ^ 256) : a = b := by
  have hlen : a.length = b.length := size_unique ha.left hb.left han hbn hn
  have hpad : padRight a = padRight b := ha.right.unique (by simpa using hb.right) (by
    simp [padRight, hlen])
  exact padRight_injective hlen hpad

end Sized

/-! ## Equal values -/

section OnePlace

variable {data : Bytes} {offset a b n : Nat}

namespace Part.At

variable {t u : Token}

theorem word_unique (ht : t.part.At data offset a n) (hu : u.part.At data offset b n)
    (hdt : t.isDynamic = false) (hdu : u.isDynamic = false)
    (hlen : t.body.length = u.body.length) : t.body = u.body :=
  (ht.static hdt).unique (hu.static hdu) hlen

/-- The offset of dynamic members is written once, so their bodies start together. -/
theorem body_unique (ht : t.part.At data offset a n) (hu : u.part.At data offset b n)
    (hn : n < 2 ^ 256) (hdt : t.isDynamic = true) (hdu : u.isDynamic = true) :
    a + t.body.length ≤ n ∧ a + u.body.length ≤ n ∧ data.Holds a t.body ∧
      data.Holds a u.body := by
  obtain ⟨hta, htbody, htn⟩ := ht.dynamic hdt
  obtain ⟨hub, hubody, hun⟩ := hu.dynamic hdu
  obtain rfl : a = b := size_unique hta hub (by omega) (by omega) hn
  exact ⟨htn, hun, htbody, hubody⟩

/-- The items of sequences that stand in one place stand in one place. -/
theorem items_unique (t u : Token) {vs ws : List Token} (ht : t.part.At data offset a n)
    (hu : u.part.At data offset b n) (hn : n < 2 ^ 256) (hvs : t.IsSequence vs)
    (hws : u.IsSequence ws) (hdynamic : Token.anyDynamic vs = Token.anyDynamic ws) :
    ∃ data' offset' a' b', Placed (Token.parts vs) data' offset' a' n ∧
      Placed (Token.parts ws) data' offset' b' n := by
  cases hd : Token.anyDynamic vs with
  | true =>
    have hdw : Token.anyDynamic ws = true := hdynamic.symm.trans hd
    obtain ⟨htn, hun, htbody, hubody⟩ :=
      ht.body_unique hu hn (hvs.dynamic.trans hd) (hws.dynamic.trans hdw)
    rw [hvs.body] at htn htbody
    rw [hws.body] at hun hubody
    exact ⟨data.drop a, 0, _, _, .of_layout htbody.drop (by omega),
      .of_layout hubody.drop (by omega)⟩
  | false =>
    have hdw : Token.anyDynamic ws = false := hdynamic.symm.trans hd
    have htheld := ht.static (hvs.dynamic.trans hd)
    have huheld := hu.static (hws.dynamic.trans hdw)
    rw [hvs.body] at htheld
    rw [hws.body] at huheld
    exact ⟨data, offset, 0, 0, .of_static hd htheld, .of_static hdw huheld⟩

/-- Arrays that stand in one place have as many items, which stand in one place. -/
theorem array_unique {vs ws : List Token} (ht : (Token.array vs).part.At data offset a n)
    (hu : (Token.array ws).part.At data offset b n) (hn : n < 2 ^ 256) (hvs : vs.length ≤ n)
    (hws : ws.length ≤ n) :
    vs.length = ws.length ∧ ∃ data' offset' a' b',
      Placed (Token.parts vs) data' offset' a' n ∧ Placed (Token.parts ws) data' offset' b' n := by
  obtain ⟨htn, hun, htbody, hubody⟩ := ht.body_unique hu hn rfl rfl
  simp only [Token.body, List.length_append, length_sizeWord] at htn hun htbody hubody
  have hv : Bytes.Holds (data.drop (a + 32)) 0 (layout (Token.parts vs)) :=
    .drop (by simpa using htbody.right)
  have hw : Bytes.Holds (data.drop (a + 32)) 0 (layout (Token.parts ws)) :=
    .drop (by simpa using hubody.right)
  exact ⟨size_unique htbody.left hubody.left hvs hws hn, _, _, _, _,
    .of_layout hv (by omega), .of_layout hw (by omega)⟩

end Part.At

end OnePlace

mutual

/-- Two values of one type that stand in one place are the same. -/
theorem eq_of_at {n : Nat} (hn : n < 2 ^ 256) :
    ∀ {t u : Token} {type : Ty} {data : Bytes} {offset a b : Nat}, t.hasType type = true →
      u.hasType type = true → type.regular = true → t.countsWithin n = true →
      u.countsWithin n = true → t.part.At data offset a n → u.part.At data offset b n → t = u
  | .address v, u, type, data, offset, a, b, ht, hu, hr, hct, hcu, hta, hua => by
    cases Token.typed_of_hasType ht
    cases Token.typed_of_hasType hu with
    | address w =>
      have hbody := hta.word_unique hua rfl rfl (by simp [Token.body])
      simpa [Token.body, Vector.toList_inj] using hbody
  | .uint v, u, type, data, offset, a, b, ht, hu, hr, hct, hcu, hta, hua => by
    cases Token.typed_of_hasType ht
    cases Token.typed_of_hasType hu with
    | uint w =>
      have hbody := hta.word_unique hua rfl rfl (by simp [Token.body])
      rw [Word.bytes_injective hbody]
  | .int v, u, type, data, offset, a, b, ht, hu, hr, hct, hcu, hta, hua => by
    cases Token.typed_of_hasType ht
    cases Token.typed_of_hasType hu with
    | int w =>
      have hbody := hta.word_unique hua rfl rfl (by simp [Token.body])
      rw [Word.bytes_injective hbody]
  | .bool v, u, type, data, offset, a, b, ht, hu, hr, hct, hcu, hta, hua => by
    cases Token.typed_of_hasType ht
    cases Token.typed_of_hasType hu with
    | bool w =>
      have hbody := hta.word_unique hua rfl rfl (by simp [Token.body])
      have hsize := sizeWord_injective (by split <;> omega) (by split <;> omega) hbody
      cases v <;> cases w <;> simp_all
  | .fixed v, u, type, data, offset, a, b, ht, hu, hr, hct, hcu, hta, hua => by
    cases Token.typed_of_hasType ht with
    | fixed _ size hv =>
      cases Token.typed_of_hasType hu with
      | fixed w _ hw =>
        have hlen : v.length = w.length := hv.trans hw.symm
        have hbody := hta.word_unique hua rfl rfl (by simp [Token.body, padRight, hlen])
        rw [padRight_injective hlen hbody]
  | .bytes v, u, type, data, offset, a, b, ht, hu, hr, hct, hcu, hta, hua => by
    cases Token.typed_of_hasType ht
    cases Token.typed_of_hasType hu with
    | bytes w =>
      obtain ⟨htn, hun, htbody, hubody⟩ := hta.body_unique hua hn rfl rfl
      simp only [Token.body, padRight, List.length_append] at htn hun
      rw [blob_unique htbody hubody (by omega) (by omega) hn]
  | .string v, u, type, data, offset, a, b, ht, hu, hr, hct, hcu, hta, hua => by
    cases Token.typed_of_hasType ht
    cases Token.typed_of_hasType hu with
    | string w =>
      obtain ⟨htn, hun, htbody, hubody⟩ := hta.body_unique hua hn rfl rfl
      simp only [Token.body, padRight, List.length_append] at htn hun
      rw [utf8_injective (blob_unique htbody hubody (by omega) (by omega) hn)]
  | .array vs, u, type, data, offset, a, b, ht, hu, hr, hct, hcu, hta, hua => by
    cases Token.typed_of_hasType ht with
    | array _ item hvs =>
      cases Token.typed_of_hasType hu with
      | array ws _ hws =>
        simp only [Token.countsWithin, Bool.and_eq_true, decide_eq_true_eq] at hct hcu
        obtain ⟨hcount, data', offset', a', b', hv, hw⟩ := hta.array_unique hua hn hct.1 hcu.1
        rw [← hcount] at hws
        have hitem : item.regular = true := hr
        rw [eq_of_placed hn hvs hws (Ty.allRegular_replicate hitem _) hct.2 hcu.2 hv hw]
  | .farray vs, u, type, data, offset, a, b, ht, hu, hr, hct, hcu, hta, hua => by
    have hdynamic :=
      (Token.isDynamic_of_hasType ht hr).trans (Token.isDynamic_of_hasType hu hr).symm
    cases Token.typed_of_hasType ht with
    | farray _ item size hvs hvitems =>
      cases Token.typed_of_hasType hu with
      | farray ws _ _ hws hwitems =>
        rw [hvs] at hvitems
        rw [hws] at hwitems
        simp only [Ty.regular, Bool.and_eq_true] at hr
        obtain ⟨data', offset', a', b', hv, hw⟩ := Part.At.items_unique (.farray vs) (.farray ws)
          hta hua hn ⟨rfl, rfl⟩ ⟨rfl, rfl⟩ hdynamic
        rw [eq_of_placed hn hvitems hwitems (Ty.allRegular_replicate hr.2 _) hct hcu hv hw]
  | .tuple vs, u, type, data, offset, a, b, ht, hu, hr, hct, hcu, hta, hua => by
    have hdynamic :=
      (Token.isDynamic_of_hasType ht hr).trans (Token.isDynamic_of_hasType hu hr).symm
    cases Token.typed_of_hasType ht with
    | tuple _ types hvs =>
      cases Token.typed_of_hasType hu with
      | tuple ws _ hws =>
        obtain ⟨data', offset', a', b', hv, hw⟩ := Part.At.items_unique (.tuple vs) (.tuple ws)
          hta hua hn ⟨rfl, rfl⟩ ⟨rfl, rfl⟩ hdynamic
        rw [eq_of_placed hn hvs hws hr hct hcu hv hw]

/-- Two lists of values of the same types that stand in one place are the same. -/
theorem eq_of_placed {n : Nat} (hn : n < 2 ^ 256) :
    ∀ {ts us : List Token} {types : List Ty} {data : Bytes} {offset a b : Nat},
      Token.haveTypes ts types = true → Token.haveTypes us types = true →
      Ty.allRegular types = true → Token.allCountsWithin n ts = true →
      Token.allCountsWithin n us = true → Placed (Token.parts ts) data offset a n →
      Placed (Token.parts us) data offset b n → ts = us
  | [], us, types, data, offset, a, b, ht, hu, hr, hct, hcu, hta, hua => by
    obtain rfl : types = [] := by cases types <;> simp_all [Token.haveTypes]
    cases us <;> simp_all [Token.haveTypes]
  | t :: ts, us, types, data, offset, a, b, ht, hu, hr, hct, hcu, hta, hua => by
    obtain ⟨type, types, rfl⟩ : ∃ type rest, types = type :: rest := by
      cases types <;> simp_all [Token.haveTypes]
    obtain ⟨u, us, rfl⟩ : ∃ u rest, us = u :: rest := by cases us <;> simp_all [Token.haveTypes]
    simp only [Token.haveTypes, Ty.allRegular, Token.allCountsWithin, Bool.and_eq_true] at *
    obtain rfl : t = u := eq_of_at hn ht.1 hu.1 hr.1 hct.1 hcu.1 hta.head hua.head
    obtain ⟨a', hta'⟩ := hta.tail
    obtain ⟨b', hua'⟩ := hua.tail
    rw [eq_of_placed hn ht.2 hu.2 hr.2 hct.2 hcu.2 hta' hua']

end

/-- Values of the same types with the same encoding are the same. -/
theorem encode_injective {ts us : List Token} {types : List Ty} {n : Nat}
    (ht : Token.haveTypes ts types = true) (hu : Token.haveTypes us types = true)
    (hr : Ty.allRegular types = true) (hct : Token.allCountsWithin n ts = true)
    (hcu : Token.allCountsWithin n us = true) (hlen : (encode ts).length ≤ n) (hn : n < 2 ^ 256)
    (h : encode ts = encode us) : ts = us := by
  have hts : Bytes.Holds (encode ts ++ []) 0 (layout (Token.parts ts)) := .start _ []
  have hus : Bytes.Holds (encode ts ++ []) 0 (layout (Token.parts us)) := by
    rw [h]
    exact .start _ []
  exact eq_of_placed hn ht hu hr hct hcu (.of_layout hts hlen) (.of_layout hus (by rwa [h] at hlen))

end Abi

end AbiBindings
