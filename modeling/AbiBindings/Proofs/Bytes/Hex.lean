import AbiBindings.Bytes.Hex
import AbiBindings.Proofs.Text.Lower

/-!
# Reading hexadecimal digits

A text is read as bytes exactly if it is what is written for these bytes, up to the case of the
letters.

* `utf8_eq`: the bytes of a text, character by character.

Results:
* `digitValue?_eq_some_iff`: the value of a digit, by the digit that is written for it.
* `decode_eq_ok_iff`: the texts that are read, and what as.
-/

namespace AbiBindings

open Text (IsPlain lowerAscii hexDigit)

/-- The bytes of a text are those of its characters in order. -/
theorem utf8_eq (s : String) : utf8 s = s.toList.flatMap String.utf8EncodeChar := by
  have h : s.toByteArray = s.toList.utf8Encode := by
    rw [← String.toByteArray_ofList, String.ofList_toList]
  rw [utf8, h, List.utf8Encode, List.toList_data_toByteArray]

namespace Hex

variable {cs : List Char} {c : Char} {b : Bytes} {n position : Nat}

/-- The byte of a character below 128. -/
def byteOf (c : Char) : UInt8 := UInt8.ofNat c.toNat

theorem utf8EncodeChar_of_lt (h : c.toNat < 0x80) : String.utf8EncodeChar c = [byteOf c] := by
  have hle : c.val.toNat ≤ 127 := by
    have : c.val.toNat = c.toNat := rfl
    omega
  rw [String.utf8EncodeChar, if_pos hle]
  rfl

theorem utf8_of_isPlain {s : String} (h : IsPlain s.toList) : utf8 s = s.toList.map byteOf := by
  rw [utf8_eq]
  generalize s.toList = cs at h
  induction cs with
  | nil => rfl
  | cons c rest ih =>
    obtain ⟨hc, hrest⟩ := List.forall_mem_cons.mp h
    rw [List.flatMap_cons, utf8EncodeChar_of_lt hc, ih hrest]
    rfl

/-- A character beyond ASCII has a byte beyond ASCII. -/
theorem exists_byte_of_le (h : 0x80 ≤ c.toNat) : ∃ x ∈ String.utf8EncodeChar c, 0x80 ≤ x.toNat := by
  have hval : c.val.toNat = c.toNat := rfl
  have hlast : 0x80 ≤ (UInt8.ofNat (c.val.toNat % 64 + 128)).toNat := by
    rw [UInt8.toNat_ofNat']
    omega
  have hne : ¬ c.val.toNat ≤ 127 := by omega
  rw [String.utf8EncodeChar, if_neg hne]
  split_ifs <;> exact ⟨_, by simp, hlast⟩

theorem isPlain_of_utf8 {s : String} (h : ∀ x ∈ utf8 s, x.toNat < 0x80) : IsPlain s.toList := by
  intro c hc
  by_contra hbeyond
  obtain ⟨x, hx, hle⟩ := exists_byte_of_le (Nat.le_of_not_lt hbeyond)
  have hmem : x ∈ utf8 s := by
    rw [utf8_eq]
    exact List.mem_flatMap.mpr ⟨c, hc, hx⟩
  exact absurd (h x hmem) (by omega)

/-! ## Digits -/

theorem lt_of_digitValue? {x : UInt8} (h : digitValue? x = some n) : n < 16 ∧ x.toNat < 0x80 := by
  unfold digitValue? at h
  simp only at h
  split_ifs at h with h1 h2 h3 <;> cases h <;> omega

/-- A character is a digit of a value if its lower case is the digit that is written for it. -/
theorem digitValue?_eq_some_iff (hc : c.toNat < 0x80) (hn : n < 16) :
    digitValue? (byteOf c) = some n ↔ lowerAscii c = hexDigit n := by
  have h : ∀ m < 0x80, ∀ n < 16,
      digitValue? (byteOf (Char.ofNat m)) = some n ↔ lowerAscii (Char.ofNat m) = hexDigit n := by
    decide +kernel
  exact Text.of_toNat_lt (p := fun c => digitValue? (byteOf c) = some n ↔ lowerAscii c = hexDigit n)
    (fun m hm => h m hm n hn) hc

theorem digits_cons (y : UInt8) (rest : Bytes) :
    digits (y :: rest) = hexDigit (y.toNat / 16) :: hexDigit (y.toNat % 16) :: digits rest := rfl

theorem length_digits (b : Bytes) : (digits b).length = 2 * b.length := by
  induction b with
  | nil => rfl
  | cons y rest ih =>
    rw [digits_cons, List.length_cons, List.length_cons, List.length_cons, ih]
    omega

theorem decodePairs_cons_cons {x y : UInt8} {rest : Bytes} :
    decodePairs position (x :: y :: rest) = .ok b ↔
      ∃ high low out, digitValue? x = some high ∧ digitValue? y = some low ∧
        decodePairs (position + 2) rest = .ok out ∧ b = UInt8.ofNat (16 * high + low) :: out := by
  rw [decodePairs]
  cases digitValue? x with
  | none => simp
  | some high =>
    cases digitValue? y with
    | none => simp
    | some low => cases decodePairs (position + 2) rest <;> simp [eq_comm]

/-- Pairs of digits are read as the bytes that they are written for. -/
theorem decodePairs_eq_ok_iff : ∀ (cs : List Char), IsPlain cs → ∀ (position : Nat) (b : Bytes),
    decodePairs position (cs.map byteOf) = .ok b ↔ cs.map lowerAscii = digits b
  | [], _, position, b => by
    cases b with
    | nil => simp [decodePairs, digits]
    | cons y rest => simp [decodePairs, digits_cons]
  | [c], _, position, b => by
    cases b with
    | nil => simp [decodePairs, digits]
    | cons y rest => simp [decodePairs, digits_cons]
  | c :: d :: cs, h, position, b => by
    obtain ⟨hc, h⟩ := List.forall_mem_cons.mp h
    obtain ⟨hd, hcs⟩ := List.forall_mem_cons.mp h
    have ih := decodePairs_eq_ok_iff cs hcs (position + 2)
    simp only [List.map_cons]
    rw [decodePairs_cons_cons]
    constructor
    · rintro ⟨high, low, out, hhigh, hlow, hout, rfl⟩
      have hlt := (lt_of_digitValue? hhigh).1
      have hlt' := (lt_of_digitValue? hlow).1
      have hbyte : (UInt8.ofNat (16 * high + low)).toNat = 16 * high + low := by
        rw [UInt8.toNat_ofNat', Nat.mod_eq_of_lt (by omega)]
      have hdiv : (16 * high + low) / 16 = high := by omega
      have hmod : (16 * high + low) % 16 = low := by omega
      rw [digits_cons, hbyte, hdiv, hmod, ← (ih out).mp hout,
        (digitValue?_eq_some_iff hc hlt).mp hhigh, (digitValue?_eq_some_iff hd hlt').mp hlow]
    · intro heq
      cases b with
      | nil => cases heq
      | cons y out =>
        rw [digits_cons, List.cons.injEq, List.cons.injEq] at heq
        obtain ⟨hhigh, hlow, hout⟩ := heq
        have hy := y.toNat_lt
        refine ⟨y.toNat / 16, y.toNat % 16, out, (digitValue?_eq_some_iff hc (by omega)).mpr hhigh,
          (digitValue?_eq_some_iff hd (by omega)).mpr hlow, (ih out).mpr hout, ?_⟩
        rw [Nat.div_add_mod, UInt8.ofNat_toNat]

/-- What is read as bytes are digits. -/
theorem lt_of_decodePairs {bytes : Bytes} (h : decodePairs position bytes = .ok b) :
    ∀ x ∈ bytes, x.toNat < 0x80 := by
  fun_induction decodePairs position bytes generalizing b with
  | case1 => simp
  | case2 => cases h
  | case3 => cases h
  | case4 => cases h
  | case5 position x y rest high hhigh low hlow out hout ih =>
    refine List.forall_mem_cons.mpr ⟨(lt_of_digitValue? hhigh).2, ?_⟩
    exact List.forall_mem_cons.mpr ⟨(lt_of_digitValue? hlow).2, ih hout⟩
  | case6 => cases h

theorem mem_digits {x : Char} (h : x ∈ digits b) : ∃ n < 16, x = hexDigit n := by
  obtain ⟨y, -, hx⟩ := List.mem_flatMap.mp h
  have hy := y.toNat_lt
  rcases List.mem_cons.mp hx with rfl | hx
  · exact ⟨_, by omega, rfl⟩
  · exact ⟨_, by omega, List.mem_singleton.mp hx⟩

/-- The characters of a text of digits, in either case. -/
theorem digit_of_mem (heq : cs.map lowerAscii = digits b) (hc : c ∈ cs) :
    c.toNat < 0x80 ∧ ∃ n < 16, lowerAscii c = hexDigit n := by
  obtain ⟨n, hn, hdigit⟩ := mem_digits (heq ▸ List.mem_map_of_mem hc)
  refine ⟨?_, n, hn, hdigit⟩
  by_contra hbeyond
  have hle := Nat.le_of_not_lt hbeyond
  rw [Text.lowerAscii_of_le hle] at hdigit
  have hascii : ∀ n < 16, (hexDigit n).toNat < 0x80 := by decide
  exact hbeyond (hdigit ▸ hascii n hn)

/-- A text is read as the bytes for which it is written, if the case of its letters is left
aside. -/
theorem decode_eq_ok_iff {s : String} :
    decode s = .ok b ↔ s.toList.map lowerAscii = digits b := by
  have hplain (h : IsPlain s.toList) :
      decode s = .ok b ↔ s.toList.map lowerAscii = digits b := by
    rw [decode, decodeBytes, utf8_of_isPlain h, List.length_map]
    split_ifs with hodd
    · refine iff_of_false (by simp) fun heq => ?_
      have hlength := congrArg List.length heq
      rw [List.length_map, length_digits] at hlength
      omega
    · exact decodePairs_eq_ok_iff _ h 0 b
  constructor
  · intro h
    refine (hplain (isPlain_of_utf8 ?_)).mp h
    rw [decode, decodeBytes] at h
    split_ifs at h
    exact lt_of_decodePairs h
  · intro heq
    exact (hplain fun c hc => (digit_of_mem heq hc).1).mpr heq

end Hex

end AbiBindings
