import AbiBindings.Abi.Decode
import AbiBindings.Abi.Encode
import Mathlib.Tactic.Ring

/-!
# Words in byte strings

Numbers written in a given count of bytes and read back, and the pieces that a byte string holds at
an offset.

Results:
* `Bytes.toNat_natBytes`: `k` bytes keep a number modulo `256 ^ k`; `Word.ofBytes_bytes`: 32 of them
  keep a word.
* `utf8Lossy_utf8`: the bytes of a text are read as this text.
* `Bytes.Holds.slice?`: a piece is found where it is held.
* `Abi.sizeOfWord?_sizeWord`: a size is read back if it is below `2 ^ 32`, and not at all otherwise.
-/

namespace AbiBindings

/-! ## Numbers as bytes -/

theorem Bytes.foldl_eq (n : Nat) (b : Bytes) :
    b.foldl (fun n x => 256 * n + x.toNat) n = n * 256 ^ b.length + Bytes.toNat b := by
  induction b generalizing n with
  | nil => simp [Bytes.toNat]
  | cons x b ih =>
    rw [Bytes.toNat, List.foldl_cons, List.foldl_cons, ih, ih (256 * 0 + x.toNat),
      List.length_cons, pow_succ]
    ring

theorem Bytes.toNat_append (a b : Bytes) :
    Bytes.toNat (a ++ b) = Bytes.toNat a * 256 ^ b.length + Bytes.toNat b := by
  rw [Bytes.toNat, List.foldl_append, Bytes.foldl_eq]
  rfl

theorem Bytes.toNat_natBytes (k n : Nat) : Bytes.toNat (natBytes k n) = n % 256 ^ k := by
  induction k generalizing n with
  | zero => simp [natBytes, Bytes.toNat, Nat.mod_one]
  | succ k ih =>
    have hlow : Bytes.toNat [UInt8.ofNat n] = n % 256 := by simp [Bytes.toNat]
    rw [natBytes, Bytes.toNat_append, ih, hlow, List.length_singleton, pow_one, pow_succ',
      Nat.mod_mul]
    ring

@[simp] theorem Word.length_bytes (w : Word) : w.bytes.length = 32 := length_natBytes 32 _

/-- A word is kept by its bytes. -/
@[simp] theorem Word.ofBytes_bytes (w : Word) : Word.ofBytes w.bytes = w := by
  rw [Word.ofBytes, Word.bytes, Bytes.toNat_natBytes]
  apply BitVec.eq_of_toNat_eq
  have hw := w.isLt
  rw [BitVec.toNat_ofNat, Nat.mod_eq_of_lt (by omega), Nat.mod_eq_of_lt (by omega)]

@[simp] theorem length_zeros (k : Nat) : (zeros k).length = k := List.length_replicate

@[simp] theorem exactly?_toList (v : Vector UInt8 n) : exactly? n v.toList = some v := by
  simp [exactly?, Vector.toList]

/-- The bytes of a text are read as this text. -/
@[simp] theorem utf8Lossy_utf8 (s : String) : utf8Lossy (utf8 s) = s := by
  have h : utf8? (utf8 s) = some s := by
    simp only [utf8?, utf8, String.fromUTF8?, Array.toArray_toList]
    exact dif_pos s.isValidUTF8
  rw [utf8Lossy, h]

/-! ## Pieces of a byte string -/

/-- Whether a piece stands at an offset of a byte string. -/
def Bytes.Holds (data : Bytes) (offset : Nat) (piece : Bytes) : Prop :=
  ∃ before after, before.length = offset ∧ data = before ++ (piece ++ after)

namespace Bytes.Holds

variable {data a b : Bytes} {offset : Nat}

theorem start (a after : Bytes) : Bytes.Holds (a ++ after) 0 a := ⟨[], after, rfl, rfl⟩

theorem left (h : Bytes.Holds data offset (a ++ b)) : Bytes.Holds data offset a := by
  obtain ⟨before, after, hlen, rfl⟩ := h
  exact ⟨before, b ++ after, hlen, by simp⟩

theorem right (h : Bytes.Holds data offset (a ++ b)) : Bytes.Holds data (offset + a.length) b := by
  obtain ⟨before, after, rfl, rfl⟩ := h
  exact ⟨before ++ a, after, by simp, by simp⟩

theorem le_length (h : Bytes.Holds data offset a) : offset + a.length ≤ data.length := by
  obtain ⟨before, after, rfl, rfl⟩ := h
  simp

/-- What is held stays where it is, seen from an earlier offset. -/
theorem drop {start : Nat} (h : Bytes.Holds data (start + offset) a) :
    Bytes.Holds (data.drop start) offset a := by
  obtain ⟨before, after, hlen, rfl⟩ := h
  refine ⟨before.drop start, after, by simp [hlen], ?_⟩
  rw [List.drop_append_of_le_length (by omega)]

theorem slice? (h : Bytes.Holds data offset a) : Abi.slice? data offset a.length = some a := by
  obtain ⟨before, after, rfl, rfl⟩ := h
  simp [Abi.slice?]

end Bytes.Holds

namespace Abi

/-! ## Offsets and lengths -/

@[simp] theorem length_sizeWord (n : Nat) : (sizeWord n).length = 32 := length_natBytes 32 n

theorem toNat_sizeWord {n : Nat} (hn : n < 2 ^ 256) : Bytes.toNat (sizeWord n) = n := by
  rw [sizeWord, Bytes.toNat_natBytes, Nat.mod_eq_of_lt (by omega)]

theorem sizeOfWord?_sizeWord {n : Nat} (hn : n < 2 ^ 256) :
    sizeOfWord? (sizeWord n) = if n < 2 ^ 32 then some n else none := by
  rw [sizeOfWord?, toNat_sizeWord hn]
  rfl

theorem boolOfWord?_sizeWord (b : Bool) :
    boolOfWord? (sizeWord (if b then 1 else 0)) = some b := by
  cases b <;> simp [boolOfWord?, toNat_sizeWord]

end Abi

end AbiBindings
