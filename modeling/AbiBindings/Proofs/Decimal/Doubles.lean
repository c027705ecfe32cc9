import AbiBindings.Json.Number
import Mathlib

/-!
# Sizes of double-precision numbers

Upper bounds of what multiplication, division and conversion make of double-precision numbers. Every
bound allows for the last digit to be rounded up; a product or quotient whose exact value stays
below the largest double-precision number by one such digit is finite.

* `AtMost`: the numbers that are finite and have at most some size.
* `Rounded`: what rounding makes of a finite number.

Results:
* `unpack_pack_normal`: packing keeps a normal number.
* `exists_rounded`, `atMost_round`: what rounding adds.
* `isFinite_mul`: a product below the largest number is finite.
* `atMost_div`, `atMost_toFloat`: the sizes of quotients and integers.
-/

namespace AbiBindings.Decimal

open Float.Model hiding pack unpack
open Float.Model.UnpackedFloat

/-- The largest double-precision number. -/
def largest : ℚ := (2 ^ 53 - 1) * 2 ^ (971 : Int)

theorem largest_lt : largest < 2 ^ ((1023 : Int) + 1) := by
  have hpow : (2 : ℚ) ^ ((1023 : Int) + 1) = 2 ^ 53 * 2 ^ (971 : Int) := by
    rw [← zpow_natCast, ← zpow_add₀ (by norm_num)]
    norm_num
  rw [hpow, largest]
  exact mul_lt_mul_of_pos_right (by norm_num) (by positivity)

theorem pow_lt_largest {N : Int} (hN : N ≤ 1023) : (2 : ℚ) ^ N < largest :=
  calc (2 : ℚ) ^ N ≤ 2 ^ ((52 : Int) + 971) := zpow_le_zpow_right₀ (by norm_num) (by omega)
    _ = 2 ^ (52 : Int) * 2 ^ (971 : Int) := zpow_add₀ (by norm_num) _ _
    _ < largest := mul_lt_mul_of_pos_right (by norm_num) (by positivity)

/-- Whether a number is finite and has at most some size. -/
def AtMost : UnpackedFloat → ℚ → Prop
  | .zero _, q => 0 ≤ q
  | .finite _ m e _, q => (m : ℚ) * 2 ^ e ≤ q
  | _, _ => False

theorem AtMost.mono {f : UnpackedFloat} {p q : ℚ} (h : AtMost f p) (hpq : p ≤ q) : AtMost f q := by
  cases f with
  | zero s => exact le_trans (show (0 : ℚ) ≤ p from h) hpq
  | finite s m e hm => exact le_trans (show (m : ℚ) * 2 ^ e ≤ p from h) hpq
  | infinity s => exact h
  | notANumber => exact h

/-! ## The format -/

theorem targetExponent_eq (e : Int) : Format.binary64.targetExponent e = max (e - 53) (-1074) := rfl

theorem pack_finite (s : Sign) (m : Nat) (e : Int) (hm : 0 < m) :
    pack Format.binary64 (.finite s m e hm) =
      if 2 ^ 11 ≤ (e + 1023 + 52).toNat + 1 then packedInfinity Format.binary64 s
      else if m.log2 + 1 = 53 then
        packComponents Format.binary64 s (BitVec.ofNat 11 (e + 1023 + 52).toNat) (BitVec.ofNat 52 m)
      else packComponents Format.binary64 s 0#11 (BitVec.ofNat 52 m) := rfl

theorem toNat_normal (v : BitVec 52) : (1#1 ++ v).toNat = 2 ^ 52 + v.toNat := by
  rw [BitVec.toNat_append, ← Nat.shiftLeft_add_eq_or_of_lt (BitVec.isLt _), Nat.shiftLeft_eq]
  simp

theorem finite_congr {s : Sign} {m m' : Nat} {e e' : Int} (hm : 0 < m) (hmantissa : m = m')
    (hexponent : e = e') : finite s m e hm = finite s m' e' (hmantissa ▸ hm) := by
  subst hmantissa hexponent
  rfl

/-- The four forms that a packed number can have: special, zero, subnormal and normal. -/
theorem unpack_cases (b : BitVec Format.binary64.numBits) :
    (unpackExponent b = -1#11 ∧ (unpack Format.binary64 b).isFinite = false) ∨
    (unpackExponent b = 0#11 ∧ ∃ s, unpack Format.binary64 b = .zero s) ∨
    (unpackExponent b = 0#11 ∧ ∃ s hm, unpack Format.binary64 b =
      .finite s (unpackMantissa b).toNat (-1074) hm) ∨
    (unpackExponent b ≠ -1#11 ∧ unpackExponent b ≠ 0#11 ∧ ∃ s hm, unpack Format.binary64 b =
      .finite s (2 ^ 52 + (unpackMantissa b).toNat) ((unpackExponent b).toNat - 1075) hm) := by
  delta unpack
  dsimp only
  split_ifs with hones _ hzero hm
  · exact .inl ⟨hones, rfl⟩
  · exact .inl ⟨hones, rfl⟩
  · exact .inr (.inl ⟨hzero, _, rfl⟩)
  · have hpos : 0 < (unpackMantissa b).toNat :=
      Nat.pos_of_ne_zero fun h => hm (BitVec.eq_of_toNat_eq h)
    rw [hzero]
    exact .inr (.inr (.inl ⟨rfl, _, hpos, rfl⟩))
  · exact .inr (.inr (.inr ⟨hones, hzero, _, by omega, finite_congr _ (toNat_normal _) rfl⟩))

/-! ## Shifting and rounding -/

theorem shiftRight_mantissa (em : ExtendedMantissa) (k : Nat) :
    (em >>> k).mantissa = em.mantissa / 2 ^ k := by
  induction k with
  | zero => simp [HShiftRight.hShiftRight, Nat.repeat]
  | succ k ih =>
    have hstep : (em >>> (k + 1)).mantissa = (em >>> k).mantissa / 2 := rfl
    rw [hstep, ih, Nat.div_div_eq_div_mul, Nat.pow_succ]

theorem roundedMantissa_le (em : ExtendedMantissa) : em.roundedMantissa ≤ em.mantissa + 1 := by
  obtain ⟨m, r, s⟩ := em
  cases r <;> cases s <;>
    simp [ExtendedMantissa.roundedMantissa, ExtendedMantissa.accuracy, Accuracy.roundToNearestEven]
  omega

theorem le_roundedMantissa (em : ExtendedMantissa) : em.mantissa ≤ em.roundedMantissa := by
  obtain ⟨m, r, s⟩ := em
  cases r <;> cases s <;>
    simp [ExtendedMantissa.roundedMantissa, ExtendedMantissa.accuracy, Accuracy.roundToNearestEven]

section Shift

variable (m : Nat) (e : Int) (a : Accuracy)

theorem shift_exponent :
    (shiftToTargetExponent Format.binary64 m e a).2 =
      max e (max ((m.log2 : Int) + e - 52) (-1074)) := by
  simp only [shiftToTargetExponent, shiftToExponent, targetExponent_eq, totalExponent]
  omega

theorem shift_mantissa :
    (shiftToTargetExponent Format.binary64 m e a).1.mantissa =
      m / 2 ^ ((shiftToTargetExponent Format.binary64 m e a).2 - e).toNat := by
  have hstart : (ExtendedMantissa.ofMantissaAndAccuracy m a).mantissa = m := by
    cases a with
    | exact => rfl
    | inexact o => cases o <;> rfl
  simp only [shiftToTargetExponent, shiftToExponent, shiftRight_mantissa, hstart]
  congr 2
  omega

theorem shift_mantissa_lt : (shiftToTargetExponent Format.binary64 m e a).1.mantissa < 2 ^ 53 := by
  have hexponent := shift_exponent m e a
  rw [shift_mantissa, Nat.div_lt_iff_lt_mul (by positivity), ← Nat.pow_add]
  have hlog : m < 2 ^ (m.log2 + 1) := Nat.lt_log2_self
  exact lt_of_lt_of_le hlog (Nat.pow_le_pow_right (by decide) (by omega))

/-- Shifting keeps 53 digits if there are so many. -/
theorem shift_normal (hm : 52 ≤ m.log2) (hlow : -1074 ≤ (m.log2 : Int) + e - 52) :
    2 ^ 52 ≤ (shiftToTargetExponent Format.binary64 m e a).1.mantissa ∧
      (shiftToTargetExponent Format.binary64 m e a).2 = (m.log2 : Int) + e - 52 := by
  have hexponent : (shiftToTargetExponent Format.binary64 m e a).2 = (m.log2 : Int) + e - 52 := by
    rw [shift_exponent]
    omega
  refine ⟨?_, hexponent⟩
  have hpos : m ≠ 0 := by
    rintro rfl
    simp at hm
  have hpow : 2 ^ 52 * 2 ^ (m.log2 - 52) ≤ m := by
    rw [← Nat.pow_add, Nat.add_sub_cancel' hm]
    exact Nat.log2_self_le hpos
  rw [shift_mantissa, hexponent, show ((m.log2 : Int) + e - 52 - e).toNat = m.log2 - 52 by omega]
  exact (Nat.le_div_iff_mul_le (by positivity)).mpr hpow

/-- Shifting only drops digits. -/
theorem shift_value_le :
    ((shiftToTargetExponent Format.binary64 m e a).1.mantissa : ℚ) *
      2 ^ (shiftToTargetExponent Format.binary64 m e a).2 ≤ m * 2 ^ e := by
  have hexponent := shift_exponent m e a
  have hmantissa := shift_mantissa m e a
  generalize shiftToTargetExponent Format.binary64 m e a = shifted at *
  obtain ⟨em, e'⟩ := shifted
  obtain ⟨k, rfl⟩ : ∃ k : Nat, e' = e + k := ⟨(e' - e).toNat, by omega⟩
  have hfloor : em.mantissa * 2 ^ k ≤ m := by
    rw [hmantissa, show (e + (k : Int) - e).toNat = k by omega]
    exact Nat.div_mul_le_self m (2 ^ k)
  have hfloor' : (em.mantissa : ℚ) * 2 ^ k ≤ m := by exact_mod_cast hfloor
  calc (em.mantissa : ℚ) * 2 ^ (e + (k : Int)) = em.mantissa * 2 ^ k * 2 ^ e := by
        rw [zpow_add₀ (by norm_num), zpow_natCast]
        ring
    _ ≤ m * 2 ^ e := by gcongr

end Shift

/-! ## Packing -/

theorem atMost_zero (s : Sign) {q : ℚ} (h : 0 ≤ q) :
    AtMost (unpack Format.binary64 (UnpackedFloat.pack Format.binary64 (.zero s))) q := by
  cases s <;> exact h

/-- Packing keeps a normal number. -/
theorem unpack_pack_normal {s : Sign} {m : Nat} {e : Int} (hm : 0 < m) (hbits : 2 ^ 52 ≤ m)
    (hlt : m < 2 ^ 53) (hlow : -1074 ≤ e) (hhigh : e ≤ 971) :
    ∃ s', unpack Format.binary64 (pack Format.binary64 (.finite s m e hm)) =
      .finite s' m e hm := by
  obtain ⟨k, hk⟩ : ∃ k : Nat, e = k - 1075 := ⟨(e + 1075).toNat, by omega⟩
  have hbiased : (e + 1023 + 52).toNat = k := by omega
  have hnormal : m.log2 + 1 = 53 :=
    congrArg (· + 1) ((Nat.log2_eq_iff hm.ne').mpr ⟨hbits, hlt⟩)
  have hexponent : (BitVec.ofNat 11 k).toNat = k := by
    rw [BitVec.toNat_ofNat]
    omega
  have hmantissa : (BitVec.ofNat 52 m).toNat = m - 2 ^ 52 := by
    rw [BitVec.toNat_ofNat]
    omega
  rw [pack_finite, hbiased, if_neg (by omega), if_pos hnormal]
  obtain ⟨hones, -⟩ | ⟨hzero, -⟩ | ⟨hzero, -⟩ | ⟨-, -, s', hm', hunpack⟩ := unpack_cases
    (packComponents Format.binary64 s (BitVec.ofNat 11 k) (BitVec.ofNat 52 m))
  · have hnat := congrArg BitVec.toNat hones
    rw [unpackExponent_packComponents, hexponent, show (-1#11).toNat = 2047 by decide] at hnat
    omega
  · have hnat := congrArg BitVec.toNat hzero
    rw [unpackExponent_packComponents, hexponent, show (0#11).toNat = 0 by decide] at hnat
    omega
  · have hnat := congrArg BitVec.toNat hzero
    rw [unpackExponent_packComponents, hexponent, show (0#11).toNat = 0 by decide] at hnat
    omega
  · refine ⟨s', hunpack.trans (finite_congr hm' ?_ ?_)⟩
    · rw [unpackMantissa_packComponents, hmantissa]
      omega
    · rw [unpackExponent_packComponents, hexponent]
      exact hk.symm

/-- Packing keeps the size of a normal number and may only lower that of another. -/
theorem atMost_pack {s : Sign} {m : Nat} {e : Int} (hm : 0 < m) (hlt : m < 2 ^ 53)
    (hlow : -1074 ≤ e) (hhigh : e ≤ 971) :
    AtMost (unpack Format.binary64 (pack Format.binary64 (.finite s m e hm))) (m * 2 ^ e) := by
  rcases Nat.lt_or_ge m (2 ^ 52) with hsmall | hbits
  · have hbiased : ¬ 2 ^ 11 ≤ (e + 1023 + 52).toNat + 1 := by omega
    have hnormal : ¬ m.log2 + 1 = 53 := by
      have hlog := (Nat.log2_lt hm.ne').mpr hsmall
      omega
    have hmantissa : (BitVec.ofNat 52 m).toNat = m := by
      rw [BitVec.toNat_ofNat]
      omega
    have hpow : (2 : ℚ) ^ (-1074 : Int) ≤ 2 ^ e := zpow_le_zpow_right₀ (by norm_num) hlow
    rw [pack_finite, if_neg hbiased, if_neg hnormal]
    obtain ⟨hones, -⟩ | ⟨-, s', hunpack⟩ | ⟨-, s', hm', hunpack⟩ | ⟨-, hzero, -⟩ := unpack_cases
      (packComponents Format.binary64 s 0#11 (BitVec.ofNat 52 m))
    · rw [unpackExponent_packComponents] at hones
      exact absurd hones (by decide)
    · rw [hunpack]
      show (0 : ℚ) ≤ m * 2 ^ e
      positivity
    · rw [hunpack]
      show ((unpackMantissa _).toNat : ℚ) * 2 ^ (-1074 : Int) ≤ m * 2 ^ e
      rw [unpackMantissa_packComponents, hmantissa]
      gcongr
    · exact absurd unpackExponent_packComponents hzero
  · obtain ⟨s', hsame⟩ := unpack_pack_normal (s := s) hm hbits hlt hlow hhigh
    rw [hsame]
    exact le_refl ((m : ℚ) * 2 ^ e)

/-- What rounding makes of a finite number below the largest one: 53 digits at most, which add at
most the unit `2 ^ u` of the last one, and are 53 if the number has so many. -/
structure Rounded (m : Nat) (e u : Int) (m' : Nat) (e' : Int) : Prop where
  lt : m' < 2 ^ 53
  low : -1074 ≤ e'
  high : e' ≤ 971
  le : (m' : ℚ) * 2 ^ e' ≤ m * 2 ^ e + 2 ^ u
  normal : 52 ≤ m.log2 → -1074 ≤ (m.log2 : Int) + e - 52 →
    2 ^ 52 ≤ m' ∧ (m.log2 : Int) + e - 52 ≤ e'

/-- A digit that is rounded up may carry into one more digit, but not at the largest exponent. -/
theorem log2_carry_le {m r : Nat} {e : Int} (hm : m < 2 ^ 53) (hr : r ≤ m + 1) (he : e ≤ 971)
    (hlt : (m : ℚ) * 2 ^ e < largest) : (r.log2 : Int) + e ≤ 1023 := by
  rcases Nat.lt_or_ge r (2 ^ 53) with hsmall | hlarge
  · have hlog : r.log2 < 53 := by
      rcases Nat.eq_zero_or_pos r with rfl | hpos
      exacts [by decide, (Nat.log2_lt hpos.ne').mpr hsmall]
    omega
  · obtain rfl : r = 2 ^ 53 := by omega
    have hfull : (m : ℚ) = 2 ^ 53 - 1 := by
      rw [show m = 2 ^ 53 - 1 by omega]
      norm_num
    have hbelow : e < 971 := by
      by_contra hmax
      have hpow : (2 : ℚ) ^ (971 : Int) ≤ 2 ^ e :=
        zpow_le_zpow_right₀ (by norm_num) (not_lt.mp hmax)
      have hle : largest ≤ m * 2 ^ e := by
        rw [hfull]
        exact mul_le_mul_of_nonneg_left hpow (by norm_num)
      exact absurd hlt (not_lt.mpr hle)
    have hlog : (2 ^ 53).log2 = 53 := Nat.log2_two_pow
    omega

/-- A digit that is rounded up adds at most its unit. -/
theorem carry_value_le {m r : Nat} {e u : Int} (hr : r ≤ m + 1) (he : e ≤ u) :
    (r : ℚ) * 2 ^ e ≤ m * 2 ^ e + 2 ^ u := by
  have hup : (r : ℚ) ≤ m + 1 := by exact_mod_cast hr
  have hulp : (2 : ℚ) ^ e ≤ 2 ^ u := zpow_le_zpow_right₀ (by norm_num) he
  calc (r : ℚ) * 2 ^ e ≤ (m + 1) * 2 ^ e := by gcongr
    _ = m * 2 ^ e + 2 ^ e := by ring
    _ ≤ m * 2 ^ e + 2 ^ u := by gcongr

theorem exists_rounded (s : Sign) {m : Nat} {e : Int} (a : Accuracy) {u : Int} (he : e ≤ u)
    (hlog : (m.log2 : Int) + e ≤ u + 52) (hlow : -1074 ≤ u) (hhigh : u ≤ 971)
    (hlt : (m : ℚ) * 2 ^ e < largest) :
    ∃ m' e', Rounded m e u m' e' ∧ roundWithAccuracy Format.binary64 s m e a =
      if h : m' = 0 then .zero s else .finite s m' e' (Nat.pos_of_ne_zero h) := by
  have hexponent := shift_exponent m e a
  have hvalue := shift_value_le m e a
  have hfloor := shift_mantissa_lt m e a
  have hnormal := fun h₁ h₂ => shift_normal m e a h₁ h₂
  simp only [roundWithAccuracy]
  generalize shiftToTargetExponent Format.binary64 m e a = first at *
  obtain ⟨em, e₁⟩ := first
  dsimp only at *
  have hrounded := roundedMantissa_le em
  have hrounded' := le_roundedMantissa em
  generalize em.roundedMantissa = r at *
  have hulp : e₁ ≤ u := by omega
  have hcarry : (r.log2 : Int) + e₁ ≤ 1023 :=
    log2_carry_le hfloor hrounded (by omega) (hvalue.trans_lt hlt)
  have hexponent₂ := shift_exponent r e₁ .exact
  have hvalue₂ := shift_value_le r e₁ .exact
  have hlt₂ := shift_mantissa_lt r e₁ .exact
  have hnormal₂ := fun h₁ h₂ => shift_normal r e₁ .exact h₁ h₂
  generalize shiftToTargetExponent Format.binary64 r e₁ .exact = last at *
  obtain ⟨em₂, e₂⟩ := last
  dsimp only at *
  have hbound : (r : ℚ) * 2 ^ e₁ ≤ m * 2 ^ e + 2 ^ u :=
    (carry_value_le hrounded hulp).trans (by gcongr)
  refine
    ⟨em₂.mantissa, e₂, ⟨hlt₂, by omega, by omega, hvalue₂.trans hbound, fun hm hlow' => ?_⟩, rfl⟩
  obtain ⟨hfirst, he₁⟩ := hnormal hm hlow'
  have hr : 52 ≤ r.log2 := (Nat.le_log2 (by omega)).mpr (hfirst.trans hrounded')
  obtain ⟨hlast, -⟩ := hnormal₂ hr (by omega)
  exact ⟨hlast, by omega⟩

/-- Rounding a number below the largest one adds at most the unit of the last digit. -/
theorem atMost_round (s : Sign) {m : Nat} {e : Int} (a : Accuracy) {u : Int} (he : e ≤ u)
    (hlog : (m.log2 : Int) + e ≤ u + 52) (hlow : -1074 ≤ u) (hhigh : u ≤ 971)
    (hlt : (m : ℚ) * 2 ^ e < largest) :
    AtMost (unpack Format.binary64 (pack Format.binary64
      (roundWithAccuracy Format.binary64 s m e a))) (m * 2 ^ e + 2 ^ u) := by
  obtain ⟨m', e', hrounded, hround⟩ := exists_rounded s a he hlog hlow hhigh hlt
  rw [hround]
  split_ifs with hzero
  · exact atMost_zero s (by positivity)
  · exact (atMost_pack (Nat.pos_of_ne_zero hzero) hrounded.lt hrounded.low hrounded.high).mono
      hrounded.le

/-! ## Arithmetic -/

theorem log2_le_of_lt {m : Nat} (hm : 0 < m) {e N : Int} (h : (m : ℚ) * 2 ^ e < 2 ^ (N + 1)) :
    (m.log2 : Int) + e ≤ N := by
  have hlog : (2 : ℚ) ^ m.log2 ≤ m := by exact_mod_cast Nat.log2_self_le hm.ne'
  have hpow : (2 : ℚ) ^ ((m.log2 : Int) + e) < 2 ^ (N + 1) :=
    calc (2 : ℚ) ^ ((m.log2 : Int) + e) = 2 ^ m.log2 * 2 ^ e := by
          rw [zpow_add₀ (by norm_num), zpow_natCast]
      _ ≤ m * 2 ^ e := by gcongr
      _ < 2 ^ (N + 1) := h
  have hexponents := (zpow_lt_zpow_iff_right₀ (by norm_num)).mp hpow
  omega

theorem log2_nonneg_of_le {m : Nat} {e : Int} (h : 1 ≤ (m : ℚ) * 2 ^ e) :
    0 ≤ (m.log2 : Int) + e := by
  have hlog : (m : ℚ) < 2 ^ (m.log2 + 1) := by exact_mod_cast Nat.lt_log2_self
  have hpow : (2 : ℚ) ^ (0 : Int) < 2 ^ (((m.log2 + 1 : Nat) : Int) + e) :=
    calc (2 : ℚ) ^ (0 : Int) ≤ m * 2 ^ e := by simpa using h
      _ < 2 ^ (m.log2 + 1) * 2 ^ e := by gcongr
      _ = _ := by rw [zpow_add₀ (by norm_num), zpow_natCast]
  have hexponents := (zpow_lt_zpow_iff_right₀ (by norm_num)).mp hpow
  push_cast at hexponents
  omega

/-- The unit of the last of 53 digits of a number. -/
theorem ulp_le {n : Nat} (hn : 0 < n) (e : Int) :
    (2 : ℚ) ^ ((n.log2 : Int) + e - 52) ≤ n * 2 ^ e * 2 ^ (-52 : Int) := by
  have hself : (2 : ℚ) ^ (n.log2 : Int) ≤ n := by exact_mod_cast Nat.log2_self_le hn.ne'
  calc (2 : ℚ) ^ ((n.log2 : Int) + e - 52) = 2 ^ (n.log2 : Int) * 2 ^ e * 2 ^ (-52 : Int) := by
        rw [← zpow_add₀ (by norm_num), ← zpow_add₀ (by norm_num), sub_eq_add_neg]
    _ ≤ n * 2 ^ e * 2 ^ (-52 : Int) := by gcongr

/-- The unpacked form of a finite number: 53 digits, or fewer at the smallest exponent. -/
structure Shape (m : Nat) (e : Int) : Prop where
  lt : m < 2 ^ 53
  low : -1074 ≤ e
  high : e ≤ 971
  normal : 2 ^ 52 ≤ m ∨ e = -1074

theorem shape_of_unpack {b : BitVec Format.binary64.numBits} {s : Sign} {m : Nat} {e : Int}
    {hm : 0 < m} (h : unpack Format.binary64 b = .finite s m e hm) : Shape m e := by
  have hexponent : (unpackExponent b).toNat < 2 ^ 11 := BitVec.isLt _
  have hmantissa : (unpackMantissa b).toNat < 2 ^ 52 := BitVec.isLt _
  obtain ⟨-, hspecial⟩ | ⟨-, s', hzero⟩ | ⟨-, s', hm', hsub⟩ | ⟨hones, hzero, s', hm', hnormal⟩ :=
    unpack_cases b
  · rw [h] at hspecial
    cases hspecial
  · rw [h] at hzero
    cases hzero
  · rw [h] at hsub
    obtain ⟨-, rfl, rfl⟩ := UnpackedFloat.finite.inj hsub
    exact ⟨by omega, le_rfl, by decide, .inr rfl⟩
  · rw [h] at hnormal
    obtain ⟨-, rfl, rfl⟩ := UnpackedFloat.finite.inj hnormal
    have hmin : (unpackExponent b).toNat ≠ 0 := fun heq =>
      hzero (BitVec.eq_of_toNat_eq (heq.trans (by decide)))
    have hmax : (unpackExponent b).toNat ≠ 2047 := fun heq =>
      hones (BitVec.eq_of_toNat_eq (heq.trans (by decide)))
    exact ⟨by omega, by omega, by omega, .inl (by omega)⟩

/-- Two numbers whose product has at most 1024 digits before the point have exponents that do not
add up to more than the largest. -/
theorem Shape.add_le {m m' : Nat} {e e' : Int} (hm : 0 < m) (hm' : 0 < m') (h : Shape m e)
    (h' : Shape m' e') (hlog : ((m * m').log2 : Int) + (e + e') ≤ 1023) : e + e' ≤ 971 := by
  have hhigh := h.high
  have hhigh' := h'.high
  rcases h.normal with hnormal | hsmall
  · rcases h'.normal with hnormal' | hsmall'
    · have hlarge : 2 ^ 104 ≤ m * m' :=
        calc 2 ^ 104 = 2 ^ 52 * 2 ^ 52 := by norm_num
          _ ≤ m * m' := Nat.mul_le_mul hnormal hnormal'
      have hlog' := (Nat.le_log2 (Nat.mul_pos hm hm').ne').mpr hlarge
      omega
    · omega
  · omega

/-- A number is finite if not all bits of its exponent are set. -/
theorem isFinite_unpack_iff {b : BitVec Format.binary64.numBits} :
    (unpack Format.binary64 b).isFinite = true ↔ unpackExponent b ≠ -1#11 := by
  obtain ⟨hones, hspecial⟩ | ⟨hexponent, s, hzero⟩ | ⟨hexponent, s, hm, hsub⟩ |
    ⟨hones, -, s, hm, hnormal⟩ := unpack_cases b
  · rw [hspecial]
    exact iff_of_false Bool.false_ne_true (not_not.mpr hones)
  · rw [hzero, hexponent]
    exact iff_of_true rfl (by decide)
  · rw [hsub, hexponent]
    exact iff_of_true rfl (by decide)
  · rw [hnormal]
    exact iff_of_true rfl hones

section Arithmetic

variable {f g : Float} {p q : ℚ}

theorem isFinite_of_atMost {f : UnpackedFloat} (h : AtMost f p) : f.isFinite = true := by
  cases f with
  | zero s => rfl
  | finite s m e hm => rfl
  | infinity s => exact h.elim
  | notANumber => exact h.elim

theorem zero_or_finite {u : UnpackedFloat} (hu : u.isFinite = true) :
    (∃ s, u = .zero s) ∨ ∃ s m e hm, u = .finite s m e hm := by
  cases u with
  | zero s => exact .inl ⟨s, rfl⟩
  | finite s m e hm => exact .inr ⟨s, m, e, hm, rfl⟩
  | infinity s => cases hu
  | notANumber => cases hu

theorem isFinite_zero (s : Sign) :
    (unpack Format.binary64 (UnpackedFloat.pack Format.binary64 (.zero s))).isFinite = true :=
  isFinite_of_atMost (atMost_zero (q := 0) s le_rfl)

/-- A product below the largest number is finite. -/
theorem isFinite_mul (hf : AtMost f.toModel.unpack p) (hg : AtMost g.toModel.unpack q)
    (hlt : p * q < largest) : (f * g).toModel.unpack.isFinite = true := by
  have hproduct : (f * g).toModel.unpack = unpack Format.binary64
      (UnpackedFloat.pack Format.binary64
        (mul Format.binary64 f.toModel.unpack g.toModel.unpack)) := rfl
  rw [hproduct]
  rcases zero_or_finite (isFinite_of_atMost hf) with ⟨s, hf'⟩ | ⟨s, m, e, hm, hf'⟩ <;>
    rcases zero_or_finite (isFinite_of_atMost hg) with ⟨s', hg'⟩ | ⟨s', m', e', hm', hg'⟩ <;>
    rw [hf'] at hf ⊢ <;> rw [hg'] at hg ⊢
  · exact isFinite_zero _
  · exact isFinite_zero _
  · exact isFinite_zero _
  · have hvalue : ((m * m' : Nat) : ℚ) * 2 ^ (e + e') < largest :=
      calc ((m * m' : Nat) : ℚ) * 2 ^ (e + e') = (m * 2 ^ e) * (m' * 2 ^ e') := by
            push_cast
            rw [zpow_add₀ (by norm_num)]
            ring
        _ ≤ p * q := mul_le_mul hf hg (by positivity) (le_trans (by positivity) hf)
        _ < _ := hlt
    have hlog := log2_le_of_lt (Nat.mul_pos hm hm') (hvalue.trans largest_lt)
    have hexponent : e + e' ≤ 971 :=
      (shape_of_unpack hf').add_le hm hm' (shape_of_unpack hg') hlog
    exact isFinite_of_atMost (atMost_round (s * s') .exact hexponent (by omega) (by omega) le_rfl
      hvalue)

theorem isFinite_neg (hf : f.toModel.unpack.isFinite = true) :
    (-f).toModel.unpack.isFinite = true := by
  have hneg : (-f).toModel.unpack = unpack Format.binary64 (UnpackedFloat.pack Format.binary64
      f.toModel.unpack.neg) := rfl
  rw [hneg]
  rcases zero_or_finite hf with ⟨s, hf'⟩ | ⟨s, m, e, hm, hf'⟩ <;> rw [hf']
  · exact isFinite_zero _
  · have hshape := shape_of_unpack hf'
    exact isFinite_of_atMost (atMost_pack hm hshape.lt hshape.low hshape.high)

/-- What is packed is finite or infinite, unless it is no number. -/
theorem isFinite_or_isInf_pack {u : UnpackedFloat} (hu : u ≠ .notANumber) :
    (unpack Format.binary64 (UnpackedFloat.pack Format.binary64 u)).isFinite = true ∨
      (unpack Format.binary64 (UnpackedFloat.pack Format.binary64 u)).isInf = true := by
  have hinfinity : ∀ s,
      (unpack Format.binary64 (packedInfinity Format.binary64 s)).isInf = true := by
    intro s
    cases s <;> rfl
  cases u with
  | notANumber => exact absurd rfl hu
  | infinity s => exact .inr (hinfinity s)
  | zero s => exact .inl (isFinite_zero s)
  | finite s m e hm =>
    rw [pack_finite]
    split_ifs with hover
    · exact .inr (hinfinity s)
    · left
      rw [isFinite_unpack_iff, unpackExponent_packComponents]
      intro hones
      have hnat := congrArg BitVec.toNat hones
      rw [BitVec.toNat_ofNat, show (-1#11).toNat = 2047 by decide] at hnat
      omega
    · left
      rw [isFinite_unpack_iff, unpackExponent_packComponents]
      decide

theorem mul_ne_notANumber {u v : UnpackedFloat} (hu : u.isFinite = true)
    (hv : v.isFinite = true) : mul Format.binary64 u v ≠ .notANumber := by
  intro h
  rcases zero_or_finite hu with ⟨s, rfl⟩ | ⟨s, m, e, hm, rfl⟩ <;>
    rcases zero_or_finite hv with ⟨s', rfl⟩ | ⟨s', m', e', hm', rfl⟩
  · cases h
  · cases h
  · cases h
  · simp only [UnpackedFloat.mul, roundWithAccuracy] at h
    split_ifs at h

/-- A product of finite numbers is finite or infinite. -/
theorem isFinite_mul_of_not_isInf (hf : f.toModel.unpack.isFinite = true)
    (hg : g.toModel.unpack.isFinite = true) (hinf : (f * g).isInf = false) :
    (f * g).toModel.unpack.isFinite = true := by
  have hproduct : (f * g).toModel.unpack = unpack Format.binary64
      (UnpackedFloat.pack Format.binary64
        (mul Format.binary64 f.toModel.unpack g.toModel.unpack)) := rfl
  have hpacked := isFinite_or_isInf_pack (mul_ne_notANumber hf hg)
  rw [← hproduct] at hpacked
  exact hpacked.resolve_right (ne_true_of_eq_false hinf)

/-- A quotient that is rounded down is not above the dividend if the divisor is not below one. -/
theorem quotient_value_le {m m' k : Nat} {e e' t : Int} (hone : 1 ≤ (m : ℚ) * 2 ^ e)
    (hk : e' - e - t = k) : ((m' <<< k / m : Nat) : ℚ) * 2 ^ t ≤ m' * 2 ^ e' := by
  have hfloor : (m' <<< k / m) * m ≤ m' * 2 ^ k := by
    rw [← Nat.shiftLeft_eq]
    exact Nat.div_mul_le_self _ _
  have hfloor' : ((m' <<< k / m : Nat) : ℚ) * m ≤ m' * 2 ^ k := by exact_mod_cast hfloor
  calc ((m' <<< k / m : Nat) : ℚ) * 2 ^ t
      ≤ (m' <<< k / m : Nat) * 2 ^ t * (m * 2 ^ e) :=
        le_mul_of_one_le_right (by positivity) hone
    _ = (m' <<< k / m : Nat) * m * 2 ^ (t + e) := by
        rw [zpow_add₀ (by norm_num)]
        ring
    _ ≤ m' * 2 ^ k * 2 ^ (t + e) := by gcongr
    _ = m' * 2 ^ e' := by
        rw [mul_assoc, ← zpow_natCast, ← zpow_add₀ (by norm_num)]
        congr 2
        omega

/-- Dividing by a number that is not below one at most adds a last digit. -/
theorem atMost_div {N : Int} (hf : AtMost f.toModel.unpack (2 ^ N)) (hlow : 0 ≤ N)
    (hhigh : N ≤ 1000) {s : Sign} {m : Nat} {e : Int} {hm : 0 < m}
    (hg : g.toModel.unpack = .finite s m e hm) (hone : 1 ≤ (m : ℚ) * 2 ^ e) :
    AtMost (f / g).toModel.unpack (2 ^ (N + 1)) := by
  have hquotient : (f / g).toModel.unpack = unpack Format.binary64
      (UnpackedFloat.pack Format.binary64
        (div Format.binary64 f.toModel.unpack g.toModel.unpack)) := rfl
  rw [hquotient, hg]
  rcases zero_or_finite (isFinite_of_atMost hf) with ⟨s', hf'⟩ | ⟨s', m', e', hm', hf'⟩ <;>
    rw [hf'] at hf ⊢
  · exact atMost_zero _ (by positivity)
  · have hsize : (m' : ℚ) * 2 ^ e' ≤ 2 ^ N := hf
    have hlog : (m'.log2 : Int) + e' ≤ N :=
      log2_le_of_lt hm' (hsize.trans_lt (zpow_lt_zpow_right₀ (by norm_num) (by omega)))
    have hlog' : 0 ≤ (m.log2 : Int) + e := log2_nonneg_of_le hone
    simp only [UnpackedFloat.div, divCore]
    -- the quotient is taken at the exponent `t`
    obtain ⟨t, ht⟩ : ∃ t, t = min (e' - e)
      (Format.binary64.targetExponent (totalExponent m' e' - totalExponent m e)) := ⟨_, rfl⟩
    rw [← ht]
    have htarget : t ≤ N - 53 := by
      simp only [targetExponent_eq, totalExponent] at ht
      omega
    obtain ⟨k, hk⟩ : ∃ k : Nat, e' - e - t = k := ⟨(e' - e - t).toNat, by omega⟩
    rw [hk, Int.toNat_natCast]
    have hvalue : ((m' <<< k / m : Nat) : ℚ) * 2 ^ t ≤ 2 ^ N :=
      (quotient_value_le hone hk).trans hsize
    have hbits : ((m' <<< k / m).log2 : Int) + t ≤ N := by
      rcases Nat.eq_zero_or_pos (m' <<< k / m) with hzero | hpos
      · rw [hzero, Nat.log2_zero]
        omega
      · exact log2_le_of_lt hpos (hvalue.trans_lt (zpow_lt_zpow_right₀ (by norm_num) (by omega)))
    have hround := atMost_round (s' / s) (accuracyOfFraction (m' <<< k % m) m) (u := N - 52)
      (show t ≤ N - 52 by omega) (by omega) (by omega) (by omega)
      (hvalue.trans_lt (pow_lt_largest (by omega)))
    refine hround.mono ?_
    have hulp : (2 : ℚ) ^ (N - 52) ≤ 2 ^ N := zpow_le_zpow_right₀ (by norm_num) (by omega)
    rw [zpow_add₀ (by norm_num)]
    linarith

/-- An integer in double precision. -/
theorem atMost_toFloat (n : UInt64) :
    AtMost n.toFloat.toModel.unpack (n.toNat * (1 + 2 ^ (-52 : Int))) := by
  have hnumber : n.toFloat.toModel.unpack = unpack Format.binary64
      (UnpackedFloat.pack Format.binary64 (normalize Format.binary64 n.toNat 0 .positive)) := rfl
  have hlt : n.toNat < 2 ^ 64 := n.toNat_lt
  rw [hnumber]
  generalize n.toNat = n at *
  rcases Nat.eq_zero_or_pos n with rfl | hpos
  · exact atMost_zero .positive (by simp)
  · rw [UnpackedFloat.normalize, Int.compare_eq_gt.mpr (by omega)]
    have hlog : n.log2 < 64 := (Nat.log2_lt hpos.ne').mpr hlt
    have htarget : Format.binary64.targetExponent (totalExponent n 0) = (n.log2 : Int) - 52 := by
      simp only [targetExponent_eq, totalExponent]
      omega
    simp only [UnpackedFloat.round, decreaseExponent, Int.toNat_natCast, htarget,
      Nat.shiftLeft_eq]
    generalize hk : (0 - ((n.log2 : Int) - 52)).toNat = k
    have hvalue : ((n * 2 ^ k : Nat) : ℚ) * 2 ^ (0 - (k : Int)) = n := by
      push_cast
      rw [mul_assoc, ← zpow_natCast, ← zpow_add₀ (by norm_num)]
      simp
    have hself : (n : ℚ) < 2 ^ ((n.log2 : Int) + 1) := by
      have hnat : n < 2 ^ (n.log2 + 1) := Nat.lt_log2_self
      exact_mod_cast hnat
    have hbits := log2_le_of_lt (Nat.mul_pos hpos (Nat.two_pow_pos k)) (hvalue.trans_lt hself)
    have hbelow : (n : ℚ) < largest := by
      have hsize : (n : ℚ) < 2 ^ (64 : Int) := by exact_mod_cast hlt
      exact hsize.trans (pow_lt_largest (by norm_num))
    have hround := atMost_round .positive .exact (u := (n.log2 : Int) - 52)
      (show 0 - (k : Int) ≤ _ by omega) (by omega) (by omega) (by omega) (hvalue.trans_lt hbelow)
    refine hround.mono ?_
    have hleast : (2 : ℚ) ^ (n.log2 : Int) ≤ n := by
      exact_mod_cast Nat.log2_self_le hpos.ne'
    rw [hvalue, sub_eq_add_neg, zpow_add₀ (by norm_num), mul_add, mul_one]
    gcongr

end Arithmetic

end AbiBindings.Decimal
