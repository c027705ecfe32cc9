import AbiBindings.Proofs.Decimal.Doubles
import AbiBindings.Proofs.Decimal.Shortest

/-!
# Scaled numbers

What becomes of a 64-bit significand scaled by a power of ten. The powers of ten up to the 22nd are
kept exactly; the others are rounded once.

Results:
* `powerOfTen_spec`: the size of a power of ten.
* `isFinite_of_scaleFloat?`: a scaled number is finite.
* `isSome_scaleFloat?_of_neg`: scaling down always succeeds.
* `isSome_scaleFloat?_shortest`: scaling up the digits of the shortest decimal of a number succeeds.
-/

namespace AbiBindings.Json

open Decimal (AtMost largest)
open Float.Model (Format UnpackedFloat)

/-! ## Powers of ten -/

/-- Whether a power of ten is at least one and is rounded up by one in the last digit at most. -/
def Close (k : Nat) : Prop :=
  ∃ s m e hm, (powerOfTen k).toModel.unpack = .finite s m e hm ∧ 1 ≤ (m : ℚ) * 2 ^ e ∧
    (m : ℚ) * 2 ^ e ≤ 10 ^ k * (1 + 2 ^ (-52 : Int))

/-- Whether a power of ten is exact. -/
def isExactPower (k : Nat) : Bool :=
  match (powerOfTen k).toModel.unpack with
  | .finite _ m e _ => -52 ≤ e && m * 2 ^ (e + 52).toNat == 10 ^ k * 2 ^ 52
  | _ => false

theorem isExactPower_of_lt : ∀ k < 23, isExactPower k = true := by decide +kernel

/-- A power of ten that is kept in a table is exact. -/
theorem close_of_le {k : Nat} (hk : k ≤ 22) : Close k := by
  have hexact := isExactPower_of_lt k (by omega)
  rw [isExactPower] at hexact
  split at hexact
  · rename_i s m e hm hunpack
    obtain ⟨he, hscaled⟩ : -52 ≤ e ∧ m * 2 ^ (e + 52).toNat = 10 ^ k * 2 ^ 52 := by
      simpa using hexact
    obtain ⟨j, rfl⟩ : ∃ j : Nat, e = j - 52 := ⟨(e + 52).toNat, by omega⟩
    rw [show ((j : Int) - 52 + 52).toNat = j by omega] at hscaled
    have hscaled' : (m : ℚ) * 2 ^ j = 10 ^ k * 2 ^ 52 := by exact_mod_cast hscaled
    have hvalue : (m : ℚ) * 2 ^ ((j : Int) - 52) = 10 ^ k := by
      rw [zpow_sub₀ (by norm_num), zpow_natCast, ← mul_div_assoc, hscaled']
      exact mul_div_cancel_right₀ _ (by norm_num)
    have hone : (1 : ℚ) ≤ 10 ^ k := one_le_pow₀ (by norm_num)
    refine ⟨s, m, _, hm, hunpack, ?_, ?_⟩
    · rw [hvalue]
      exact hone
    · rw [hvalue]
      exact le_mul_of_one_le_right (by positivity) (by norm_num)
  · cases hexact

/-- A larger power of ten is rounded once. -/
theorem unpack_powerOfTen {k : Nat} (hlow : 22 < k) (hk : k ≤ 308) :
    (powerOfTen k).toModel.unpack = UnpackedFloat.unpack Format.binary64
      (UnpackedFloat.pack Format.binary64 (UnpackedFloat.roundWithAccuracy Format.binary64
        .positive (2 ^ 53 * 10 ^ k) (-53) .exact)) := by
  have hinexact : ¬ (1 < 2 ^ 53 ∧ k ≤ 22) := by omega
  have hpower : powerOfTen k = ⟨Float.Model.ofScientific 1 k⟩ := by
    rw [powerOfTen, Float.ofScientific, dif_neg hinexact]
    rfl
  have hbits : Format.binary64.exponentBits = 11 := rfl
  have hfits : ¬ (k : Int) > 2 ^ Format.binary64.exponentBits := by
    rw [hbits]
    omega
  have hlarge : ¬ (k : Int) < -(2 ^ Format.binary64.exponentBits + (Nat.log2 1 : Int)) := by
    rw [hbits]
    omega
  rw [hpower, Float.Model.ofScientific, UnpackedFloat.ofScientific, dif_neg one_ne_zero,
    if_neg hfits, if_neg hlarge, if_pos (Int.natCast_nonneg k)]
  rfl

theorem mul_pow_ten (k : Nat) : ((2 ^ 53 * 10 ^ k : Nat) : ℚ) * 2 ^ (-53 : Int) = 10 ^ k := by
  have hcast : ((2 ^ 53 * 10 ^ k : Nat) : ℚ) = 10 ^ k * 2 ^ (53 : Int) := by
    push_cast
    ring
  rw [hcast, mul_assoc, ← zpow_add₀ (by norm_num)]
  norm_num

theorem pow_ten_lt_largest {k : Nat} (hk : k ≤ 308) : (10 : ℚ) ^ k < largest := by
  have hmost : (10 : ℚ) ^ 308 < (2 ^ 53 - 1) * 2 ^ 971 := by
    have hnat : 10 ^ 308 < 9007199254740991 * 2 ^ 971 := by decide +kernel
    rw [show (2 : ℚ) ^ 53 - 1 = 9007199254740991 by norm_num]
    exact_mod_cast hnat
  rw [largest, zpow_ofNat]
  exact (pow_le_pow_right₀ (by norm_num) hk).trans_lt hmost

/-- A larger power of ten has 53 digits, the last of which may be rounded up. -/
theorem close_of_lt {k : Nat} (hlow : 22 < k) (hk : k ≤ 308) : Close k := by
  obtain ⟨n, hn⟩ : ∃ n, n = 2 ^ 53 * 10 ^ k := ⟨_, rfl⟩
  have hpos : 0 < n := by
    rw [hn]
    positivity
  have hvalue : (n : ℚ) * 2 ^ (-53 : Int) = 10 ^ k := hn ▸ mul_pow_ten k
  have hlt : (n : ℚ) * 2 ^ (-53 : Int) < largest := hvalue.trans_lt (pow_ten_lt_largest hk)
  have hlog := Decimal.log2_le_of_lt hpos (hlt.trans Decimal.largest_lt)
  have hbits : 53 ≤ n.log2 := by
    rw [Nat.le_log2 hpos.ne', hn]
    exact Nat.le_mul_of_pos_right _ (by positivity)
  obtain ⟨m, e, hrounded, hround⟩ := Decimal.exists_rounded .positive .exact
    (u := (n.log2 : Int) + -53 - 52) (by omega) (by omega) (by omega) (by omega) hlt
  obtain ⟨hnormal, he⟩ := hrounded.normal (by omega) (by omega)
  have hm : m ≠ 0 := by
    rintro rfl
    exact absurd hnormal (by norm_num)
  obtain ⟨s, hunpack⟩ := Decimal.unpack_pack_normal (s := .positive) (Nat.pos_of_ne_zero hm) hnormal
    hrounded.lt hrounded.low hrounded.high
  refine ⟨s, m, e, Nat.pos_of_ne_zero hm, ?_, ?_, ?_⟩
  · rw [unpack_powerOfTen hlow hk, ← hn, hround, dif_neg hm, hunpack]
  · have hnormal' : (2 : ℚ) ^ (52 : Int) ≤ m := by exact_mod_cast hnormal
    calc (1 : ℚ) = 2 ^ (52 : Int) * 2 ^ (-52 : Int) := by norm_num
      _ ≤ m * 2 ^ e := mul_le_mul hnormal' (zpow_le_zpow_right₀ (by norm_num) (by omega))
        (by positivity) (by positivity)
  · have hulp := Decimal.ulp_le hpos (-53)
    rw [hvalue] at hulp
    calc (m : ℚ) * 2 ^ e ≤ n * 2 ^ (-53 : Int) + 2 ^ ((n.log2 : Int) + -53 - 52) := hrounded.le
      _ ≤ 10 ^ k + 10 ^ k * 2 ^ (-52 : Int) := by rw [hvalue]; gcongr
      _ = 10 ^ k * (1 + 2 ^ (-52 : Int)) := by ring

/-- Every power of ten that scaling uses is close to the exact one. -/
theorem powerOfTen_spec {k : Nat} (hk : k ≤ 308) : Close k := by
  rcases Nat.lt_or_ge 22 k with hlow | hlow
  · exact close_of_lt hlow hk
  · exact close_of_le hlow

/-! ## Scaling -/

/-- Scaling a finite number gives a finite one: every division adds one binary digit at most. -/
theorem isFinite_of_scaleFloat? (fuel : Nat) {f g : Float} {e N : Int}
    (hf : AtMost f.toModel.unpack (2 ^ N)) (hlow : 0 ≤ N) (hhigh : N + fuel ≤ 1000)
    (h : scaleFloat? fuel f e = some g) : g.toModel.unpack.isFinite = true := by
  induction fuel generalizing f e N with
  | zero =>
    obtain rfl := Option.some.inj h
    exact Decimal.isFinite_of_atMost hf
  | succ fuel ih =>
    simp only [scaleFloat?] at h
    push_cast at hhigh
    split_ifs at h with hnear hup hinf hzero hup
    · obtain rfl := Option.some.inj h
      obtain ⟨_, m, e', hm, hpower, -, hle⟩ := powerOfTen_spec (k := e.toNat) (by omega)
      have hpowerFinite : (powerOfTen e.toNat).toModel.unpack.isFinite = true := by
        rw [hpower]
        rfl
      exact Decimal.isFinite_mul_of_not_isInf (Decimal.isFinite_of_atMost hf) hpowerFinite
        (by simpa using hinf)
    · obtain rfl := Option.some.inj h
      obtain ⟨_, m, e', hm, hpower, hone, -⟩ := powerOfTen_spec hnear
      exact Decimal.isFinite_of_atMost (Decimal.atMost_div hf hlow (by omega) hpower hone)
    · obtain rfl := Option.some.inj h
      exact Decimal.isFinite_of_atMost hf
    · obtain ⟨_, m, e', hm, hpower, hone, -⟩ := powerOfTen_spec (k := 308) le_rfl
      exact ih (Decimal.atMost_div hf hlow (by omega) hpower hone) (by omega) (by omega) h

/-- Scaling down always gives a number. -/
theorem isSome_scaleFloat?_of_neg (fuel : Nat) {f : Float} {e : Int} (he : e < 0) :
    (scaleFloat? fuel f e).isSome = true := by
  induction fuel generalizing f e with
  | zero => rfl
  | succ fuel ih =>
    have hdown : ¬ e ≥ 0 := by omega
    simp only [scaleFloat?, if_neg hdown]
    split_ifs with hnear hzero
    · rfl
    · rfl
    · exact ih (by omega)

/-- Scaling up gives a number below the largest one. -/
theorem isSome_scaleFloat?_of_lt (fuel : Nat) {f : Float} {k : Nat} {q : ℚ} (hk : k ≤ 308)
    (hf : AtMost f.toModel.unpack q) (hlt : q * (10 ^ k * (1 + 2 ^ (-52 : Int))) < largest) :
    (scaleFloat? fuel f k).isSome = true := by
  cases fuel with
  | zero => rfl
  | succ fuel =>
    obtain ⟨_, m, e, hm, hpower, -, hle⟩ := powerOfTen_spec hk
    have hpower' : AtMost (powerOfTen k).toModel.unpack (10 ^ k * (1 + 2 ^ (-52 : Int))) := by
      rw [hpower]
      exact hle
    have hproduct := Decimal.isFinite_mul hf hpower' hlt
    have hinf : (f * powerOfTen k).isInf = false := by
      have hdef : (f * powerOfTen k).isInf = (f * powerOfTen k).toModel.unpack.isInf := rfl
      rw [hdef]
      cases hu : (f * powerOfTen k).toModel.unpack <;>
        simp_all [UnpackedFloat.isFinite, UnpackedFloat.isInf]
    simp [scaleFloat?, hk, hinf]

/-! ## The digits of a number -/

/-- The digits of the eight largest numbers, which leave no room for rounding twice. -/
theorem isSome_scaleFloat?_largest : ∀ closerBelow, ∀ i < 8,
    let r := Decimal.shortest ⟨false, 2 ^ 53 - 1 - i, 971, closerBelow⟩
    (scaleFloat? 4 (UInt64.ofNat r.1).toFloat r.2).isSome = true := by decide +kernel

/-- The decimals of every other number stay below the largest number by more than two roundings
add. -/
theorem high_le_of_not_largest {b : Decimal.Binary} (hb : b.Positive)
    (hroom : ¬ (b.exponent = 971 ∧ 2 ^ 53 - 8 ≤ b.significand)) :
    ((b.significand : ℚ) + 1 / 2) * 2 ^ b.exponent ≤ (2 ^ 53 - 17 / 2) * 2 ^ (971 : Int) := by
  have hlt := hb.lt
  have hhigh := hb.high
  rcases eq_or_ne b.exponent 971 with hmax | hmax
  · have hsmall : (b.significand : ℚ) + 9 ≤ 2 ^ 53 := by
      have hnat : b.significand + 9 ≤ 2 ^ 53 := by omega
      exact_mod_cast hnat
    rw [hmax]
    exact mul_le_mul_of_nonneg_right (by linarith) (by positivity)
  · have hbits : (b.significand : ℚ) ≤ 2 ^ 53 := by exact_mod_cast hlt.le
    calc ((b.significand : ℚ) + 1 / 2) * 2 ^ b.exponent
        ≤ (2 ^ 53 + 1 / 2) * 2 ^ ((971 : Int) - 1) := by
          gcongr
          · norm_num
          · omega
      _ = (2 ^ 53 + 1 / 2) / 2 * 2 ^ (971 : Int) := by
          rw [zpow_sub₀ (by norm_num), zpow_one]
          ring
      _ ≤ _ := mul_le_mul_of_nonneg_right (by norm_num) (by positivity)

/-- The digits of a number can be scaled back. -/
theorem isSome_scaleFloat?_shortest {b : Decimal.Binary} (hb : b.Positive)
    (hk : 0 ≤ (Decimal.shortest b).2) :
    (scaleFloat? 4 (UInt64.ofNat (Decimal.shortest b).1).toFloat (Decimal.shortest b).2).isSome =
      true := by
  by_cases htop : b.exponent = 971 ∧ 2 ^ 53 - 8 ≤ b.significand
  · have hlt := hb.lt
    obtain ⟨negative, significand, exponent, closerBelow⟩ := b
    obtain ⟨rfl, hsignificand⟩ := htop
    dsimp only at hsignificand hlt
    have heval := isSome_scaleFloat?_largest closerBelow (2 ^ 53 - 1 - significand) (by omega)
    rwa [show 2 ^ 53 - 1 - (2 ^ 53 - 1 - significand) = significand by omega] at heval
  · obtain ⟨-, hdigits, -, hk', hle⟩ := Decimal.short_shortest hb
    generalize Decimal.shortest b = r at *
    obtain ⟨d, k⟩ := r
    obtain ⟨k, rfl⟩ := Int.eq_ofNat_of_zero_le hk
    dsimp only [Int.ofNat_eq_natCast] at *
    rw [zpow_natCast] at hle
    have hvalue := hle.trans (high_le_of_not_largest hb htop)
    have hf := Decimal.atMost_toFloat (UInt64.ofNat d)
    rw [UInt64.toNat_ofNat_of_lt' hdigits] at hf
    refine isSome_scaleFloat?_of_lt 4 (by omega) hf ?_
    calc (d : ℚ) * (1 + 2 ^ (-52 : Int)) * (10 ^ k * (1 + 2 ^ (-52 : Int)))
        = d * 10 ^ k * (1 + 2 ^ (-52 : Int)) ^ 2 := by ring
      _ ≤ (2 ^ 53 - 17 / 2) * 2 ^ (971 : Int) * (1 + 2 ^ (-52 : Int)) ^ 2 := by gcongr
      _ = (2 ^ 53 - 17 / 2) * (1 + 2 ^ (-52 : Int)) ^ 2 * 2 ^ (971 : Int) := by ring
      _ < largest := mul_lt_mul_of_pos_right (by norm_num) (by positivity)

end AbiBindings.Json
