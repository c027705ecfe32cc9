import AbiBindings.Decimal.Shortest
import Mathlib.Algebra.Order.Field.Power
import Mathlib.Data.Rat.Cast.Order
import Mathlib.Tactic.Linarith
import Mathlib.Tactic.NormNum
import Mathlib.Tactic.Positivity
import Mathlib.Tactic.Ring

/-!
# The size of shortest decimals

The shortest decimal of a number is positive, its digits fit 64 bits, and it is not above the
interval of the decimals that read back.

* `Ratio.toRat`: a fraction as a rational number.
* `Stands`: the decimals that the search can end with.
* `Short`: what is known of the shortest decimal of a number.

Results:
* `magnitude_spec`: the power of ten that the search begins at.
* `stands_search`: where the search ends, by induction on the grids still allowed.
* `short_shortest`: the digits and the exponent of the shortest decimal.
-/

namespace AbiBindings.Decimal

/-! ## Fractions -/

/-- A fraction as a rational number. -/
def Ratio.toRat (x : Ratio) : ℚ := x.num / x.den

theorem Ratio.den_scale2_pos (n : Nat) (e : Int) : 0 < (Ratio.scale2 n e).den := by
  simp only [scale2]
  split
  · exact Nat.one_pos
  · exact Nat.pow_pos (by decide)

theorem Ratio.den_scale10_pos (n : Nat) (e : Int) : 0 < (Ratio.scale10 n e).den := by
  simp only [scale10]
  split
  · exact Nat.one_pos
  · exact Nat.pow_pos (by decide)

theorem Ratio.toRat_scale2 (n : Nat) (e : Int) : (Ratio.scale2 n e).toRat = n * 2 ^ e := by
  simp only [scale2, toRat]
  split
  · obtain ⟨k, rfl⟩ := Int.eq_ofNat_of_zero_le ‹_›
    simp
  · obtain ⟨k, rfl⟩ : ∃ k : Nat, e = -k := ⟨(-e).toNat, by omega⟩
    simp [div_eq_mul_inv]

theorem Ratio.toRat_scale10 (n : Nat) (e : Int) : (Ratio.scale10 n e).toRat = n * 10 ^ e := by
  simp only [scale10, toRat]
  split
  · obtain ⟨k, rfl⟩ := Int.eq_ofNat_of_zero_le ‹_›
    simp
  · obtain ⟨k, rfl⟩ : ∃ k : Nat, e = -k := ⟨(-e).toNat, by omega⟩
    simp [div_eq_mul_inv]

section Order

variable {x y : Ratio} (hx : 0 < x.den) (hy : 0 < y.den)
include hx hy

theorem Ratio.le_iff : x.le y = true ↔ x.toRat ≤ y.toRat := by
  have hx' : (0 : ℚ) < x.den := by exact_mod_cast hx
  have hy' : (0 : ℚ) < y.den := by exact_mod_cast hy
  rw [le, decide_eq_true_eq, toRat, toRat, div_le_div_iff₀ hx' hy']
  exact_mod_cast Iff.rfl

theorem Ratio.lt_iff : x.lt y = true ↔ x.toRat < y.toRat := by
  have hx' : (0 : ℚ) < x.den := by exact_mod_cast hx
  have hy' : (0 : ℚ) < y.den := by exact_mod_cast hy
  rw [lt, decide_eq_true_eq, toRat, toRat, div_lt_div_iff₀ hx' hy']
  exact_mod_cast Iff.rfl

theorem Ratio.floorDiv_mul_le : (x.floorDiv y : ℚ) * y.toRat ≤ x.toRat := by
  have hx' : (0 : ℚ) < x.den := by exact_mod_cast hx
  have hy' : (0 : ℚ) < y.den := by exact_mod_cast hy
  have hfloor : x.floorDiv y * (x.den * y.num) ≤ x.num * y.den := Nat.div_mul_le_self _ _
  have hfloor' : (x.floorDiv y : ℚ) * (x.den * y.num) ≤ x.num * y.den := by exact_mod_cast hfloor
  rw [toRat, toRat, ← mul_div_assoc, div_le_div_iff₀ hy' hx']
  calc (x.floorDiv y : ℚ) * y.num * x.den = x.floorDiv y * (x.den * y.num) := by ring
    _ ≤ x.num * y.den := hfloor'

theorem Ratio.floorDiv_pos (hpos : 0 < y.num) (h : y.toRat ≤ x.toRat) : 0 < x.floorDiv y := by
  have hx' : (0 : ℚ) < x.den := by exact_mod_cast hx
  have hy' : (0 : ℚ) < y.den := by exact_mod_cast hy
  rw [toRat, toRat, div_le_div_iff₀ hy' hx'] at h
  have hle : y.num * x.den ≤ x.num * y.den := by exact_mod_cast h
  refine Nat.div_pos ?_ (Nat.mul_pos hx hpos)
  rwa [Nat.mul_comm]

end Order

theorem Ratio.num_scale10_pos {n : Nat} (hn : 0 < n) (e : Int) : 0 < (Ratio.scale10 n e).num := by
  simp only [scale10]
  split
  · exact Nat.mul_pos hn (Nat.pow_pos (by decide))
  · exact hn

/-! ## The search -/

/-- The largest power of ten up to a number, if the number is in reach. -/
theorem magnitude_spec {x : Ratio} (hx : 0 < x.den) (fuel : Nat) {top : Int}
    (hlow : (10 : ℚ) ^ (top - fuel) ≤ x.toRat) (hhigh : x.toRat < 10 ^ (top + 1)) :
    (10 : ℚ) ^ magnitude x fuel top ≤ x.toRat ∧ x.toRat < 10 ^ (magnitude x fuel top + 1) ∧
      top - fuel ≤ magnitude x fuel top := by
  induction fuel generalizing top with
  | zero =>
    rw [Nat.cast_zero, sub_zero] at hlow
    exact ⟨hlow, hhigh, by simp [magnitude]⟩
  | succ fuel ih =>
    have htest := Ratio.le_iff (Ratio.den_scale10_pos 1 top) hx
    rw [Ratio.toRat_scale10, Nat.cast_one, one_mul] at htest
    rw [magnitude]
    split_ifs with hle
    · exact ⟨htest.mp hle, hhigh, by omega⟩
    · have hbelow : x.toRat < 10 ^ (top - 1 + 1) := by
        rw [Int.sub_add_cancel]
        exact not_le.mp fun h => hle (htest.mpr h)
      have hreach : (10 : ℚ) ^ (top - 1 - fuel) ≤ x.toRat := by
        rwa [show top - 1 - (fuel : Int) = top - (fuel + 1 : Nat) by push_cast; omega]
      obtain ⟨hlow', hhigh', hfuel⟩ := ih hreach hbelow
      exact ⟨hlow', hhigh', by push_cast; omega⟩

/-- The decimals that the search can end with: not above the interval, nor a unit of their last
digit above the number. -/
structure Stands (i : Interval) (d : Nat) (k : Int) : Prop where
  pos : 0 < d
  le_high : (d : ℚ) * 10 ^ k ≤ i.high.toRat
  le_value : (d : ℚ) * 10 ^ k ≤ i.value.toRat + 10 ^ k

section Search

variable {i : Interval} (hvalue : 0 < i.value.den) (hden : 0 < i.high.den)

include hden in
theorem Interval.le_high_of_holds {x : Ratio} (hx : 0 < x.den) (h : i.holds x = true) :
    x.toRat ≤ i.high.toRat := by
  rw [holds] at h
  split at h
  · exact (Ratio.le_iff hx hden).mp (Bool.and_eq_true_iff.mp h).2
  · exact ((Ratio.lt_iff hx hden).mp (Bool.and_eq_true_iff.mp h).2).le

include hvalue hden

theorem stands_onGrid? {k : Int} {d : Nat} (h : onGrid? i k = some d) : Stands i d k := by
  have hfloor := Ratio.floorDiv_mul_le hvalue (Ratio.den_scale10_pos 1 k)
  rw [Ratio.toRat_scale10, Nat.cast_one, one_mul] at hfloor
  simp only [onGrid?] at h
  generalize i.value.floorDiv (Ratio.scale10 1 k) = n at *
  have hunit : (0 : ℚ) < 10 ^ k := by positivity
  have hbelow : (n > 0 && i.holds (Ratio.scale10 n k)) = true → Stands i n k := by
    intro hn
    obtain ⟨hpos, hholds⟩ := Bool.and_eq_true_iff.mp hn
    have hhigh := Interval.le_high_of_holds hden (Ratio.den_scale10_pos n k) hholds
    rw [Ratio.toRat_scale10] at hhigh
    exact ⟨by simpa using hpos, hhigh, by linarith⟩
  have habove : i.holds (Ratio.scale10 (n + 1) k) = true → Stands i (n + 1) k := by
    intro hholds
    have hhigh := Interval.le_high_of_holds hden (Ratio.den_scale10_pos (n + 1) k) hholds
    rw [Ratio.toRat_scale10] at hhigh
    refine ⟨Nat.succ_pos n, hhigh, ?_⟩
    push_cast
    linarith
  split_ifs at h with hboth hdown hup heven hb ha
  · obtain rfl := Option.some.inj h
    exact hbelow (Bool.and_eq_true_iff.mp hboth).1
  · obtain rfl := Option.some.inj h
    exact habove (Bool.and_eq_true_iff.mp hboth).2
  · obtain rfl := Option.some.inj h
    exact hbelow (Bool.and_eq_true_iff.mp hboth).1
  · obtain rfl := Option.some.inj h
    exact habove (Bool.and_eq_true_iff.mp hboth).2
  · obtain rfl := Option.some.inj h
    exact hbelow hb
  · obtain rfl := Option.some.inj h
    exact habove ha

/-- The search ends at a decimal that stands for the number, at most `fuel` grids further down. -/
theorem stands_search (hle : i.value.toRat ≤ i.high.toRat) (fuel : Nat) {k : Int}
    (hk : (10 : ℚ) ^ k ≤ i.value.toRat) :
    Stands i (search i fuel k).1 (search i fuel k).2 ∧ k - fuel ≤ (search i fuel k).2 := by
  induction fuel generalizing k with
  | zero =>
    have hfloor := Ratio.floorDiv_mul_le hvalue (Ratio.den_scale10_pos 1 k)
    have hpos := Ratio.floorDiv_pos hvalue (Ratio.den_scale10_pos 1 k)
      (Ratio.num_scale10_pos Nat.one_pos k)
    rw [Ratio.toRat_scale10, Nat.cast_one, one_mul] at hfloor hpos
    have hunit : (0 : ℚ) < 10 ^ k := by positivity
    rw [search]
    exact ⟨⟨hpos hk, hfloor.trans hle, hfloor.trans (by linarith)⟩, by simp⟩
  | succ fuel ih =>
    rw [search]
    cases hgrid : onGrid? i k with
    | some d => exact ⟨stands_onGrid? hvalue hden hgrid, by push_cast; omega⟩
    | none =>
      have hnext : (10 : ℚ) ^ (k - 1) ≤ i.value.toRat :=
        le_trans (zpow_le_zpow_right₀ (by norm_num) (by omega)) hk
      obtain ⟨hstands, hlow⟩ := ih hnext
      exact ⟨hstands, by push_cast; omega⟩

end Search

/-- Moving zeros into the exponent changes no value. -/
theorem stripZeros_spec (fuel : Nat) {d : Nat} {k : Int} (hd : 0 < d) :
    let r := stripZeros fuel d k
    0 < r.1 ∧ r.1 ≤ d ∧ k ≤ r.2 ∧ (r.1 : ℚ) * 10 ^ r.2 = d * 10 ^ k := by
  induction fuel generalizing d k with
  | zero => exact ⟨hd, le_rfl, le_rfl, rfl⟩
  | succ fuel ih =>
    simp only [stripZeros]
    split_ifs with hzero
    · obtain ⟨hpos, hle, hk, hvalue⟩ := ih (d := d / 10) (k := k + 1) (by omega)
      have hdigits : (d : ℚ) = (d / 10 : Nat) * 10 := by
        have hnat : d = d / 10 * 10 := by omega
        exact_mod_cast hnat
      refine ⟨hpos, hle.trans (by omega), by omega, hvalue.trans ?_⟩
      rw [zpow_add₀ (by norm_num), zpow_one, hdigits]
      ring
    · exact ⟨hd, le_rfl, le_rfl, rfl⟩

/-- A decimal whose digits fit 64 bits, with an exponent in the range of double precision, and above
the number by half a unit of its last binary digit at most. -/
structure Short (b : Binary) (d : Nat) (k : Int) : Prop where
  pos : 0 < d
  lt : d < 2 ^ 64
  low : -348 ≤ k
  high : k ≤ 308
  le : (d : ℚ) * 10 ^ k ≤ (b.significand + 1 / 2) * 2 ^ b.exponent

/-- A positive number that double precision can hold. -/
structure Binary.Positive (b : Binary) : Prop where
  pos : 0 < b.significand
  lt : b.significand < 2 ^ 53
  low : -1074 ≤ b.exponent
  high : b.exponent ≤ 971

section Shortest

variable {b : Binary}

theorem Binary.toRat_value (b : Binary) :
    b.interval.value.toRat = b.significand * 2 ^ b.exponent := by
  rw [interval, Ratio.toRat_scale2, zpow_sub₀ (by norm_num)]
  push_cast
  ring

theorem Binary.toRat_high (b : Binary) :
    b.interval.high.toRat = (b.significand + 1 / 2) * 2 ^ b.exponent := by
  rw [interval, Ratio.toRat_scale2, zpow_sub₀ (by norm_num)]
  push_cast
  ring

theorem Binary.Positive.least (hb : b.Positive) :
    (10 : ℚ) ^ (-331 : Int) ≤ b.interval.value.toRat := by
  have hone : (1 : ℚ) ≤ b.significand := by exact_mod_cast hb.pos
  have hnat : 2 ^ 1074 ≤ 10 ^ 331 := by decide +kernel
  have hrat : (2 : ℚ) ^ 1074 ≤ 10 ^ 331 := by exact_mod_cast hnat
  rw [b.toRat_value]
  calc (10 : ℚ) ^ (-331 : Int) ≤ 2 ^ (-1074 : Int) := inv_anti₀ (by positivity) hrat
    _ ≤ 2 ^ b.exponent := zpow_le_zpow_right₀ (by norm_num) hb.low
    _ ≤ b.significand * 2 ^ b.exponent := le_mul_of_one_le_left (by positivity) hone

theorem Binary.Positive.high_lt (hb : b.Positive) : b.interval.high.toRat < 10 ^ (309 : Int) := by
  have hbits : (b.significand : ℚ) + 1 ≤ 2 ^ 53 := by exact_mod_cast hb.lt
  have hnat : 2 ^ 53 * 2 ^ 971 ≤ 10 ^ 309 := by decide +kernel
  have hrat : (2 : ℚ) ^ 53 * 2 ^ 971 ≤ 10 ^ 309 := by exact_mod_cast hnat
  have hmax : (2 : ℚ) ^ b.exponent ≤ 2 ^ (971 : Int) := zpow_le_zpow_right₀ (by norm_num) hb.high
  rw [b.toRat_high]
  calc ((b.significand : ℚ) + 1 / 2) * 2 ^ b.exponent < 2 ^ 53 * 2 ^ b.exponent :=
        mul_lt_mul_of_pos_right (by linarith) (by positivity)
    _ ≤ 2 ^ 53 * 2 ^ (971 : Int) := by gcongr
    _ ≤ 10 ^ (309 : Int) := hrat

theorem Binary.value_le_high (b : Binary) :
    b.interval.value.toRat ≤ b.interval.high.toRat := by
  have hunit : (0 : ℚ) < 2 ^ b.exponent := by positivity
  rw [b.toRat_value, b.toRat_high]
  exact mul_le_mul_of_nonneg_right (by linarith) hunit.le

/-- The shortest decimal of a positive number. -/
theorem short_shortest (hb : b.Positive) : Short b (shortest b).1 (shortest b).2 := by
  have hvalueDen : 0 < b.interval.value.den := Ratio.den_scale2_pos _ _
  have hhighDen : 0 < b.interval.high.den := Ratio.den_scale2_pos _ _
  have hle := b.value_le_high
  have hmost : b.interval.value.toRat < 10 ^ ((309 : Int) + 1) :=
    (hle.trans_lt hb.high_lt).trans_le (zpow_le_zpow_right₀ (by norm_num) (by norm_num))
  obtain ⟨hmagnitude, hbelow, hreach⟩ := magnitude_spec hvalueDen 640 hb.least hmost
  obtain ⟨hstands, hgrid⟩ := stands_search hvalueDen hhighDen hle 17 hmagnitude
  rw [shortest]
  generalize magnitude b.interval.value 640 309 = top at *
  generalize search b.interval 17 top = found at *
  obtain ⟨d, k⟩ := found
  push_cast at hreach hgrid
  dsimp only at hstands hgrid ⊢
  have hdigits : d < 10 ^ 18 + 1 := by
    have hpower : (0 : ℚ) < 10 ^ k := by positivity
    have hgrid' : (10 : ℚ) ^ (top + 1) ≤ 10 ^ (18 : Int) * 10 ^ k := by
      rw [← zpow_add₀ (by norm_num)]
      exact zpow_le_zpow_right₀ (by norm_num) (by omega)
    have hscaled : (d : ℚ) * 10 ^ k < (10 ^ 18 + 1) * 10 ^ k :=
      calc (d : ℚ) * 10 ^ k ≤ b.interval.value.toRat + 10 ^ k := hstands.le_value
        _ < 10 ^ (top + 1) + 10 ^ k := by linarith
        _ ≤ 10 ^ (18 : Int) * 10 ^ k + 10 ^ k := by linarith
        _ = (10 ^ 18 + 1) * 10 ^ k := by
            norm_cast
            ring
    exact_mod_cast lt_of_mul_lt_mul_right hscaled hpower.le
  obtain ⟨hd, hsmall, hk, hsame⟩ := stripZeros_spec 20 (d := d) (k := k) hstands.pos
  generalize stripZeros 20 d k = r at *
  have hvalue : (r.1 : ℚ) * 10 ^ r.2 ≤ b.interval.high.toRat := hsame.trans_le hstands.le_high
  have hexponent : r.2 < 309 := by
    have hone : (1 : ℚ) ≤ r.1 := by exact_mod_cast hd
    have hpower : (10 : ℚ) ^ r.2 < 10 ^ (309 : Int) :=
      calc (10 : ℚ) ^ r.2 ≤ r.1 * 10 ^ r.2 := le_mul_of_one_le_left (by positivity) hone
        _ ≤ b.interval.high.toRat := hvalue
        _ < 10 ^ (309 : Int) := hb.high_lt
    exact (zpow_lt_zpow_iff_right₀ (by norm_num)).mp hpower
  rw [b.toRat_high] at hvalue
  exact ⟨hd, by omega, by omega, by omega, hvalue⟩

end Shortest

end AbiBindings.Decimal
