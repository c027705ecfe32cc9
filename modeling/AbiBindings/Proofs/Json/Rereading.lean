import AbiBindings.Json.Reader
import AbiBindings.Proofs.Json.Literals
import AbiBindings.Proofs.Json.Scaling

/-!
# Written numbers are read again

The literal that a number is written as stands for a number: the same one for an integer, and one in
the range of double precision for a double-precision number. The reader rounds more than once, so a
double-precision number may come back as a neighbour.

* `Number.finite`: the numbers that a reader makes.
* `Number.reread`: the number that the text of a number is read as.
* `integersOnly`: the texts whose number literals spell integers within 64 bits.

Results:
* `Number.finite_of_ofLiteral?`: a number that is read is finite.
* `ofLiteral_literal`: a finite number is read again.
* `Number.reread_of_integral`, `Number.reread_of_isInteger`: an integer is read as itself.
-/

namespace AbiBindings.Json

open Decimal (AtMost)

/-- Whether the number is an integer that is read as one: below `2 ^ 64`, and not below
`-2 ^ 63`. -/
def Number.integral : Number → Bool
  | .natural _ => true
  | .negative n => n.toNat < UInt64.size / 2
  | .float _ => false

/-- Whether the number is an integer that is read as one, or a double-precision number that is
neither infinite nor no number. -/
def Number.finite : Number → Bool
  | .float bits => bits.toNat / 2 ^ 52 % 2048 ≠ 2047
  | n => n.integral

/-- The number that the text of a number is read as. -/
def Number.reread (n : Number) : Number := (Number.ofLiteral? n.literal).getD n

/-! ## Numbers that are read -/

/-- The bits of a finite number. -/
theorem Number.finite_toBits {f : Float} (hf : f.toModel.unpack.isFinite = true) :
    (Number.float f.toBits).finite = true := by
  have hexponent := Decimal.isFinite_unpack_iff.mp hf
  have hbits : (@Float.Model.UnpackedFloat.unpackExponent .binary64
      f.toModel.toBits.toBitVec).toNat = f.toBits.toNat / 2 ^ 52 % 2048 := by
    simp [Float.Model.UnpackedFloat.unpackExponent, Nat.shiftRight_eq_div_pow]
    rfl
  rw [Number.finite, decide_eq_true_eq, ← hbits]
  exact fun heq => hexponent (BitVec.eq_of_toNat_eq (heq.trans (by decide)))

theorem Number.finite_of_toFloat? {s : Scaled} {minus : Bool} {n : Number}
    (h : s.toFloat? minus = some n) : n.finite = true := by
  obtain ⟨f, hf, rfl⟩ := Option.map_eq_some_iff.mp h
  have hstart : AtMost (UInt64.ofNat s.significand).toFloat.toModel.unpack (2 ^ (65 : Int)) := by
    refine (Decimal.atMost_toFloat _).mono ?_
    have hlt : (UInt64.ofNat s.significand).toNat < 2 ^ 64 := UInt64.toNat_lt _
    have hlt' : ((UInt64.ofNat s.significand).toNat : ℚ) ≤ 2 ^ 64 := by exact_mod_cast hlt.le
    calc ((UInt64.ofNat s.significand).toNat : ℚ) * (1 + 2 ^ (-52 : Int))
        ≤ 2 ^ 64 * (1 + 2 ^ (-52 : Int)) := by gcongr
      _ ≤ 2 ^ (65 : Int) := by norm_num
  have hfinite := isFinite_of_scaleFloat? 4 hstart (by norm_num) (by norm_num) hf
  cases minus with
  | true => exact Number.finite_toBits (Decimal.isFinite_neg hfinite)
  | false => exact Number.finite_toBits hfinite

/-- A number that is read is finite. -/
theorem Number.finite_of_ofLiteral? {l : Literal} {n : Number} (h : Number.ofLiteral? l = some n) :
    n.finite = true := by
  rw [Number.ofLiteral?.eq_def] at h
  split at h
  · dsimp only at h
    split_ifs at h with hminus hnegative hnatural
    · obtain rfl := Option.some.inj h
      have hsize : UInt64.size = 2 ^ 64 := rfl
      simp only [Number.finite, Number.integral, decide_eq_true_eq]
      rw [UInt64.toNat_ofNat_of_lt' (by omega)]
      omega
    · exact Number.finite_of_toFloat? h
    · obtain rfl := Option.some.inj h
      rfl
    · exact Number.finite_of_toFloat? h
  · exact Number.finite_of_toFloat? h
  · dsimp only at h
    split_ifs at h with hsmall hdown hlarge
    · exact Number.finite_of_toFloat? h
    · exact Number.finite_of_toFloat? h
    · exact Number.finite_of_toFloat? h

/-! ## Literals that fit 64 bits -/

theorem le_digitsValue (s : Nat) (ds : List Nat) : s ≤ ds.foldl (fun n d => 10 * n + d) s := by
  induction ds generalizing s with
  | nil => exact le_rfl
  | cons d ds ih =>
    have hstep := ih (10 * s + d)
    rw [List.foldl_cons]
    omega

theorem takeDigits_of_lt {s : Nat} {ds : List Nat}
    (h : ds.foldl (fun n d => 10 * n + d) s < UInt64.size) :
    takeDigits s ds = (ds.foldl (fun n d => 10 * n + d) s, []) := by
  induction ds generalizing s with
  | nil => rfl
  | cons d ds ih =>
    rw [List.foldl_cons] at h ⊢
    have hstep := le_digitsValue (10 * s + d) ds
    have hcomm : s * 10 + d = 10 * s + d := by omega
    rw [takeDigits, hcomm, if_pos (hstep.trans_lt h), ih h]

theorem digitsValue_append (ds es : List Nat) :
    digitsValue (ds ++ es) = es.foldl (fun n d => 10 * n + d) (digitsValue ds) := by
  rw [digitsValue, List.foldl_append, digitsValue]

/-- All digits of a literal count if they fit 64 bits. -/
theorem Literal.scaled_of_lt {l : Literal}
    (h : digitsValue (l.whole ++ l.fraction.getD []) < UInt64.size) :
    l.scaled =
      ⟨digitsValue (l.whole ++ l.fraction.getD []), -((l.fraction.getD []).length : Int)⟩ := by
  rw [digitsValue_append] at h ⊢
  have hwhole : digitsValue l.whole < UInt64.size := (le_digitsValue _ _).trans_lt h
  have htake : takeDigits 0 l.whole = (digitsValue l.whole, []) := takeDigits_of_lt hwhole
  simp [Literal.scaled, htake, takeDigits_of_lt h]

theorem digitsValue_lt {ds : List Nat} (h : ∀ d ∈ ds, d < 10) :
    digitsValue ds < 10 ^ ds.length := by
  induction ds using List.reverseRecOn with
  | nil => simp [digitsValue]
  | append_singleton ds d ih =>
    have hinit := ih fun e he => h e (List.mem_append_left _ he)
    have hlast := h d (by simp)
    rw [digitsValue_append, List.length_append, List.length_singleton, Nat.pow_succ]
    simp only [List.foldl_cons, List.foldl_nil]
    omega

theorem digitsValue_zeros (k : Nat) (ds : List Nat) :
    digitsValue (List.replicate k 0 ++ ds) = digitsValue ds := by
  have hzeros : digitsValue (List.replicate k 0) = 0 := by
    induction k with
    | zero => rfl
    | succ k ih => simpa [digitsValue, List.replicate_succ] using ih
  rw [digitsValue_append, hzeros, digitsValue]

/-- Digits with zeros after them fit 64 bits if there are so few. -/
theorem digitsValue_padded_lt {ds : List Nat} (hds : ∀ d ∈ ds, d < 10) {k : Nat}
    (hfew : ds.length + k ≤ 18) :
    digitsValue (ds ++ List.replicate k 0 ++ [0]) < UInt64.size := by
  have hlt : digitsValue (ds ++ List.replicate k 0 ++ [0]) <
      10 ^ (ds ++ List.replicate k 0 ++ [0]).length := by
    refine digitsValue_lt fun e he => ?_
    simp only [List.mem_append, List.mem_replicate, List.mem_singleton] at he
    rcases he with (he | he) | he
    · exact hds e he
    · omega
    · omega
  have hlength : (ds ++ List.replicate k 0 ++ [0]).length ≤ 19 := by
    simp
    omega
  exact hlt.trans_le ((Nat.pow_le_pow_right (by decide) hlength).trans (by decide))

theorem length_digitsOf_le {d : Nat} (hd : d < UInt64.size) : (digitsOf d).length ≤ 20 := by
  rw [length_digitsOf, decimalDigits, Nat.length_toDigits_le_iff (by decide) (by decide)]
  exact hd.trans (by decide)

/-! ## Decimals are read -/

theorem isSome_toFloat?_of_neg {significand : Nat} {e : Int} (he : e < 0) (minus : Bool) :
    (Scaled.toFloat? ⟨significand, e⟩ minus).isSome = true := by
  rw [Scaled.toFloat?, Option.isSome_map]
  exact isSome_scaleFloat?_of_neg 4 he

/-- A literal with a fraction and without exponent is scaled down. -/
theorem isSome_ofLiteral?_of_fraction {minus : Bool} {whole ds : List Nat} (hne : ds ≠ [])
    (hlt : digitsValue (whole ++ ds) < UInt64.size) :
    (Number.ofLiteral? ⟨minus, whole, some ds, none⟩).isSome = true := by
  have hpos := List.length_pos_iff.mpr hne
  have hscaled := Literal.scaled_of_lt (l := ⟨minus, whole, some ds, none⟩) hlt
  simp only [Option.getD_some] at hscaled
  simp only [Number.ofLiteral?, hscaled]
  exact isSome_toFloat?_of_neg (by omega) minus

/-- A literal with an exponent is scaled by the exponent less its fraction digits. -/
theorem ofLiteral?_of_exponent {minus down : Bool} {whole : List Nat} {fraction : Option (List Nat)}
    {e : Nat} (hlt : digitsValue (whole ++ fraction.getD []) < UInt64.size) (he : e < 2 ^ 31) :
    Number.ofLiteral? ⟨minus, whole, fraction, some (down, digitsOf e)⟩ =
      Scaled.toFloat? ⟨digitsValue (whole ++ fraction.getD []),
        -((fraction.getD []).length : Int) + if down then -(e : Int) else e⟩ minus := by
  have hscaled := Literal.scaled_of_lt (l := ⟨minus, whole, fraction, some (down, digitsOf e)⟩) hlt
  have hsmall : e < UInt32.size / 2 := he
  cases fraction <;> simp [Number.ofLiteral?, hscaled, digitsValue_digitsOf, hsmall]

/-- A literal with an exponent is read if its digits can be scaled to where its point belongs. -/
theorem isSome_ofLiteral?_of_exponent {minus : Bool} {d : Nat} {k : Int} (hd : d < UInt64.size)
    (hlow : -(2 ^ 30) ≤ k) (hhigh : k ≤ 2 ^ 30)
    (hscale : (scaleFloat? 4 (UInt64.ofNat d).toFloat k).isSome = true)
    {whole : List Nat} {fraction : Option (List Nat)}
    (hdigits : whole ++ fraction.getD [] = digitsOf d)
    {e : Int} (he : e = ((fraction.getD []).length : Int) + k)
    (hfits : (fraction.getD []).length ≤ 20) :
    (Number.ofLiteral? ⟨minus, whole, fraction, some (e < 0, digitsOf e.natAbs)⟩).isSome =
      true := by
  have hvalue : digitsValue (whole ++ fraction.getD []) = d := by
    rw [hdigits, digitsValue_digitsOf]
  have hsum : -((fraction.getD []).length : Int) +
      (if decide (e < 0) = true then -(e.natAbs : Int) else e.natAbs) = k := by
    split_ifs with hneg
    · have hneg' := of_decide_eq_true hneg
      omega
    · have hpos := of_decide_eq_false (Bool.eq_false_iff.mpr hneg)
      omega
  rw [ofLiteral?_of_exponent (by rwa [hvalue]) (by omega), hvalue, hsum, Scaled.toFloat?,
    Option.isSome_map]
  exact hscale

/-- The shortest decimal of a number is read. -/
theorem isSome_ofLiteral?_decimalLiteral {b : Decimal.Binary} (hb : b.Positive) (minus : Bool) :
    (Number.ofLiteral? (decimalLiteral minus (Decimal.shortest b).1
      (Decimal.shortest b).2)).isSome = true := by
  obtain ⟨hpos, hlt, hlow, hhigh, -⟩ := Decimal.short_shortest hb
  have hscale := isSome_scaleFloat?_shortest hb
  generalize Decimal.shortest b = r at *
  obtain ⟨d, k⟩ := r
  dsimp only at *
  have hdigits := digits_digitsOf d
  have hvalue : digitsValue (digitsOf d) < UInt64.size := by
    rw [digitsValue_digitsOf]
    exact hlt
  have hlength : 0 < (digitsOf d).length := List.length_pos_iff.mpr hdigits.ne_nil
  have hlength' := length_digitsOf_le hlt
  have hscale' : (scaleFloat? 4 (UInt64.ofNat d).toFloat k).isSome = true := by
    rcases lt_or_ge k 0 with hk | hk
    exacts [isSome_scaleFloat?_of_neg 4 hk, hscale hk]
  simp only [decimalLiteral]
  split_ifs with hwhole hinside hsmall hone
  · exact isSome_ofLiteral?_of_fraction (by simp) (digitsValue_padded_lt hdigits.lt (by omega))
  · refine isSome_ofLiteral?_of_fraction ?_ (by rwa [List.take_append_drop])
    exact (hdigits.drop (by omega)).ne_nil
  · refine isSome_ofLiteral?_of_fraction (hdigits.prepend ?_).ne_nil ?_
    · intro e he
      rw [(List.mem_replicate.mp he).2]
      decide
    · rwa [List.singleton_append, ← List.cons_append, ← List.replicate_succ, digitsValue_zeros]
  · refine isSome_ofLiteral?_of_exponent (d := d) (k := k) hlt (by omega) (by omega) hscale'
      ?_ ?_ ?_
    · rw [Option.getD_none, List.append_nil, List.take_of_length_le (by omega)]
    · rw [Option.getD_none, List.length_nil]
      omega
    · simp
  · have hrest : ((digitsOf d).drop 1).length = (digitsOf d).length - 1 := List.length_drop
    refine isSome_ofLiteral?_of_exponent (d := d) (k := k) hlt (by omega) (by omega) hscale'
      ?_ ?_ ?_
    · rw [Option.getD_some, List.take_append_drop]
    · rw [Option.getD_some, hrest]
      omega
    · rw [Option.getD_some, hrest]
      omega

/-- The bits of a finite number other than zero stand for a positive number, up to its sign. -/
theorem positive_ofBits {bits : UInt64} (hfinite : (Number.float bits).finite = true)
    (hne : (Decimal.ofBits bits).significand ≠ 0) : (Decimal.ofBits bits).Positive := by
  have hmax : bits.toNat / 2 ^ 52 % 2048 ≠ 2047 := of_decide_eq_true hfinite
  have hpow : Nat.pow 2 52 = 2 ^ 52 := rfl
  simp only [Decimal.ofBits, hpow] at hne ⊢
  split_ifs at hne ⊢ with hzero
  · dsimp only at hne
    exact ⟨by dsimp only; omega, by dsimp only; omega, le_rfl, by dsimp only; omega⟩
  · exact ⟨by dsimp only; omega, by dsimp only; omega, by dsimp only; omega, by dsimp only; omega⟩

/-! ## Numbers are read again -/

/-- The literal of an integer stands for it. -/
theorem ofLiteral?_literal {n : Number} (hn : n.integral = true) :
    Number.ofLiteral? n.literal = some n := by
  cases n with
  | natural n =>
    have hlt : n.toNat < UInt64.size := n.toNat_lt_size
    simp [Number.literal, Number.ofLiteral?, digitsValue_digitsOf, hlt]
  | negative n =>
    have hlt : n.toNat < UInt64.size / 2 := of_decide_eq_true hn
    have hle : n.toNat + 1 ≤ UInt64.size / 2 := by omega
    simp [Number.literal, Number.ofLiteral?, digitsValue_digitsOf, hle]
  | float bits => cases hn

/-- An integer is read as itself. -/
theorem Number.reread_of_integral {n : Number} (hn : n.integral = true) : n.reread = n := by
  rw [reread, ofLiteral?_literal hn]
  rfl

theorem Number.finite_of_integral {n : Number} (hn : n.integral = true) : n.finite = true := by
  cases n with
  | natural n => rfl
  | negative n => exact hn
  | float bits => cases hn

/-- A finite number can be written. -/
theorem Number.wellFormed_literal {n : Number} (hn : n.finite = true) : n.literal.WellFormed := by
  cases n with
  | natural n =>
    refine ⟨digits_digitsOf _, fun h => ?_, by simp [literal], by simp [literal]⟩
    rcases Nat.eq_zero_or_pos n.toNat with hzero | hpos
    · simp only [literal, hzero]
      rfl
    · exact absurd h (head?_digitsOf hpos)
  | negative n =>
    exact ⟨digits_digitsOf _, fun h => absurd h (head?_digitsOf (Nat.succ_pos _)),
      by simp [literal], by simp [literal]⟩
  | float bits =>
    simp only [literal, floatLiteral]
    split_ifs with hzero
    · have hdigit : Digits [0] := ⟨by simp, by simp⟩
      exact ⟨hdigit, fun _ => rfl, fun _ h => Option.some.inj h ▸ hdigit, by simp⟩
    · exact wellFormed_decimalLiteral _ (Decimal.short_shortest (positive_ofBits hn hzero)).pos _

/-- A finite number is read again. -/
theorem ofLiteral_literal {n : Number} (hn : n.finite = true) :
    ofLiteral n.literal = .number n.reread := by
  have hread : (Number.ofLiteral? n.literal).isSome = true := by
    cases n with
    | natural n => rw [ofLiteral?_literal rfl]; rfl
    | negative n => rw [ofLiteral?_literal (n := .negative n) hn]; rfl
    | float bits =>
      simp only [Number.literal, floatLiteral]
      split_ifs with hzero
      · exact isSome_ofLiteral?_of_fraction (by simp) (by simp [digitsValue])
      · exact isSome_ofLiteral?_decimalLiteral (positive_ofBits hn hzero) _
  obtain ⟨m, hm⟩ := Option.isSome_iff_exists.mp hread
  rw [ofLiteral, Number.reread, hm]
  rfl

/-! ## Integers within 64 bits -/

/-- Whether the literal spells an integer within 64 bits: without fraction and exponent, below
`2 ^ 64`, and not below `-2 ^ 63`. -/
def Literal.isInteger (l : Literal) : Bool :=
  l.fraction.isNone && l.exponent.isNone &&
    if l.minus then digitsValue l.whole ≤ 2 ^ 63 else digitsValue l.whole < 2 ^ 64

/-- Whether every number literal of a text spells an integer within 64 bits. -/
def integersOnly (text : String) : Bool :=
  ((Token.scan text).getD []).all fun
    | .number l => l.isInteger
    | _ => true

/-- Minus zero is double-precision. -/
theorem toFloat?_minusZero :
    Scaled.toFloat? ⟨0, 0⟩ true = some (.float (UInt64.ofNat (2 ^ 63))) := by decide

theorem Number.reread_minusZero :
    (Number.float (UInt64.ofNat (2 ^ 63))).reread = .float (UInt64.ofNat (2 ^ 63)) := by
  decide

/-- An integer within 64 bits is written so that it is read as itself. -/
theorem Number.reread_of_isInteger {l : Literal} (hl : l.isInteger = true) {n : Number}
    (h : Number.ofLiteral? l = some n) : n.reread = n := by
  obtain ⟨minus, whole, fraction, exponent⟩ := l
  simp only [Literal.isInteger, Bool.and_eq_true, Option.isNone_iff_eq_none] at hl
  obtain ⟨⟨rfl, rfl⟩, hfits⟩ := hl
  have hsize : UInt64.size = 2 ^ 64 := rfl
  cases minus with
  | false =>
    have hlt : digitsValue whole < UInt64.size := of_decide_eq_true hfits
    simp only [Number.ofLiteral?, Bool.false_eq_true, if_false, if_pos hlt] at h
    obtain rfl := Option.some.inj h
    exact Number.reread_of_integral rfl
  | true =>
    have hle : digitsValue whole ≤ 2 ^ 63 := of_decide_eq_true hfits
    simp only [Number.ofLiteral?, if_true] at h
    split_ifs at h with hnegative
    · obtain rfl := Option.some.inj h
      refine Number.reread_of_integral (decide_eq_true ?_)
      rw [UInt64.toNat_ofNat_of_lt' (by omega)]
      omega
    · have hzero : digitsValue whole = 0 := by omega
      have hscaled := Literal.scaled_of_lt (l := ⟨true, whole, none, none⟩)
        (by rw [Option.getD_none, List.append_nil, hzero]; decide)
      rw [Option.getD_none, List.append_nil, hzero] at hscaled
      rw [hscaled, List.length_nil, Nat.cast_zero, neg_zero, toFloat?_minusZero] at h
      obtain rfl := Option.some.inj h
      exact Number.reread_minusZero

end AbiBindings.Json
