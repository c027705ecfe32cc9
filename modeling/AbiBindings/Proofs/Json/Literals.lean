import AbiBindings.Json.Token
import Mathlib.Tactic.SplitIfs

/-!
# Number literals

The text of a number literal is read as the literal, and the text of a number is that of a literal.

* `Literal.render`: the text of a literal.
* `Literal.WellFormed`: the literals that can be written: no part is empty, and only zero starts
  with the digit zero.
* `Number.literal`: the literal that a number is written as.

Results:
* `readNumber_render`: a written literal is read.
* `Number.render_literal`, `Number.wellFormed_literal`: a number is written as its literal.
-/

namespace AbiBindings.Json

/-! ## Digits -/

/-- The characters of digits. -/
def digitChars (ds : List Nat) : List Char := ds.map Nat.digitChar

/-- The digits of a number as values. -/
def digitsOf (n : Nat) : List Nat := (decimalDigits n).map digitValue

/-- Digits that can be written: at least one. -/
structure Digits (ds : List Nat) : Prop where
  ne_nil : ds ≠ []
  lt : ∀ d ∈ ds, d < 10

theorem digitValue_digitChar : ∀ d < 10, digitValue (Nat.digitChar d) = d := by decide

theorem isDigit_digitChar : ∀ d < 10, isDigit (Nat.digitChar d) = true := by decide

theorem isDigit_of_mem_decimalDigits {n : Nat} {c : Char} (h : c ∈ decimalDigits n) :
    isDigit c = true := by
  have hd := Nat.isDigit_of_mem_toDigits (by omega) (by omega) h
  simpa [isDigit, Char.isDigit, Char.le_def] using hd

/-- The value of a digit, below ten. -/
theorem digit_bounds {c : Char} (h : isDigit c = true) :
    digitValue c < 10 ∧ c.toNat = 48 + digitValue c := by
  simp only [isDigit, Bool.and_eq_true, decide_eq_true_eq, Char.le_def, UInt32.le_iff_toNat_le] at h
  have hlow : 48 ≤ c.toNat := h.1
  have hhigh : c.toNat ≤ 57 := h.2
  rw [digitValue]
  omega

theorem digitChar_digitValue {c : Char} (h : isDigit c = true) :
    Nat.digitChar (digitValue c) = c := by
  have hchar : ∀ d < 10, Nat.digitChar d = Char.ofNat (48 + d) := by decide
  obtain ⟨hlt, hvalue⟩ := digit_bounds h
  rw [hchar _ hlt, ← hvalue, Char.ofNat_toNat]

theorem digits_digitsOf (n : Nat) : Digits (digitsOf n) where
  ne_nil := by
    have hne : decimalDigits n ≠ [] := Nat.toDigits_ne_nil
    simpa [digitsOf] using hne
  lt := by
    simp only [digitsOf, List.mem_map]
    rintro d ⟨c, hc, rfl⟩
    exact (digit_bounds (isDigit_of_mem_decimalDigits hc)).1

theorem digitChars_digitsOf (n : Nat) : digitChars (digitsOf n) = decimalDigits n := by
  rw [digitChars, digitsOf, List.map_map]
  have hid : ∀ c ∈ decimalDigits n, (Nat.digitChar ∘ digitValue) c = id c := fun c hc =>
    digitChar_digitValue (isDigit_of_mem_decimalDigits hc)
  rw [List.map_congr_left hid, List.map_id]

/-- The digits of a number spell it. -/
theorem digitsValue_digitsOf (n : Nat) : digitsValue (digitsOf n) = n := by
  induction n using Nat.strongRecOn with
  | ind n ih =>
    rw [digitsOf, decimalDigits, Nat.toDigits_eq_if (by omega)]
    split
    · rename_i hn
      simp [digitsValue, digitValue_digitChar n hn]
    · have hlast := digitValue_digitChar (n % 10) (by omega)
      have hrest := ih (n / 10) (by omega)
      simp only [digitsOf, decimalDigits, digitsValue] at hrest
      simp only [digitsValue, List.map_append, List.foldl_append, hrest, List.map_cons,
        List.map_nil, List.foldl_cons, List.foldl_nil, hlast]
      omega

/-- A number other than zero does not start with the digit zero. -/
theorem head?_digitsOf {n : Nat} (hn : 0 < n) : (digitsOf n).head? ≠ some 0 := by
  induction n using Nat.strongRecOn with
  | ind n ih =>
    rw [digitsOf, decimalDigits, Nat.toDigits_eq_if (by omega)]
    split
    · rename_i hlt
      simpa [digitValue_digitChar n hlt] using Nat.ne_of_gt hn
    · have hrest := ih (n / 10) (by omega) (by omega)
      have hne : Nat.toDigits 10 (n / 10) ≠ [] := Nat.toDigits_ne_nil
      rwa [List.map_append, List.head?_append, Option.or_of_isSome (by simp [hne])]

/-! ## Reading literals -/

/-- Whether a text does not go on with a number literal. -/
def Ends (cs : List Char) : Prop :=
  ∀ c ∈ cs.head?, isDigit c = false ∧ c ≠ '.' ∧ c ≠ 'e' ∧ c ≠ 'E'

/-- The text of a fraction. -/
def fractionChars : Option (List Nat) → List Char
  | none => []
  | some ds => '.' :: digitChars ds

/-- The text of an exponent. -/
def exponentChars : Option (Bool × List Nat) → List Char
  | none => []
  | some (down, ds) => 'e' :: ((if down then ['-'] else []) ++ digitChars ds)

/-- The text of a literal. -/
def Literal.render (l : Literal) : List Char :=
  (if l.minus then ['-'] else []) ++ digitChars l.whole ++ fractionChars l.fraction ++
    exponentChars l.exponent

/-- The literals that can be written. -/
structure Literal.WellFormed (l : Literal) : Prop where
  whole : Digits l.whole
  zero : l.whole.head? = some 0 → l.whole = [0]
  fraction : ∀ ds ∈ l.fraction, Digits ds
  exponent : ∀ e ∈ l.exponent, Digits e.2

section Reading

variable {ds : List Nat} {rest : List Char}

theorem Digits.exists_cons (h : Digits ds) :
    ∃ c cs, digitChars ds = c :: cs ∧ isDigit c = true := by
  obtain ⟨d, rest, rfl⟩ := List.exists_cons_of_ne_nil h.ne_nil
  exact ⟨_, _, rfl, isDigit_digitChar d (h.lt d List.mem_cons_self)⟩

theorem spanDigits_digitChars (h : ∀ d ∈ ds, d < 10) (hr : ∀ c ∈ rest.head?, isDigit c = false) :
    spanDigits (digitChars ds ++ rest) = (ds, rest) := by
  have hall : ∀ c ∈ digitChars ds, isDigit c = true := by
    simp only [digitChars, List.mem_map]
    rintro c ⟨d, hd, rfl⟩
    exact isDigit_digitChar d (h d hd)
  have hstop : rest.takeWhile isDigit = [] ∧ rest.dropWhile isDigit = rest := by
    cases rest with
    | nil => exact ⟨rfl, rfl⟩
    | cons c rest =>
      have hc := hr c rfl
      simp [hc]
  have hvalues : (digitChars ds).map digitValue = ds := by
    rw [digitChars, List.map_map]
    have hid : ∀ d ∈ ds, (digitValue ∘ Nat.digitChar) d = id d := fun d hd =>
      digitValue_digitChar d (h d hd)
    rw [List.map_congr_left hid, List.map_id]
  rw [spanDigits, List.takeWhile_append_of_pos hall, List.dropWhile_append_of_pos hall, hstop.1,
    hstop.2, List.append_nil, hvalues]

theorem readWhole_digitChars (h : Digits ds) (hzero : ds.head? = some 0 → ds = [0])
    (hr : ∀ c ∈ rest.head?, isDigit c = false) :
    readWhole (digitChars ds ++ rest) = some (ds, rest) := by
  obtain ⟨d, ds', rfl⟩ := List.exists_cons_of_ne_nil h.ne_nil
  rcases Nat.eq_zero_or_pos d with rfl | hd
  · rw [hzero rfl]
    rfl
  · have hspan := spanDigits_digitChars h.lt hr
    have hdigit : ∀ d < 10, 0 < d → Nat.digitChar d ≠ '0' := by decide
    have hne := hdigit d (h.lt d List.mem_cons_self) hd
    rw [digitChars, List.map_cons, List.cons_append] at hspan ⊢
    rw [readWhole.eq_def]
    split
    · simp_all
    · rw [hspan]

theorem readFraction_fractionChars {fraction : Option (List Nat)} (h : ∀ ds ∈ fraction, Digits ds)
    (hr : ∀ c ∈ rest.head?, isDigit c = false ∧ c ≠ '.') :
    readFraction (fractionChars fraction ++ rest) = some (fraction, rest) := by
  cases fraction with
  | none =>
    rw [fractionChars, List.nil_append, readFraction.eq_def]
    split
    · exact absurd rfl (hr _ rfl).2
    · rfl
  | some ds =>
    have hds := h ds rfl
    rw [fractionChars, List.cons_append, readFraction,
      spanDigits_digitChars hds.lt fun c hc => (hr c hc).1]
    split
    · rename_i heq
      exact absurd (congrArg Prod.fst heq) hds.ne_nil
    · simp_all

theorem readExponent_exponentChars {exponent : Option (Bool × List Nat)}
    (h : ∀ e ∈ exponent, Digits e.2) (hr : Ends rest) :
    readExponent (exponentChars exponent ++ rest) = some (exponent, rest) := by
  cases exponent with
  | none =>
    cases rest with
    | nil => rfl
    | cons c rest =>
      have hc := (hr c rfl).2.2
      simp [exponentChars, readExponent, hc.1, hc.2]
  | some e =>
    obtain ⟨down, ds⟩ := e
    have hds : Digits ds := h _ rfl
    have hspan := spanDigits_digitChars hds.lt fun c hc => (hr c hc).1
    have hsign : readExponentSign ((if down then ['-'] else []) ++ digitChars ds ++ rest) =
        (down, digitChars ds ++ rest) := by
      cases down with
      | true => rfl
      | false =>
        obtain ⟨c, cs, hcs, hc⟩ := hds.exists_cons
        rw [hcs]
        simp only [Bool.false_eq_true, if_false, List.nil_append, List.cons_append]
        rw [readExponentSign.eq_def]
        split
        · rename_i heq
          rw [(List.cons.inj heq).1] at hc
          exact absurd hc (by decide)
        · rename_i heq
          rw [(List.cons.inj heq).1] at hc
          exact absurd hc (by decide)
        · rfl
    rw [exponentChars, List.cons_append, readExponent, if_pos (.inl rfl), hsign]
    simp only [hspan]
    split
    · rename_i heq
      exact absurd (congrArg Prod.fst heq) hds.ne_nil
    · simp_all

/-- A text that goes on with an exponent, or not with a literal at all. -/
theorem exponentChars_head? (exponent : Option (Bool × List Nat)) (hr : Ends rest) :
    ∀ c ∈ (exponentChars exponent ++ rest).head?, isDigit c = false ∧ c ≠ '.' := by
  cases exponent with
  | none => exact fun c hc => ⟨(hr c hc).1, (hr c hc).2.1⟩
  | some e =>
    rintro c hc
    obtain rfl : 'e' = c := by simpa [exponentChars] using hc
    decide

theorem fractionChars_head? (fraction : Option (List Nat)) {rest : List Char}
    (hr : ∀ c ∈ rest.head?, isDigit c = false ∧ c ≠ '.') :
    ∀ c ∈ (fractionChars fraction ++ rest).head?, isDigit c = false := by
  cases fraction with
  | none => exact fun c hc => (hr c hc).1
  | some ds =>
    rintro c hc
    obtain rfl : '.' = c := by simpa [fractionChars] using hc
    decide

/-- A written literal is read. -/
theorem readNumber_render {l : Literal} (h : l.WellFormed) (hr : Ends rest) :
    readNumber (l.render ++ rest) = some (l, rest) := by
  obtain ⟨minus, whole, fraction, exponent⟩ := l
  have hexponent := readExponent_exponentChars h.exponent hr
  have hends := exponentChars_head? exponent hr
  have hfraction := readFraction_fractionChars h.fraction hends
  have hwhole := readWhole_digitChars h.whole h.zero (fractionChars_head? fraction hends)
  have hunsigned : readUnsigned minus (digitChars whole ++ (fractionChars fraction ++
      (exponentChars exponent ++ rest))) = some (⟨minus, whole, fraction, exponent⟩, rest) := by
    simp [readUnsigned, hwhole, hfraction, hexponent]
  cases minus with
  | true => simpa [Literal.render, readNumber] using hunsigned
  | false =>
    obtain ⟨c, cs, hcs, hc⟩ := h.whole.exists_cons
    dsimp only at hcs
    simp only [Literal.render, Bool.false_eq_true, if_false, List.nil_append, List.append_assoc]
    rw [hcs] at hunsigned ⊢
    rw [readNumber.eq_def]
    split
    · rename_i heq
      rw [(List.cons.inj heq).1] at hc
      exact absurd hc (by decide)
    · exact hunsigned

/-- A literal starts with a digit or a minus sign. -/
theorem Literal.render_eq_cons {l : Literal} (h : l.WellFormed) :
    ∃ c cs, l.render = c :: cs ∧ (isDigit c = true ∨ c = '-') := by
  obtain ⟨minus, whole, fraction, exponent⟩ := l
  cases minus with
  | true => exact ⟨_, _, rfl, .inr rfl⟩
  | false =>
    obtain ⟨c, cs, hcs, hc⟩ := h.whole.exists_cons
    dsimp only at hcs
    refine ⟨c, cs ++ fractionChars fraction ++ exponentChars exponent, ?_, .inl hc⟩
    simp [render, hcs]

end Reading

/-! ## The literals of numbers -/

/-- The literal of a decimal `d * 10 ^ k`, positional or with an exponent. -/
def decimalLiteral (minus : Bool) (d : Nat) (k : Int) : Literal :=
  let ds := digitsOf d
  let point : Int := (ds.length : Int) + k
  if 0 ≤ k ∧ point ≤ 16 then ⟨minus, ds ++ List.replicate k.toNat 0, some [0], none⟩
  else if 0 < point ∧ point ≤ 16 then ⟨minus, ds.take point.toNat, some (ds.drop point.toNat), none⟩
  else if -5 < point ∧ point ≤ 0 then
    ⟨minus, [0], some (List.replicate (-point).toNat 0 ++ ds), none⟩
  else
    ⟨minus, ds.take 1, if ds.length = 1 then none else some (ds.drop 1),
      some (point - 1 < 0, digitsOf (point - 1).natAbs)⟩

/-- The literal of a double-precision number. -/
def floatLiteral (bits : UInt64) : Literal :=
  let b := Decimal.ofBits bits
  if b.significand = 0 then ⟨b.negative, [0], some [0], none⟩
  else decimalLiteral b.negative (Decimal.shortest b).1 (Decimal.shortest b).2

/-- The literal that a number is written as. -/
def Number.literal : Number → Literal
  | .natural n => ⟨false, digitsOf n.toNat, none, none⟩
  | .negative n => ⟨true, digitsOf (n.toNat + 1), none, none⟩
  | .float bits => floatLiteral bits

theorem length_digitsOf (n : Nat) : (digitsOf n).length = (decimalDigits n).length := by
  simp [digitsOf]

theorem digitChars_append (ds es : List Nat) :
    digitChars (ds ++ es) = digitChars ds ++ digitChars es :=
  List.map_append

theorem digitChars_replicate (k : Nat) : digitChars (List.replicate k 0) = List.replicate k '0' :=
  List.map_replicate

theorem digitChars_take (d n : Nat) :
    digitChars ((digitsOf d).take n) = (decimalDigits d).take n := by
  rw [digitChars, List.map_take, ← digitChars, digitChars_digitsOf]

theorem digitChars_drop (d n : Nat) :
    digitChars ((digitsOf d).drop n) = (decimalDigits d).drop n := by
  rw [digitChars, List.map_drop, ← digitChars, digitChars_digitsOf]

/-- The digits of a decimal with an exponent: one digit, and a point before any others. -/
theorem render_withExponent (d : Nat) (exponent : List Char) :
    digitChars ((digitsOf d).take 1) ++
        fractionChars (if (digitsOf d).length = 1 then none else some ((digitsOf d).drop 1)) ++
          'e' :: exponent =
      match decimalDigits d with
      | [c] => c :: 'e' :: exponent
      | c :: rest => c :: '.' :: rest ++ 'e' :: exponent
      | [] => [] := by
  have hne : decimalDigits d ≠ [] := Nat.toDigits_ne_nil
  rw [digitChars_take, length_digitsOf]
  split_ifs with hone
  · obtain ⟨c, hc⟩ := List.length_eq_one_iff.mp hone
    rw [hc]
    rfl
  · rw [fractionChars, digitChars_drop]
    match decimalDigits d, hne, hone with
    | [c], _, hone => exact absurd rfl hone
    | c :: c' :: rest, _, _ => rfl

theorem render_decimalLiteral (minus : Bool) (d : Nat) (k : Int) :
    (decimalLiteral minus d k).render = (if minus then ['-'] else []) ++ renderDecimal d k := by
  have hzero : digitChars [0] = ['0'] := rfl
  have hlength := length_digitsOf d
  generalize hsign : (if minus then ['-'] else []) = sign
  simp only [decimalLiteral, renderDecimal, ← hlength]
  generalize hpoint : ((digitsOf d).length : Int) + k = point
  by_cases hwhole : 0 ≤ k ∧ point ≤ 16
  · rw [if_pos hwhole, if_pos hwhole]
    simp [Literal.render, hsign, fractionChars, exponentChars, digitChars_append,
      digitChars_digitsOf, digitChars_replicate, hzero]
  rw [if_neg hwhole, if_neg hwhole]
  by_cases hinside : 0 < point ∧ point ≤ 16
  · rw [if_pos hinside, if_pos hinside]
    simp [Literal.render, hsign, fractionChars, exponentChars, digitChars_take, digitChars_drop]
  rw [if_neg hinside, if_neg hinside]
  by_cases hsmall : -5 < point ∧ point ≤ 0
  · rw [if_pos hsmall, if_pos hsmall]
    simp [Literal.render, hsign, fractionChars, exponentChars, digitChars_append,
      digitChars_digitsOf, digitChars_replicate, hzero]
  rw [if_neg hsmall, if_neg hsmall]
  have hexponent := render_withExponent d
    ((if point - 1 < 0 then ['-'] else []) ++ decimalDigits (point - 1).natAbs)
  refine Eq.trans ?_ (congrArg (sign ++ ·) hexponent)
  simp [Literal.render, hsign, exponentChars, digitChars_digitsOf]

theorem Number.render_literal (n : Number) : n.literal.render = n.render := by
  cases n with
  | natural n =>
    simp [literal, Literal.render, fractionChars, exponentChars, digitChars_digitsOf, render]
  | negative n =>
    simp [literal, Literal.render, fractionChars, exponentChars, digitChars_digitsOf, render]
  | float bits =>
    simp only [literal, floatLiteral, render, renderFloat]
    by_cases hzero : (Decimal.ofBits bits).significand = 0
    · rw [if_pos hzero, if_pos hzero]
      simp [Literal.render, fractionChars, exponentChars, digitChars]
    · rw [if_neg hzero, if_neg hzero]
      exact render_decimalLiteral _ _ _

theorem Digits.append {ds es : List Nat} (hds : Digits ds) (hes : ∀ d ∈ es, d < 10) :
    Digits (ds ++ es) where
  ne_nil := by simp [hds.ne_nil]
  lt d hd := (List.mem_append.mp hd).elim (hds.lt d) (hes d)

theorem Digits.prepend {ds es : List Nat} (hds : Digits ds) (hes : ∀ d ∈ es, d < 10) :
    Digits (es ++ ds) where
  ne_nil := by simp [hds.ne_nil]
  lt d hd := (List.mem_append.mp hd).elim (hes d) (hds.lt d)

theorem Digits.take {ds : List Nat} (hds : Digits ds) {n : Nat} (hn : 0 < n) :
    Digits (ds.take n) where
  ne_nil := by
    have hpos := List.length_pos_iff.mpr hds.ne_nil
    exact List.ne_nil_of_length_pos (by rw [List.length_take]; omega)
  lt d hd := hds.lt d (List.mem_of_mem_take hd)

theorem Digits.drop {ds : List Nat} (hds : Digits ds) {n : Nat} (hn : n < ds.length) :
    Digits (ds.drop n) where
  ne_nil := by simpa using hn
  lt d hd := hds.lt d (List.mem_of_mem_drop hd)

theorem wellFormed_decimalLiteral (minus : Bool) {d : Nat} (hd : 0 < d) (k : Int) :
    (decimalLiteral minus d k).WellFormed := by
  have hdigits := digits_digitsOf d
  have hhead := head?_digitsOf hd
  have hlength : 0 < (digitsOf d).length := List.length_pos_iff.mpr hdigits.ne_nil
  have hzero : Digits [0] := ⟨by simp, by simp⟩
  have hzeros : ∀ n, ∀ d ∈ List.replicate n 0, d < 10 := fun n d hd => by
    rw [(List.mem_replicate.mp hd).2]
    decide
  have htake : ∀ n, 0 < n → ((digitsOf d).take n).head? ≠ some 0 := fun n hn => by
    rwa [List.head?_take, if_neg (Nat.ne_of_gt hn)]
  simp only [decimalLiteral]
  split_ifs with hwhole hinside hsmall hone
  · refine
      ⟨hdigits.append (hzeros _), fun h => absurd h ?_, fun _ h => Option.some.inj h ▸ hzero, nofun⟩
    rwa [List.head?_append, Option.or_of_isSome (by simp [hdigits.ne_nil])]
  · exact ⟨hdigits.take (by omega), fun h => absurd h (htake _ (by omega)),
      fun _ h => Option.some.inj h ▸ hdigits.drop (by omega), nofun⟩
  · exact ⟨hzero, fun _ => rfl, fun _ h => Option.some.inj h ▸ hdigits.prepend (hzeros _), nofun⟩
  · exact ⟨hdigits.take Nat.one_pos, fun h => absurd h (htake 1 Nat.one_pos), nofun,
      fun _ h => Option.some.inj h ▸ digits_digitsOf _⟩
  · exact ⟨hdigits.take Nat.one_pos, fun h => absurd h (htake 1 Nat.one_pos),
      fun _ h => Option.some.inj h ▸ hdigits.drop (by omega),
      fun _ h => Option.some.inj h ▸ digits_digitsOf _⟩

end AbiBindings.Json
