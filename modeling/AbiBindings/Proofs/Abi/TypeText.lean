import AbiBindings.Abi.Document
import Mathlib.Data.List.Induction
import Mathlib.Data.String.Basic

/-!
# Texts of types

A type text in canonical spelling is a word with dimensions behind it, and is read as the type that
is written that way.

* `dimensions`, `Ty.withDimensions`: the text of dimensions, and the arrays that they make.
* `Ty.Keyword`: the words of elementary types in canonical spelling.
* `Ty.Alias`: the two words that are read as a type of another spelling.
* `Ty.Elementary`: a word that is read as a type without components.

Results:
* `Ty.ofText?_dimensions`: a word with dimensions is read as arrays of what the word is read as.
* `Ty.canonical_withDimensions`: arrays are written as their items with dimensions behind them.
-/

namespace AbiBindings.Abi

/-! ## Numbers -/

theorem decimalDigit?_digitChar : ∀ d < 10, Text.decimalDigit? (Nat.digitChar d) = some d := by
  decide

theorem decimalFrom?_append (n : Nat) (cs ds : List Char) :
    Text.decimalFrom? n (cs ++ ds) = (Text.decimalFrom? n cs).bind (Text.decimalFrom? · ds) := by
  induction cs generalizing n with
  | nil => rfl
  | cons c cs ih =>
    rw [List.cons_append, Text.decimalFrom?, Text.decimalFrom?]
    cases Text.decimalDigit? c with
    | none => rfl
    | some d => exact ih _

/-- The digits of a number are read as the number. -/
theorem decimalFrom?_toDigits (n : Nat) : Text.decimalFrom? 0 (Nat.toDigits 10 n) = some n := by
  induction n using Nat.strongRecOn with
  | ind n ih =>
    rw [Nat.toDigits_eq_if (by omega)]
    split
    · rename_i hn
      simp [Text.decimalFrom?, decimalDigit?_digitChar n hn]
    · have hrest := ih (n / 10) (by omega)
      have hlast := decimalDigit?_digitChar (n % 10) (by omega)
      rw [decimalFrom?_append, hrest, Option.bind_some, Text.decimalFrom?, hlast]
      show some (10 * (n / 10) + n % 10) = some n
      rw [Nat.div_add_mod]

theorem isDigit_of_mem_toDigits {n : Nat} {c : Char} (h : c ∈ Nat.toDigits 10 n) :
    c.isDigit = true :=
  Nat.isDigit_of_mem_toDigits (by omega) (by omega) h

/-- Digits do not begin or end a dimension. -/
theorem bracket_notMem_toDigits (n : Nat) :
    '[' ∉ Nat.toDigits 10 n ∧ ']' ∉ Nat.toDigits 10 n := by
  constructor
  · intro h
    exact absurd (isDigit_of_mem_toDigits h) (by decide)
  · intro h
    exact absurd (isDigit_of_mem_toDigits h) (by decide)

/-- The digits of a number are read as it if it is below the limit. -/
theorem naturalBelow?_toDigits (limit n : Nat) :
    Text.naturalBelow? limit (Nat.toDigits 10 n) = (some n).filter (· < limit) := by
  have hread := decimalFrom?_toDigits n
  obtain ⟨c, cs, hcs⟩ := List.exists_cons_of_ne_nil (Nat.toDigits_ne_nil (b := 10) (n := n))
  have hc : c.isDigit = true := isDigit_of_mem_toDigits (hcs ▸ List.mem_cons_self)
  have hplus : c ≠ '+' := by
    rintro rfl
    exact absurd hc (by decide)
  rw [hcs] at hread ⊢
  unfold Text.naturalBelow?
  split
  · rename_i heq
    exact absurd (List.cons.inj heq).1 hplus
  · dsimp only
    rw [hread]

/-- A number below `2 ^ 64` is read from its digits. -/
theorem natural?_toDigits {n : Nat} (h : n < UInt64.size) :
    Text.natural? (Nat.toDigits 10 n) = some n := by
  rw [Text.natural?, naturalBelow?_toDigits, Option.filter_some, if_pos (by simpa using h)]

/-! ## Dimensions -/

/-- The text of a dimension: empty brackets, or brackets around a size. -/
def dimension : Option Nat → List Char
  | none => ['[', ']']
  | some n => '[' :: (Nat.toDigits 10 n ++ [']'])

/-- The text of dimensions, the innermost first. -/
def dimensions (ds : List (Option Nat)) : List Char := ds.flatMap dimension

/-- Arrays of a type, one inside the other; the first dimension is the innermost. -/
def Ty.withDimensions (t : Ty) (ds : List (Option Nat)) : Ty :=
  ds.foldl (fun item d =>
    match d with
    | none => .array item
    | some n => .farray item n) t

theorem length_le_dimensions (ds : List (Option Nat)) : ds.length ≤ (dimensions ds).length := by
  induction ds with
  | nil => exact Nat.zero_le _
  | cons d ds ih =>
    have hpos : 0 < (dimension d).length := by cases d <;> simp [dimension]
    rw [dimensions] at ih ⊢
    rw [List.flatMap_cons, List.length_append, List.length_cons]
    omega

theorem dimensions_concat (ds : List (Option Nat)) (d : Option Nat) :
    dimensions (ds ++ [d]) = dimensions ds ++ dimension d := by
  simp [dimensions]

theorem Ty.withDimensions_concat (t : Ty) (ds : List (Option Nat)) (d : Option Nat) :
    t.withDimensions (ds ++ [d]) =
      match d with
      | none => .array (t.withDimensions ds)
      | some n => .farray (t.withDimensions ds) n := by
  rw [withDimensions, List.foldl_append]
  rfl

/-- The last bracket of a text that ends in a dimension. -/
theorem lastDimension?_append {base inside : List Char} (h : '[' ∉ inside) :
    lastDimension? (base ++ '[' :: (inside ++ [']'])) = some (base, inside) := by
  have hall : ∀ c ∈ inside.reverse, decide (c ≠ '[') = true := by
    intro c hc
    have hmem : c ∈ inside := List.mem_reverse.mp hc
    exact decide_eq_true fun heq => h (heq ▸ hmem)
  have hreverse : (base ++ '[' :: (inside ++ [']'])).reverse =
      ']' :: (inside.reverse ++ '[' :: base.reverse) := by
    simp
  rw [lastDimension?, hreverse]
  simp only [List.dropWhile_append_of_pos hall, List.takeWhile_append_of_pos hall]
  rw [List.dropWhile_cons_of_neg (by decide), List.takeWhile_cons_of_neg (by decide)]
  simp

theorem Ty.ofChars?_dimension {fuel : Nat} {base : List Char} {t : Ty} {d : Option Nat}
    (hd : ∀ n ∈ d, n < UInt64.size) (h : Ty.ofChars? fuel base = some t) :
    Ty.ofChars? (fuel + 1) (base ++ dimension d) = some (t.withDimensions [d]) := by
  cases d with
  | none =>
    have hnil : '[' ∉ ([] : List Char) := List.not_mem_nil
    have hlast : lastDimension? (base ++ dimension none) = some (base, []) :=
      lastDimension?_append hnil
    have hend : (base ++ dimension none).getLast? = some ']' := by simp [dimension]
    rw [Ty.ofChars?, hend]
    simp [hlast, h, withDimensions]
  | some n =>
    have hlast : lastDimension? (base ++ dimension (some n)) = some (base, Nat.toDigits 10 n) :=
      lastDimension?_append (bracket_notMem_toDigits n).1
    have hend : (base ++ dimension (some n)).getLast? = some ']' := by
      rw [dimension, ← List.cons_append, ← List.append_assoc]
      exact List.getLast?_concat
    have hsize := natural?_toDigits (hd n rfl)
    obtain ⟨c, cs, hcs⟩ := List.exists_cons_of_ne_nil (Nat.toDigits_ne_nil (b := 10) (n := n))
    rw [Ty.ofChars?, hend]
    rw [hcs] at hlast hsize
    simp [hlast, hsize, h, withDimensions]

/-- A text that does not end in a bracket and is read as a type is read as arrays of this type when
dimensions stand behind it. -/
theorem Ty.ofChars?_dimensions {fuel : Nat} {word : List Char} {t : Ty} {ds : List (Option Nat)}
    (hds : ∀ d ∈ ds, ∀ n ∈ d, n < UInt64.size) (h : Ty.ofChars? fuel word = some t) :
    Ty.ofChars? (fuel + ds.length) (word ++ dimensions ds) = some (t.withDimensions ds) := by
  induction ds using List.reverseRecOn with
  | nil => simpa [dimensions, withDimensions] using h
  | append_singleton ds d ih =>
    have hrest := ih fun d hd => hds d (List.mem_append_left _ hd)
    have hlast := Ty.ofChars?_dimension (hds d (by simp)) hrest
    rw [dimensions_concat, ← List.append_assoc, List.length_append, List.length_singleton,
      ← Nat.add_assoc, hlast, withDimensions_concat]
    cases d <;> rfl

/-- A word, or anything else that is read in one level, is read as arrays when dimensions stand
behind it. -/
theorem Ty.ofText?_dimensions {word : String} {t : Ty} {ds : List (Option Nat)}
    (hds : ∀ d ∈ ds, ∀ n ∈ d, n < UInt64.size)
    (h : ∀ fuel, Ty.ofChars? (fuel + 1) word.toList = some t) :
    Ty.ofText? (word ++ String.ofList (dimensions ds)) = some (t.withDimensions ds) := by
  have hlength := length_le_dimensions ds
  obtain ⟨fuel, hfuel⟩ : ∃ fuel,
      2 * (word ++ String.ofList (dimensions ds)).length + 2 = fuel + 1 + ds.length := by
    refine ⟨2 * (word ++ String.ofList (dimensions ds)).length + 1 - ds.length, ?_⟩
    rw [String.length_append, String.length_ofList]
    omega
  rw [Ty.ofText?, hfuel, String.toList_append, String.toList_ofList]
  exact Ty.ofChars?_dimensions hds (h fuel)

/-! ## Words -/

/-- The words of elementary types in canonical spelling. -/
inductive Ty.Keyword : String → Ty → Prop
  | address : Keyword "address" .address
  | bool : Keyword "bool" .bool
  | string : Keyword "string" .string
  | bytes : Keyword "bytes" .bytes
  | uint {n : Nat} (h : n < UInt64.size) : Keyword ("uint" ++ toString n) (.uint n)
  | int {n : Nat} (h : n < UInt64.size) : Keyword ("int" ++ toString n) (.int n)
  | fixed {n : Nat} (h : n < UInt64.size) : Keyword ("bytes" ++ toString n) (.fixed n)

/-- The words that are read as a type of another spelling. -/
inductive Ty.Alias : String → Ty → Prop
  | uint : Alias "uint" (.uint 256)
  | int : Alias "int" (.int 256)

/-- A word that is read as a type without components, wherever it stands. -/
structure Ty.Elementary (word : String) (t : Ty) : Prop where
  read : Ty.ofWord? word.toList = some t
  first : ∃ c cs, word.toList = c :: cs ∧ c ≠ 't'
  last : (word.toList.getLast?.all fun c => c ≠ ')' ∧ c ≠ ']') = true
  whole : ∀ types, fillTuple? types t = some t

theorem Ty.Keyword.canonical {word : String} {t : Ty} (h : Ty.Keyword word t) :
    t.canonical = word := by
  cases h <;> rfl

/-- A word with a digit is none of the words that stand for a type as they are. -/
theorem Ty.ofWord?_of_digit {cs : List Char} {d : Char} (hd : d ∈ cs) (hdigit : d.isDigit = true) :
    Ty.ofWord? cs =
      match Text.afterStart? "int".toList cs, Text.afterStart? "uint".toList cs,
        Text.afterStart? "bytes".toList cs with
      | some digits, _, _ => (Text.natural? digits).map .int
      | _, some digits, _ => (Text.natural? digits).map .uint
      | _, _, some digits => (Text.natural? digits).map .fixed
      | none, none, none => some (.uint 8) := by
  have hplain : ∀ w ∈ ["address", "bytes", "bool", "string", "int", "uint", "tuple"],
      String.ofList cs ≠ w := by
    intro w hw heq
    have hletters : ∀ w ∈ ["address", "bytes", "bool", "string", "int", "uint", "tuple"],
        (w.toList.all fun c => !c.isDigit) = true := by decide
    have hmem : d ∈ w.toList := by rwa [← heq, String.toList_ofList]
    have hletter := List.all_eq_true.mp (hletters w hw) d hmem
    simp [hdigit] at hletter
  rw [ofWord?]
  split
  case h_8 => rfl
  all_goals rename_i heq; exact absurd heq (hplain _ (by simp))

theorem toList_append_toString (word : String) (n : Nat) :
    (word ++ toString n).toList = word.toList ++ Nat.toDigits 10 n := by
  rw [String.toList_append, Nat.toString_eq_ofList_toDigits, String.toList_ofList]

theorem Ty.Keyword.ofWord? {word : String} {t : Ty} (h : Ty.Keyword word t) :
    Ty.ofWord? word.toList = some t := by
  have hdigit : ∀ n, ∃ d ∈ Nat.toDigits 10 n, d.isDigit = true := by
    intro n
    obtain ⟨d, ds, hds⟩ := List.exists_cons_of_ne_nil (Nat.toDigits_ne_nil (b := 10) (n := n))
    have hd : d ∈ Nat.toDigits 10 n := hds ▸ List.mem_cons_self
    exact ⟨d, hd, isDigit_of_mem_toDigits hd⟩
  cases h with
  | @uint n hn =>
    obtain ⟨d, hd, hdigit⟩ := hdigit n
    rw [toList_append_toString, Ty.ofWord?_of_digit (List.mem_append_right _ hd) hdigit]
    simp [Text.afterStart?, natural?_toDigits hn]
  | @int n hn =>
    obtain ⟨d, hd, hdigit⟩ := hdigit n
    rw [toList_append_toString, Ty.ofWord?_of_digit (List.mem_append_right _ hd) hdigit]
    simp [Text.afterStart?, natural?_toDigits hn]
  | @fixed n hn =>
    obtain ⟨d, hd, hdigit⟩ := hdigit n
    rw [toList_append_toString, Ty.ofWord?_of_digit (List.mem_append_right _ hd) hdigit]
    simp [Text.afterStart?, natural?_toDigits hn]
  | _ => decide

theorem Ty.Alias.ofWord? {word : String} {t : Ty} (h : Ty.Alias word t) :
    Ty.ofWord? word.toList = some t := by
  cases h <;> decide

/-- A word that does not end in a bracket or parenthesis is read as a word. -/
theorem Ty.ofChars?_word {cs : List Char}
    (h : (cs.getLast?.all fun c => c ≠ ')' ∧ c ≠ ']') = true) (fuel : Nat) :
    Ty.ofChars? (fuel + 1) cs = Ty.ofWord? cs := by
  rw [Ty.ofChars?]
  split
  · rename_i hlast
    simp [hlast] at h
  · rename_i hlast
    simp [hlast] at h
  · rfl

theorem last_append_toString (word : String) (n : Nat) :
    ((word ++ toString n).toList.getLast?.all fun c => c ≠ ')' ∧ c ≠ ']') = true := by
  rw [toList_append_toString, List.getLast?_append_of_ne_nil _ Nat.toDigits_ne_nil,
    Option.all_eq_true]
  intro c hc
  have hdigit := isDigit_of_mem_toDigits (List.mem_of_getLast? hc)
  rw [decide_eq_true_eq]
  constructor
  · rintro rfl
    exact absurd hdigit (by decide)
  · rintro rfl
    exact absurd hdigit (by decide)

theorem Ty.Keyword.elementary {word : String} {t : Ty} (h : Ty.Keyword word t) :
    Ty.Elementary word t where
  read := h.ofWord?
  first := by
    cases h with
    | uint | int | fixed =>
      rw [toList_append_toString]
      exact ⟨_, _, rfl, by decide⟩
    | _ => exact ⟨_, _, rfl, by decide⟩
  last := by
    cases h with
    | uint | int | fixed => exact last_append_toString _ _
    | _ => decide
  whole := by
    intro types
    cases h <;> rfl

theorem Ty.Alias.elementary {word : String} {t : Ty} (h : Ty.Alias word t) :
    Ty.Elementary word t where
  read := h.ofWord?
  first := by cases h <;> exact ⟨_, _, rfl, by decide⟩
  last := by cases h <;> decide
  whole := by
    intro types
    cases h <;> rfl

/-- A word with dimensions is read as arrays of the type of the word. -/
theorem Ty.Elementary.ofText? {word : String} {t : Ty} {ds : List (Option Nat)}
    (h : Ty.Elementary word t) (hsizes : ∀ d ∈ ds, ∀ n ∈ d, n < UInt64.size) :
    Ty.ofText? (word ++ String.ofList (dimensions ds)) = some (t.withDimensions ds) := by
  refine Ty.ofText?_dimensions hsizes fun fuel => ?_
  rw [Ty.ofChars?_word h.last, h.read]

theorem Ty.ofText?_tuple {ds : List (Option Nat)} (hsizes : ∀ d ∈ ds, ∀ n ∈ d, n < UInt64.size) :
    Ty.ofText? ("tuple" ++ String.ofList (dimensions ds)) =
      some ((Ty.tuple []).withDimensions ds) := by
  refine Ty.ofText?_dimensions hsizes fun fuel => ?_
  rw [Ty.ofChars?_word (by decide)]
  decide

/-! ## Canonical texts -/

/-- Arrays are written as their items with dimensions behind them. -/
theorem Ty.canonical_withDimensions (t : Ty) (ds : List (Option Nat)) :
    (t.withDimensions ds).canonical = t.canonical ++ String.ofList (dimensions ds) := by
  induction ds using List.reverseRecOn with
  | nil => simp [withDimensions, dimensions]
  | append_singleton ds d ih =>
    rw [withDimensions_concat, dimensions_concat, String.ofList_append, ← String.append_assoc, ← ih]
    cases d with
    | none => rfl
    | some n =>
      have hsize : String.ofList (dimension (some n)) = "[" ++ toString n ++ "]" := by
        rw [dimension, Nat.toString_eq_ofList_toDigits, String.ofList_cons, String.ofList_append]
        rfl
      rw [hsize, ← String.append_assoc, ← String.append_assoc]
      rfl

/-- Components go through the dimensions to the tuple. -/
theorem fillTuple?_withDimensions (types : Option (List Ty)) (t : Ty) (ds : List (Option Nat)) :
    fillTuple? types (t.withDimensions ds) = (fillTuple? types t).map (·.withDimensions ds) := by
  induction ds using List.reverseRecOn with
  | nil => simp [Ty.withDimensions]
  | append_singleton ds d ih =>
    rw [Ty.withDimensions_concat]
    cases d with
    | none =>
      simp only [fillTuple?, ih, Option.map_map]
      congr 1
      funext t'
      exact (Ty.withDimensions_concat t' ds none).symm
    | some n =>
      simp only [fillTuple?, ih, Option.map_map]
      congr 1
      funext t'
      exact (Ty.withDimensions_concat t' ds (some n)).symm

end AbiBindings.Abi
