import AbiBindings.Generate.Names
import AbiBindings.Proofs.Abi.TypeText
import AbiBindings.Proofs.Abi.Values
import AbiBindings.Proofs.Generate.Names
import AbiBindings.Proofs.Outline.Checked

/-!
# Types that hold values

The type that holds a value is written around the one that holds its items, so it can be read back:
what it is written around last is the last dimension. Only the type of a byte string of fixed size
is written like an array itself, around the type of the smallest numbers.

* `wrapped`: what is written around a type for dimensions.
* `heldBy`: the innermost type for a word, with the dimensions that the word itself stands for.
* `Form`: the kind of the values without dimensions, and the dimensions with their sizes.
* `Packed`: a byte string of fixed size, and an array of that many small numbers.

Results:
* `typeName_brackets`: the type that holds a value, by the word and the dimensions.
* `wrapped_injective`: what is written around a type can be read back.
* `fits_withDimensions`: which values are accepted depends on the innermost type and the dimensions.
* `typeName_eq_iff`: which types are held by one type though their forms differ.
* `not_typeName_eq`: such types exist.

**Deviation.** `bytes4` and `uint8[4]` are both held by `[u8; 4]`, which makes a byte string.
-/

namespace AbiBindings.Generate

open Abi (Ty Token)
open Outline (brackets Digits)

/-! ## What is written around a type -/

/-- The type for an array with a dimension, given by what stands inside its brackets. -/
def wrap (item : String) : List Char → String
  | [] => "Vec<" ++ item ++ ">"
  | size => "[" ++ item ++ "; " ++ String.ofList size ++ "]"

/-- The type for arrays with dimensions, the innermost first. -/
def wrapped (item : String) (ds : List (List Char)) : String := ds.foldl wrap item

theorem wrapped_concat (item : String) (ds : List (List Char)) (d : List Char) :
    wrapped item (ds ++ [d]) = wrap (wrapped item ds) d := by
  rw [wrapped, List.foldl_append]
  rfl

/-- A text of digits has no other character. -/
theorem notMem_of_digits {d : List Char} (h : ∀ c ∈ d, Text.isAsciiDigit c = true) {c : Char}
    (hc : Text.isAsciiDigit c = false) : c ∉ d := by
  intro hmem
  rw [h c hmem] at hc
  cases hc

/-- The last bracket of a text is found as it is for reading the type. -/
theorem lastDimension?_eq (cs : List Char) : lastDimension? cs = Abi.lastDimension? cs := by
  unfold lastDimension? Abi.lastDimension?
  cases cs.reverse with
  | nil => rfl
  | cons c backwards =>
    by_cases hclose : c = ']'
    · subst hclose
      have hhead := List.head?_dropWhile_not (· ≠ '[') backwards
      cases hdrop : backwards.dropWhile (· ≠ '[') with
      | nil => simp only [hdrop]
      | cons c base =>
        rw [hdrop] at hhead
        obtain rfl : c = '[' := by simpa using hhead
        simp only [hdrop]
    · simp [hclose]

theorem isTuple_cons {c : Char} (hc : c ≠ 't') (rest : List Char) :
    isTuple (c :: rest) = false := by
  have ht : 't' ≠ c := hc.symm
  simp [isTuple, Outline.tupleWord, List.isPrefixOf, ht]

/-- The type for a dimension behind a text that names no tuple. -/
theorem typeNameOf_concat {c : Char} (hc : c ≠ 't') (rest : List Char) {d : List Char}
    (hd : ∀ c ∈ d, Text.isAsciiDigit c = true) :
    typeNameOf (c :: rest ++ '[' :: (d ++ [']'])) = wrap (typeNameOf (c :: rest)) d := by
  have hlast : lastDimension? (c :: rest ++ '[' :: (d ++ [']'])) = some (c :: rest, d) := by
    rw [lastDimension?_eq]
    exact Abi.lastDimension?_append (notMem_of_digits hd (by decide))
  have htuple : isTuple (c :: rest ++ '[' :: (d ++ [']'])) = false := isTuple_cons hc _
  rw [typeNameOf]
  split
  case h_1 base h =>
    obtain ⟨rfl, rfl⟩ := Prod.mk.inj (Option.some.inj (hlast.symm.trans h))
    rfl
  case h_2 base size hsize h =>
    obtain ⟨rfl, rfl⟩ := Prod.mk.inj (Option.some.inj (hlast.symm.trans h))
    rw [htuple, wrap]
    · rfl
    · exact hsize
  case h_3 h => cases hlast.symm.trans h

/-- The type for a text that does not end in a dimension. -/
theorem typeNameOf_word {cs : List Char} (hend : cs.getLast? ≠ some ']')
    (htuple : isTuple cs = false) : typeNameOf cs = wordTypeName cs := by
  have hlast : lastDimension? cs = none := by
    rw [lastDimension?]
    split
    case h_1 backwards hreverse =>
      rw [List.getLast?_eq_head?_reverse, hreverse] at hend
      exact absurd rfl hend
    case h_2 => rfl
  rw [typeNameOf]
  split
  case h_1 h => cases hlast.symm.trans h
  case h_2 h => cases hlast.symm.trans h
  case h_3 => rw [htuple]; rfl

/-- The type for a word with dimensions is written around the type for the word. -/
theorem typeName_brackets {word : String} {t : Ty} (h : Ty.Keyword word t) {ds : List (List Char)}
    (hds : Digits ds) :
    typeName (word ++ String.ofList (brackets ds)) = wrapped (wordTypeName word.toList) ds := by
  obtain ⟨c, rest, hword, hc⟩ := h.elementary.first
  rw [typeName, String.toList_append, String.toList_ofList, hword]
  induction ds using List.reverseRecOn with
  | nil =>
    have hend : (c :: rest).getLast? ≠ some ']' := by
      intro hclose
      have hlast := h.elementary.last
      rw [hword, hclose] at hlast
      exact absurd hlast (by decide)
    have hplain : brackets [] = [] := rfl
    rw [hplain, List.append_nil, typeNameOf_word hend (isTuple_cons hc rest)]
    rfl
  | append_singleton ds d ih =>
    obtain ⟨hinit, hd⟩ := hds.concat
    rw [Outline.brackets_concat, ← List.append_assoc, wrapped_concat, ← ih hinit, List.cons_append]
    exact typeNameOf_concat hc _ hd

/-! ## Reading it back -/

/-- The text before the last one of some marks, and the text behind it. -/
theorem append_mark_inj {mark : Char} {a b c d : List Char} (hb : mark ∉ b) (hd : mark ∉ d)
    (h : a ++ mark :: b = c ++ mark :: d) : a = c ∧ b = d := by
  rcases List.append_eq_append_iff.mp h with ⟨more, hc, hmark⟩ | ⟨more, ha, hmark⟩
  · cases more with
    | nil => exact ⟨by simpa using hc.symm, by simpa using hmark⟩
    | cons m more =>
      obtain ⟨rfl, hrest⟩ := List.cons.inj hmark
      exact absurd (hrest ▸ List.mem_append_right _ List.mem_cons_self) hb
  · cases more with
    | nil => exact ⟨by simpa using ha, by simpa using hmark.symm⟩
    | cons m more =>
      obtain ⟨rfl, hrest⟩ := List.cons.inj hmark
      exact absurd (hrest ▸ List.mem_append_right _ List.mem_cons_self) hd

/-- What is written around a type begins with one of two letters. -/
theorem head?_wrap (item : String) (d : List Char) :
    (wrap item d).toList.head? = some (if d = [] then 'V' else '[') := by
  cases d with
  | nil => simp [wrap]
  | cons c d => simp [wrap]

theorem wrap_injective {x y : String} {d e : List Char}
    (hd : ∀ c ∈ d, Text.isAsciiDigit c = true) (he : ∀ c ∈ e, Text.isAsciiDigit c = true)
    (h : wrap x d = wrap y e) : x = y ∧ d = e := by
  have hheads := congrArg (fun s => s.toList.head?) h
  simp only [head?_wrap, Option.some.injEq] at hheads
  cases d with
  | nil =>
    cases e with
    | nil =>
      simp only [wrap, String.append_left_inj, String.append_right_inj] at h
      exact ⟨h, rfl⟩
    | cons c e => simp at hheads
  | cons c d =>
    cases e with
    | nil => simp at hheads
    | cons c' e =>
      have hlist := congrArg String.toList h
      simp only [wrap, String.toList_append, String.toList_ofList] at hlist
      have hsemicolon : "; ".toList = [';', ' '] := by decide
      have hopen : "[".toList = ['['] := by decide
      rw [hsemicolon, hopen] at hlist
      have hmarks := List.append_cancel_right hlist
      simp only [List.append_assoc, List.cons_append, List.nil_append, List.cons.injEq,
        true_and] at hmarks
      have hfree : ∀ {d : List Char}, (∀ c ∈ d, Text.isAsciiDigit c = true) → ';' ∉ ' ' :: d := by
        intro d hd hmem
        rcases List.mem_cons.mp hmem with hblank | hmem
        · cases hblank
        · exact notMem_of_digits hd (by decide) hmem
      obtain ⟨hitem, hsize⟩ := append_mark_inj (hfree hd) (hfree he) hmarks
      exact ⟨String.toList_inj.mp hitem, (List.cons.inj hsize).2⟩

/-- The innermost types. -/
def innermost : List String := [
  "Address", "bool", "String", "Bytes", "H256", "u8", "u16", "u32", "u64", "u128", "U256", "i8",
  "i16", "i32", "i64", "i128", "I256", "Token"]

theorem innermost_ne_wrap {x : String} (hx : x ∈ innermost) (item : String) (d : List Char) :
    x ≠ wrap item d := by
  have hheads : ∀ x ∈ innermost, x.toList.head? ≠ some 'V' ∧ x.toList.head? ≠ some '[' := by
    decide
  rintro rfl
  obtain ⟨hvector, harray⟩ := hheads _ hx
  rw [head?_wrap] at hvector harray
  by_cases hd : d = [] <;> simp [hd] at hvector harray

/-- What is written around an innermost type can be read back. -/
theorem wrapped_injective {x y : String} {ds es : List (List Char)} (hx : x ∈ innermost)
    (hy : y ∈ innermost) (hds : Digits ds) (hes : Digits es) (h : wrapped x ds = wrapped y es) :
    x = y ∧ ds = es := by
  induction ds using List.reverseRecOn generalizing es with
  | nil =>
    rcases List.eq_nil_or_concat es with rfl | ⟨es, e, rfl⟩
    · exact ⟨h, rfl⟩
    · rw [List.concat_eq_append, wrapped_concat] at h
      exact absurd h (innermost_ne_wrap hx _ _)
  | append_singleton ds d ih =>
    rcases List.eq_nil_or_concat es with rfl | ⟨es, e, rfl⟩
    · rw [wrapped_concat] at h
      exact absurd h.symm (innermost_ne_wrap hy _ _)
    · rw [List.concat_eq_append] at hes h ⊢
      rw [wrapped_concat, wrapped_concat] at h
      obtain ⟨hinitd, hd⟩ := hds.concat
      obtain ⟨hinite, he⟩ := hes.concat
      obtain ⟨hinner, hlast⟩ := wrap_injective hd he h
      obtain ⟨hsame, hinit⟩ := ih hinitd hinite hinner
      exact ⟨hsame, by rw [hinit, hlast]⟩

/-! ## Types for words -/

/-- The innermost type for a type without dimensions, and the dimensions for which it stands. -/
def heldBy : Ty → String × List (List Char)
  | .address => ("Address", [])
  | .bool => ("bool", [])
  | .string => ("String", [])
  | .bytes => ("Bytes", [])
  | .fixed size => if size = 32 then ("H256", []) else ("u8", [Nat.toDigits 10 size])
  | .uint width => (integerName "u" "U256" width, [])
  | .int width => (integerName "i" "I256" width, [])
  | _ => ("Token", [])

/-- A width that is no number of 32 bits is wide. -/
theorem integerName_bitWidth (letter wide : String) (n : Nat) :
    integerName letter wide (bitWidth (Nat.toDigits 10 n)) = integerName letter wide n := by
  rw [bitWidth, Abi.naturalBelow?_toDigits, Option.filter_some]
  split
  case isTrue => rfl
  case isFalse hwide =>
    have hn : UInt32.size ≤ n := by simpa using hwide
    have hsize : UInt32.size = 4294967296 := rfl
    simp only [Option.getD_none, integerName]
    simp only [Nat.reduceLeDiff, if_false]
    repeat rw [if_neg (by omega)]

/-- The type for a word that does not stand for one as it is. -/
theorem wordTypeName_of_notMem {cs : List Char}
    (h : String.ofList cs ∉ ["bool", "address", "string", "bytes", "bytes32"]) :
    wordTypeName cs =
      match Text.afterStart? "bytes".toList cs, Text.afterStart? "uint".toList cs,
        Text.afterStart? "int".toList cs with
      | some size, _, _ => "[u8; " ++ String.ofList size ++ "]"
      | _, some digits, _ => integerName "u" "U256" (bitWidth digits)
      | _, _, some digits => integerName "i" "I256" (bitWidth digits)
      | none, none, none => "Token" := by
  rw [wordTypeName]
  split
  case h_6 => rfl
  all_goals rename_i heq; exact absurd (by simp [heq]) h

/-- A word with a number behind it is another one only if this begins like it. -/
theorem append_number_notMem {word : String} {n : Nat} {others : List String}
    (h : ∀ other ∈ others, ¬ word.toList <+: other.toList) : word ++ toString n ∉ others := by
  intro hmem
  exact h _ hmem ⟨(toString n).toList, String.toList_append.symm⟩

theorem wordTypeName_fixed (n : Nat) :
    wordTypeName ("bytes" ++ toString n).toList =
      wrapped (heldBy (.fixed n)).1 (heldBy (.fixed n)).2 := by
  by_cases hn : n = 32
  · subst hn
    decide
  · have hother : String.ofList ("bytes" ++ toString n).toList ∉
        ["bool", "address", "string", "bytes", "bytes32"] := by
      have hsize : "bytes" ++ toString n ≠ "bytes" ++ toString 32 := by
        intro heq
        have hlist := congrArg String.toList ((String.append_right_inj _).mp heq)
        rw [toList_number, toList_number] at hlist
        exact hn (toDigits_injective hlist)
      have hletters : "bytes" ++ toString n ∉ ["bool", "address", "string"] :=
        append_number_notMem (by decide)
      rw [String.ofList_toList]
      intro hmem
      rcases List.mem_append.mp
        (show _ ∈ ["bool", "address", "string"] ++ ["bytes", "bytes32"] from hmem) with hmem | hmem
      · exact hletters hmem
      · rcases List.mem_cons.mp hmem with hplain | hmem
        · exact append_number_ne "bytes" n hplain
        · exact hsize (List.mem_singleton.mp hmem)
    rw [wordTypeName_of_notMem hother, Abi.toList_append_toString]
    simp [Text.afterStart?, heldBy, hn, wrapped, wrap]

/-- The type for a word. -/
theorem wordTypeName_keyword {word : String} {t : Ty} (h : Ty.Keyword word t) :
    wordTypeName word.toList = wrapped (heldBy t).1 (heldBy t).2 := by
  cases h with
  | @uint n hn =>
    have hother : "uint" ++ toString n ∉ ["bool", "address", "string", "bytes", "bytes32"] :=
      append_number_notMem (by decide)
    rw [wordTypeName_of_notMem (by rwa [String.ofList_toList]), Abi.toList_append_toString]
    simp [Text.afterStart?, heldBy, wrapped, integerName_bitWidth]
  | @int n hn =>
    have hother : "int" ++ toString n ∉ ["bool", "address", "string", "bytes", "bytes32"] :=
      append_number_notMem (by decide)
    rw [wordTypeName_of_notMem (by rwa [String.ofList_toList]), Abi.toList_append_toString]
    simp [Text.afterStart?, heldBy, wrapped, integerName_bitWidth]
  | @fixed n hn => exact wordTypeName_fixed n
  | _ => decide

/-! ## Forms -/

/-- A type without the widths of numbers and the sizes of byte strings. -/
def leaf : Ty → Ty
  | .uint _ => .uint 256
  | .int _ => .int 256
  | .fixed _ => .fixed 32
  | t => t

/-- The size that a dimension gives. -/
def size? : List Char → Option Nat
  | [] => none
  | d => Text.decimalFrom? 0 d

/-- The form of values: their kind within all arrays, and the arrays with their sizes. -/
structure Form where
  leaf : Ty
  dimensions : List (Option Nat)
  deriving DecidableEq

/-- The form of the values of a word with dimensions. -/
def formOf (t : Ty) (ds : List (List Char)) : Form := ⟨leaf t, ds.map size?⟩

/-- The type of a word with dimensions. -/
def typeOf (t : Ty) (ds : List (List Char)) : Ty := t.withDimensions (ds.map size?)

/-- A byte string of a size other than 32 in arrays, and an array of that many numbers of at most 8
bits in the same arrays. -/
def Packed (t : Ty) (ds : List (List Char)) (t' : Ty) (ds' : List (List Char)) : Prop :=
  ∃ size width, t = .fixed size ∧ size ≠ 32 ∧ t' = .uint width ∧ width ≤ 8 ∧
    ds' = Nat.toDigits 10 size :: ds

/-- The kind of the values that an innermost type with the dimensions of its word holds. -/
def leafOf : String × List (List Char) → Ty
  | (_, _ :: _) => .fixed 32
  | (name, []) =>
    if name = "Address" then .address
    else if name = "bool" then .bool
    else if name = "String" then .string
    else if name = "Bytes" then .bytes
    else if name = "H256" then .fixed 32
    else if name ∈ ["u8", "u16", "u32", "u64", "u128", "U256"] then .uint 256
    else .int 256

theorem integerName_mem (letter wide : String) (width : Nat) :
    integerName letter wide width ∈ [letter ++ "8", letter ++ "16", letter ++ "32", letter ++ "64",
      letter ++ "128", wide] := by
  unfold integerName
  split_ifs <;> simp

theorem integerName_eq_iff (width : Nat) : integerName "u" "U256" width = "u8" ↔ width ≤ 8 := by
  unfold integerName
  split_ifs with h
  all_goals first | exact iff_of_true (by decide) h | exact iff_of_false (by decide) h

section

variable {word : String} {t : Ty}

theorem heldBy_innermost (h : Ty.Keyword word t) : (heldBy t).1 ∈ innermost := by
  have hunsigned : ["u" ++ "8", "u" ++ "16", "u" ++ "32", "u" ++ "64", "u" ++ "128", "U256"] ⊆
      innermost := by decide
  have hsigned : ["i" ++ "8", "i" ++ "16", "i" ++ "32", "i" ++ "64", "i" ++ "128", "I256"] ⊆
      innermost := by decide
  cases h with
  | uint => exact hunsigned (integerName_mem "u" "U256" _)
  | int => exact hsigned (integerName_mem "i" "I256" _)
  | fixed =>
    have hnumber : "u8" ∈ innermost := by decide
    rw [heldBy]
    split
    · decide
    · exact hnumber
  | _ => decide

theorem leaf_eq (h : Ty.Keyword word t) : leaf t = leafOf (heldBy t) := by
  cases h with
  | @uint n hn =>
    have hall : ∀ name ∈ ["u" ++ "8", "u" ++ "16", "u" ++ "32", "u" ++ "64", "u" ++ "128", "U256"],
        leafOf (name, []) = .uint 256 := by decide
    exact (hall _ (integerName_mem "u" "U256" n)).symm
  | @int n hn =>
    have hall : ∀ name ∈ ["i" ++ "8", "i" ++ "16", "i" ++ "32", "i" ++ "64", "i" ++ "128", "I256"],
        leafOf (name, []) = .int 256 := by decide
    exact (hall _ (integerName_mem "i" "I256" n)).symm
  | @fixed n hn =>
    rw [heldBy]
    split <;> rfl
  | _ => rfl

/-- A word stands for a dimension itself exactly if it is a byte string of a size other than 32. -/
theorem heldBy_cases (h : Ty.Keyword word t) :
    (heldBy t).2 = [] ∨
      ∃ size, t = .fixed size ∧ size ≠ 32 ∧ heldBy t = ("u8", [Nat.toDigits 10 size]) := by
  cases h with
  | @fixed n hn =>
    by_cases hsize : n = 32
    · exact .inl (by rw [heldBy, if_pos hsize])
    · exact .inr ⟨n, rfl, hsize, by rw [heldBy, if_neg hsize]⟩
  | _ => exact .inl rfl

/-- Only numbers of at most 8 bits are held by the smallest type, among the words that stand for no
dimension. -/
theorem exists_of_heldBy_eq (h : Ty.Keyword word t) (heq : heldBy t = ("u8", [])) :
    ∃ width, t = .uint width ∧ width ≤ 8 := by
  cases h with
  | @uint n hn => exact ⟨n, rfl, (integerName_eq_iff n).mp (congrArg Prod.fst heq)⟩
  | @int n hn =>
    have hnone : "u8" ∉ ["i" ++ "8", "i" ++ "16", "i" ++ "32", "i" ++ "64", "i" ++ "128",
        "I256"] := by decide
    have hname : integerName "i" "I256" n = "u8" := congrArg Prod.fst heq
    exact absurd (hname ▸ integerName_mem "i" "I256" n) hnone
  | @fixed n hn =>
    rw [heldBy] at heq
    split at heq <;> simp at heq
  | _ => simp [heldBy] at heq

theorem digits_heldBy (h : Ty.Keyword word t) {ds : List (List Char)} (hds : Digits ds) :
    Digits ((heldBy t).2 ++ ds) := by
  rcases heldBy_cases h with hnil | ⟨size, -, -, heq⟩
  · rwa [hnil]
  · rw [heq]
    refine List.forall_mem_cons.mpr ⟨fun c hc => ?_, hds⟩
    rw [← toList_number] at hc
    exact isAsciiDigit_of_mem_number hc

theorem typeName_eq_wrapped (h : Ty.Keyword word t) {ds : List (List Char)} (hds : Digits ds) :
    typeName (word ++ String.ofList (brackets ds)) =
      wrapped (heldBy t).1 ((heldBy t).2 ++ ds) := by
  rw [typeName_brackets h hds, wordTypeName_keyword h, wrapped, wrapped, wrapped, List.foldl_append]

end

section

variable {w₁ w₂ : String} {t₁ t₂ : Ty} {ds₁ ds₂ : List (List Char)}

/-- Words that are held alike have the same values. -/
theorem fits_of_heldBy_eq (h₁ : Ty.Keyword w₁ t₁) (h₂ : Ty.Keyword w₂ t₂)
    (h : heldBy t₁ = heldBy t₂) (token : Token) : token.fits t₁ = token.fits t₂ := by
  have hleaf : leaf t₁ = leaf t₂ := by rw [leaf_eq h₁, leaf_eq h₂, h]
  cases h₁ <;> cases h₂ <;> simp only [leaf, reduceCtorEq] at hleaf
  case uint.uint => cases token <;> rfl
  case int.int => cases token <;> rfl
  case fixed.fixed m _ n _ =>
    have hsize : m = n := by
      simp only [heldBy] at h
      split_ifs at h with hm hn hn
      · rw [hm, hn]
      · simp at h
      · simp at h
      · exact toDigits_injective (by simpa using h)
    rw [hsize]
  all_goals rfl

theorem allFit_congr {s t : Ty} (h : ∀ token : Token, token.fits s = token.fits t)
    (items : List Token) : Token.allFit items s = Token.allFit items t := by
  induction items with
  | nil => rfl
  | cons item rest ih => rw [Token.allFit, Token.allFit, h, ih]

/-- Which values there are in arrays depends on which there are within them. -/
theorem fits_withDimensions {s t : Ty} (h : ∀ token : Token, token.fits s = token.fits t)
    (sizes : List (Option Nat)) (token : Token) :
    token.fits (s.withDimensions sizes) = token.fits (t.withDimensions sizes) := by
  induction sizes using List.reverseRecOn generalizing token with
  | nil => exact h token
  | append_singleton sizes d ih =>
    rw [Ty.withDimensions_concat, Ty.withDimensions_concat]
    cases d with
    | none => cases token <;> simp [Token.fits, allFit_congr ih]
    | some n => cases token <;> simp [Token.fits, allFit_congr ih]

theorem Packed.held (h : Packed t₁ ds₁ t₂ ds₂) :
    (heldBy t₁).1 = (heldBy t₂).1 ∧ (heldBy t₁).2 ++ ds₁ = (heldBy t₂).2 ++ ds₂ := by
  obtain ⟨size, width, rfl, hsize, rfl, hwidth, rfl⟩ := h
  rw [heldBy, if_neg hsize, heldBy]
  exact ⟨((integerName_eq_iff width).mpr hwidth).symm, rfl⟩

theorem Packed.formOf_ne (h : Packed t₁ ds₁ t₂ ds₂) : formOf t₁ ds₁ ≠ formOf t₂ ds₂ := by
  obtain ⟨size, width, rfl, -, rfl, -, -⟩ := h
  intro hform
  cases congrArg Form.leaf hform

/-- Words with dimensions that are held alike have the same dimensions and are held alike without
them, or one is packed as the other one. -/
theorem held_cases (h₁ : Ty.Keyword w₁ t₁) (h₂ : Ty.Keyword w₂ t₂)
    (hname : (heldBy t₁).1 = (heldBy t₂).1)
    (hdimensions : (heldBy t₁).2 ++ ds₁ = (heldBy t₂).2 ++ ds₂) :
    (heldBy t₁ = heldBy t₂ ∧ ds₁ = ds₂) ∨ Packed t₁ ds₁ t₂ ds₂ ∨ Packed t₂ ds₂ t₁ ds₁ := by
  rcases heldBy_cases h₁ with hnil₁ | ⟨m, rfl, hm, heq₁⟩ <;>
    rcases heldBy_cases h₂ with hnil₂ | ⟨n, rfl, hn, heq₂⟩
  · rw [hnil₁, hnil₂] at hdimensions
    exact .inl ⟨Prod.ext hname (by rw [hnil₁, hnil₂]), hdimensions⟩
  · have heq : heldBy t₁ = ("u8", []) := Prod.ext (by rw [hname, heq₂]) hnil₁
    obtain ⟨width, rfl, hwidth⟩ := exists_of_heldBy_eq h₁ heq
    rw [hnil₁, heq₂] at hdimensions
    exact .inr (.inr ⟨n, width, rfl, hn, rfl, hwidth, hdimensions⟩)
  · have heq : heldBy t₂ = ("u8", []) := Prod.ext (by rw [← hname, heq₁]) hnil₂
    obtain ⟨width, rfl, hwidth⟩ := exists_of_heldBy_eq h₂ heq
    rw [hnil₂, heq₁] at hdimensions
    exact .inr (.inl ⟨m, width, rfl, hm, rfl, hwidth, hdimensions.symm⟩)
  · rw [heq₁, heq₂] at hdimensions
    obtain ⟨hsize, hrest⟩ := List.cons.inj hdimensions
    exact .inl ⟨by rw [heq₁, heq₂, hsize], hrest⟩

/-- One type holds the values of two words with dimensions exactly if these are held alike, with the
dimensions that a word stands for itself. -/
theorem typeName_eq_iff_held (h₁ : Ty.Keyword w₁ t₁) (h₂ : Ty.Keyword w₂ t₂) (hds₁ : Digits ds₁)
    (hds₂ : Digits ds₂) :
    typeName (w₁ ++ String.ofList (brackets ds₁)) = typeName (w₂ ++ String.ofList (brackets ds₂)) ↔
      (heldBy t₁).1 = (heldBy t₂).1 ∧ (heldBy t₁).2 ++ ds₁ = (heldBy t₂).2 ++ ds₂ := by
  rw [typeName_eq_wrapped h₁ hds₁, typeName_eq_wrapped h₂ hds₂]
  constructor
  · exact wrapped_injective (heldBy_innermost h₁) (heldBy_innermost h₂) (digits_heldBy h₁ hds₁)
      (digits_heldBy h₂ hds₂)
  · rintro ⟨hname, hdimensions⟩
    rw [hname, hdimensions]

/-- One type holds the values of two words with dimensions of different forms exactly if one is a
byte string of fixed size, other than 32, within arrays, and the other one an array of that many
numbers of at most 8 bits within the same arrays. If the forms are the same, the same values are
accepted for both. -/
theorem typeName_eq_iff (h₁ : Ty.Keyword w₁ t₁) (h₂ : Ty.Keyword w₂ t₂) (hds₁ : Digits ds₁)
    (hds₂ : Digits ds₂) :
    let same := typeName (w₁ ++ String.ofList (brackets ds₁)) =
      typeName (w₂ ++ String.ofList (brackets ds₂))
    (same ∧ formOf t₁ ds₁ ≠ formOf t₂ ds₂ ↔ Packed t₁ ds₁ t₂ ds₂ ∨ Packed t₂ ds₂ t₁ ds₁) ∧
      (same → formOf t₁ ds₁ = formOf t₂ ds₂ →
        ∀ token : Token, token.fits (typeOf t₁ ds₁) = token.fits (typeOf t₂ ds₂)) := by
  intro same
  have hsame : same ↔ _ := typeName_eq_iff_held h₁ h₂ hds₁ hds₂
  have hform : heldBy t₁ = heldBy t₂ ∧ ds₁ = ds₂ → formOf t₁ ds₁ = formOf t₂ ds₂ := by
    rintro ⟨hheld, rfl⟩
    rw [formOf, formOf, leaf_eq h₁, leaf_eq h₂, hheld]
  rw [hsame]
  refine ⟨⟨fun ⟨⟨hname, hdimensions⟩, hne⟩ => ?_, fun hpacked => ?_⟩, ?_⟩
  · exact (held_cases h₁ h₂ hname hdimensions).resolve_left fun h => hne (hform h)
  · rcases hpacked with hpacked | hpacked
    · exact ⟨hpacked.held, hpacked.formOf_ne⟩
    · exact ⟨hpacked.held.imp Eq.symm Eq.symm, hpacked.formOf_ne.symm⟩
  · rintro ⟨hname, hdimensions⟩ heq token
    rcases held_cases h₁ h₂ hname hdimensions with ⟨hheld, rfl⟩ | hpacked | hpacked
    · exact fits_withDimensions (fits_of_heldBy_eq h₁ h₂ hheld) _ token
    · exact absurd heq hpacked.formOf_ne
    · exact absurd heq.symm hpacked.formOf_ne

end

theorem keyword_bytes4 : Ty.Keyword "bytes4" (.fixed 4) := .fixed (n := 4) (by decide)

theorem keyword_uint8 : Ty.Keyword "uint8" (.uint 8) := .uint (n := 8) (by decide)

theorem digits_four : Digits [['4']] :=
  List.forall_mem_singleton.mpr (List.forall_mem_singleton.mpr (by decide))

/-- Four bytes and an array of four small numbers are held by one type, which makes a value that is
accepted for the first and not for the second. -/
theorem bytes4_packed :
    typeName "bytes4" = typeName "uint8[4]" ∧
      (Token.fixed [1, 2, 3, 4]).fits (typeOf (.fixed 4) []) = true ∧
      (Token.fixed [1, 2, 3, 4]).fits (typeOf (.uint 8) [['4']]) = false := by
  have hpacked : Packed (.fixed 4) [] (.uint 8) [['4']] :=
    ⟨4, 8, rfl, by decide, rfl, by decide, by decide⟩
  have hsame := ((typeName_eq_iff keyword_bytes4 keyword_uint8 (List.forall_mem_nil _)
    digits_four).1.mpr (.inl hpacked)).1
  have hfirst : "bytes4" ++ String.ofList (brackets []) = "bytes4" := by decide
  have hsecond : "uint8" ++ String.ofList (brackets [['4']]) = "uint8[4]" := by decide
  rw [hfirst, hsecond] at hsame
  exact ⟨hsame, by decide, by decide⟩

/-- The words that name types: byte strings of 1 to 32 bytes, and numbers of 8 to 256 bits. -/
def InRange : Ty → Prop
  | .fixed size => 1 ≤ size ∧ size ≤ 32
  | .uint width | .int width => 8 ∣ width ∧ 8 ≤ width ∧ width ≤ 256
  | _ => True

/-- The type that holds values does not fix their form. -/
theorem not_typeName_eq :
    ¬ ∀ (w₁ w₂ : String) (t₁ t₂ : Ty) (ds₁ ds₂ : List (List Char)), Ty.Keyword w₁ t₁ →
      Ty.Keyword w₂ t₂ → InRange t₁ → InRange t₂ → Digits ds₁ → Digits ds₂ →
        typeName (w₁ ++ String.ofList (brackets ds₁)) =
          typeName (w₂ ++ String.ofList (brackets ds₂)) →
        formOf t₁ ds₁ = formOf t₂ ds₂ := by
  intro h
  have hheld := (typeName_eq_iff_held keyword_bytes4 keyword_uint8 (List.forall_mem_nil _)
    digits_four).mpr (by decide)
  have hform := h _ _ _ _ _ _ keyword_bytes4 keyword_uint8 (by unfold InRange; decide)
    (by unfold InRange; decide) (List.forall_mem_nil _) digits_four hheld
  cases congrArg Form.leaf hform

end AbiBindings.Generate
