import AbiBindings.Proofs.Text.Words

/-!
# Texts in lower case

A character beyond ASCII becomes no letter of a word other than `k`, which the Kelvin sign becomes.
So a text is such a word in lower case exactly if it is the word up to the case of the letters `A`
to `Z`.

* `IsSimple`: a character that is in the lower case of no character beyond ASCII.

Results:
* `exists_mem_lowerAfter`: what is not ASCII leaves a trace in the lower case of a text.
* `lowerChars_eq_iff`: the texts that are a word in lower case.
-/

namespace AbiBindings.Text

variable {c x : Char} {cs before word : List Char}

/-- A character below 128 that is the lower case of no character beyond. -/
def IsSimple (x : Char) : Prop := x.toNat < 0x80 ∧ x ≠ 'k'

/-- Whether a word has simple characters only. -/
def IsSimpleWord (word : List Char) : Prop := ∀ x ∈ word, IsSimple x

instance (x : Char) : Decidable (IsSimple x) := inferInstanceAs (Decidable (_ ∧ _))

instance (word : List Char) : Decidable (IsSimpleWord word) := List.decidableBAll _ word

theorem lowerAscii_of_le (h : 0x80 ≤ c.toNat) : lowerAscii c = c := by
  refine if_neg fun hletter => ?_
  have hz : c.toNat ≤ 'Z'.toNat := hletter.2
  have hvalue : 'Z'.toNat = 90 := rfl
  omega

/-- Whether a run maps the Kelvin sign, or characters beyond ASCII to such characters. -/
def CaseRun.LeavesAscii (r : CaseRun) : Prop :=
  (r.first = r.last ∧ (r.last : Int) + r.shift = 0x6b) ∨
    (0x80 ≤ (r.first : Int) + r.shift ∧ (r.last : Int) + r.shift < 0xd800) ∨
    (0xdfff < (r.first : Int) + r.shift ∧ (r.last : Int) + r.shift < 0x110000)

instance (r : CaseRun) : Decidable r.LeavesAscii :=
  inferInstanceAs (Decidable (_ ∨ _ ∨ _))

theorem not_isSimple_of_map? {runs : List CaseRun} {code image : Nat}
    (hruns : ∀ r ∈ runs, r.LeavesAscii) (h : CaseRun.map? runs code = some image) :
    ¬ IsSimple (Char.ofNat image) := by
  obtain ⟨r, hr, rfl⟩ := Option.map_eq_some_iff.mp h
  have hfound := List.find?_some hr
  simp only [Bool.and_eq_true, decide_eq_true_eq] at hfound
  obtain ⟨⟨hfirst, hlast⟩, -⟩ := hfound
  rintro ⟨hlt, hne⟩
  rcases hruns r (List.mem_of_find?_eq_some hr) with ⟨heq, hkelvin⟩ | hbeyond
  · have hk : ((code : Int) + r.shift).toNat = 0x6b := by omega
    exact hne (by rw [hk])
  · have hvalid : ((code : Int) + r.shift).toNat.isValidChar := by
      unfold Nat.isValidChar
      omega
    rw [toNat_ofNat hvalid] at hlt
    omega

/-- The lower case of a character beyond ASCII has a character that is not simple. -/
theorem exists_mem_lowered (h : 0x80 ≤ c.toNat) : ∃ x ∈ lowered c, ¬ IsSimple x := by
  have hnot : ¬ c.toNat < 0x80 := Nat.not_lt_of_le h
  rw [lowered, mapCase, if_neg hnot]
  split
  case h_1 e he =>
    have hexpansions : ∀ e ∈ lowerExpansions,
        ((e.2.map Char.ofNat).any fun x => 0x80 ≤ x.toNat) = true := by decide
    obtain ⟨x, hx, hle⟩ := List.any_eq_true.mp (hexpansions e (List.mem_of_find?_eq_some he))
    exact ⟨x, hx, fun hsimple => absurd hsimple.1 (Nat.not_lt_of_le (of_decide_eq_true hle))⟩
  case h_2 =>
    have hruns : ∀ r ∈ lowerRuns, r.LeavesAscii := by decide +kernel
    split
    case h_1 code hcode => exact ⟨_, List.mem_singleton_self _, not_isSimple_of_map? hruns hcode⟩
    case h_2 => exact ⟨c, List.mem_singleton_self _, fun hsimple => hnot hsimple.1⟩

/-- The lower case of a text with a character beyond ASCII has a character that is not simple. -/
theorem exists_mem_lowerAfter (hc : c ∈ cs) (h : 0x80 ≤ c.toNat) (before : List Char) :
    ∃ x ∈ lowerAfter before cs, ¬ IsSimple x := by
  induction cs generalizing before with
  | nil => cases hc
  | cons d rest ih =>
    rw [lowerAfter]
    rcases List.mem_cons.mp hc with rfl | hc
    · have himage : ∃ x ∈ (if c = capitalSigma ∧ meetsCased before ∧ ¬ meetsCased rest then
          [Char.ofNat 0x3c2] else lowered c), ¬ IsSimple x := by
        split
        · exact ⟨_, List.mem_singleton_self _, fun hsimple => absurd hsimple.1 (by decide)⟩
        · exact exists_mem_lowered h
      obtain ⟨x, hx, hnot⟩ := himage
      exact ⟨x, List.mem_append_left _ hx, hnot⟩
    · obtain ⟨x, hx, hnot⟩ := ih hc (d :: before)
      exact ⟨x, List.mem_append_right _ hx, hnot⟩

theorem isPlain_of_lowerChars (h : IsSimpleWord (lowerChars cs)) : IsPlain cs := by
  intro c hc
  by_contra hbeyond
  obtain ⟨x, hx, hnot⟩ := exists_mem_lowerAfter hc (Nat.le_of_not_lt hbeyond) []
  exact hnot (h x hx)

/-- A text is a word of simple characters in lower case exactly if it is the word up to the case of
the letters `A` to `Z`. -/
theorem lowerChars_eq_iff (h : IsSimpleWord word) :
    lowerChars cs = word ↔ cs.map lowerAscii = word := by
  constructor
  · rintro rfl
    exact (lowerChars_of_isPlain (isPlain_of_lowerChars h)).symm
  · rintro rfl
    refine lowerChars_of_isPlain fun c hc => ?_
    by_contra hbeyond
    have hsimple := h _ (List.mem_map_of_mem hc)
    rw [lowerAscii_of_le (Nat.le_of_not_lt hbeyond)] at hsimple
    exact hbeyond hsimple.1

end AbiBindings.Text
