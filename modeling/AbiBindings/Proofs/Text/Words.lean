import AbiBindings.Text.Words
import Mathlib.Data.List.TakeWhile

/-!
# What the words of a name keep

The words of a name hold its clusters in order, without the underscores that stand for themselves.
So there are words as soon as there is anything but underscores, and a name in lower case does not
end in an underscore, whatever its characters are.

* `IsClosed`: a text that ends in something other than an underscore.
* `IsPlain`: a text of characters below 128, which have one image each.

Results:
* `flatten_words`: the clusters of the words.
* `snakeChars_eq_nil_iff`: the words of a name are missing exactly if it has underscores only.
* `isClosed_snakeChars`: words in lower case end in no underscore.
* `head?_snakeChars`, `head?_pascalChars`: with which character the words of a plain name begin.
* `mem_snakeChars`, `mem_pascalChars`: which characters they have.
-/

namespace AbiBindings.Text

/-! ## Clusters -/

theorem flatten_clusters (cs : List Char) : (clusters cs).flatten = cs := by
  induction cs with
  | nil => rfl
  | cons c rest ih =>
    rw [clusters]
    split
    case h_1 hnil => rw [← ih, hnil]; rfl
    case h_2 next more hcons =>
      rw [hcons] at ih
      split
      · split <;> simp [← ih]
      · simp [← ih]

/-- A cluster is a character with the marks that follow it. -/
theorem exists_of_mem_clusters {cs : List Char} {cluster : Cluster} (h : cluster ∈ clusters cs) :
    ∃ c ∈ cs, ∃ marks, cluster = c :: marks ∧ ∀ m ∈ marks, m ∈ cs ∧ isJoined m = true := by
  induction cs generalizing cluster with
  | nil => simp [clusters] at h
  | cons c rest ih =>
    have hbehind : cluster ∈ clusters rest → ∃ c' ∈ c :: rest, ∃ marks, cluster = c' :: marks ∧
        ∀ m ∈ marks, m ∈ c :: rest ∧ isJoined m = true := by
      intro hmem
      obtain ⟨c', hc', marks, rfl, hmarks⟩ := ih hmem
      exact ⟨c', List.mem_cons_of_mem _ hc', marks, rfl,
        fun m hm => ⟨List.mem_cons_of_mem _ (hmarks m hm).1, (hmarks m hm).2⟩⟩
    have halone : cluster = [c] → ∃ c' ∈ c :: rest, ∃ marks, cluster = c' :: marks ∧
        ∀ m ∈ marks, m ∈ c :: rest ∧ isJoined m = true :=
      fun heq => ⟨c, List.mem_cons_self, [], heq, by simp⟩
    rw [clusters] at h
    split at h
    case h_1 => exact halone (List.mem_singleton.mp h)
    case h_2 next more hcons =>
      obtain ⟨d, hd, marks, rfl, hmarks⟩ := ih (hcons ▸ List.mem_cons_self)
      dsimp only at h
      split at h
      case isTrue hjoined =>
        rcases List.mem_cons.mp h with rfl | h
        · refine ⟨c, List.mem_cons_self, d :: marks, rfl, List.forall_mem_cons.mpr ⟨?_, ?_⟩⟩
          · exact ⟨List.mem_cons_of_mem _ hd, hjoined⟩
          · exact fun m hm => ⟨List.mem_cons_of_mem _ (hmarks m hm).1, (hmarks m hm).2⟩
        · exact hbehind (hcons ▸ List.mem_cons_of_mem _ h)
      case isFalse =>
        rcases List.mem_cons.mp h with rfl | h
        · exact halone rfl
        · exact hbehind (hcons ▸ h)

/-- An underscore is no mark. -/
theorem ne_underscore_of_isJoined {c : Char} (h : isJoined c = true) : c ≠ '_' := by
  rintro rfl
  simp [isJoined] at h

/-! ## Words -/

theorem flatten_wordsAfter (before : Option Cluster) (word cs : List Cluster) :
    (wordsAfter before word cs).flatten = word ++ cs.filter (· ≠ ['_']) := by
  induction cs generalizing before word with
  | nil => simp [wordsAfter]
  | cons c rest ih =>
    rw [wordsAfter]
    split
    case isTrue hc => simp [ih, hc]
    case isFalse hc =>
      split
      · simp [ih, hc]
      · simp [ih, hc]

/-- The words hold the clusters in order, without the underscores. -/
theorem flatten_words (cs : List Char) :
    (words cs).flatten = (clusters (cs.dropWhile (· = '_'))).filter (· ≠ ['_']) := by
  have hfilter := List.flatten_filter_ne_nil
    (L := wordsAfter none [] (clusters (cs.dropWhile (· = '_'))))
  rw [words, hfilter, flatten_wordsAfter, List.nil_append]

theorem ne_nil_of_mem_words {cs : List Char} {word : List Cluster} (h : word ∈ words cs) :
    word ≠ [] := by
  simpa using (List.mem_filter.mp h).2

/-- A cluster of a word is one of the name, and is no underscore. -/
theorem mem_clusters_of_mem_words {cs : List Char} {word : List Cluster} {cluster : Cluster}
    (hword : word ∈ words cs) (h : cluster ∈ word) :
    cluster ∈ clusters (cs.dropWhile (· = '_')) ∧ cluster ≠ ['_'] := by
  have hmem := List.mem_flatten.mpr ⟨word, hword, h⟩
  rw [flatten_words] at hmem
  simpa using hmem

/-- There are no words exactly if there are underscores only. -/
theorem words_eq_nil_iff {cs : List Char} : words cs = [] ↔ ∀ c ∈ cs, c = '_' := by
  have hdrop : cs.dropWhile (· = '_') = [] ↔ ∀ c ∈ cs, c = '_' := by
    simp [List.dropWhile_eq_nil_iff]
  rw [← hdrop]
  constructor
  · intro hnil
    have hall : ∀ cluster ∈ clusters (cs.dropWhile (· = '_')), cluster = ['_'] := by
      have hflatten := flatten_words cs
      rw [hnil, List.flatten_nil] at hflatten
      simpa using List.filter_eq_nil_iff.mp hflatten.symm
    cases hrest : cs.dropWhile (· = '_') with
    | nil => rfl
    | cons c rest =>
      have hne : c ≠ '_' := by
        have hhead := List.head?_dropWhile_not (· = '_') cs
        rw [hrest] at hhead
        simpa using hhead
      -- The first character would be that of an underscore.
      rw [hrest] at hall
      have hflat := flatten_clusters (c :: rest)
      cases hclusters : clusters (c :: rest) with
      | nil => rw [hclusters] at hflat; cases hflat
      | cons cluster more =>
        rw [hclusters, hall cluster (hclusters ▸ List.mem_cons_self)] at hflat
        exact absurd (List.cons.inj hflat).1.symm hne
  · intro hnil
    have hflatten := flatten_words cs
    rw [hnil, clusters, List.filter_nil, List.flatten_eq_nil_iff] at hflatten
    exact List.eq_nil_iff_forall_not_mem.mpr fun word hword =>
      ne_nil_of_mem_words hword (hflatten word hword)

/-! ## Ends of texts -/

/-- Whether a text ends in something other than an underscore. -/
def IsClosed (cs : List Char) : Prop := ∃ c ∈ cs.getLast?, c ≠ '_'

theorem IsClosed.append_left {cs : List Char} (h : IsClosed cs) (front : List Char) :
    IsClosed (front ++ cs) := by
  obtain ⟨c, hc, hne⟩ := h
  refine ⟨c, ?_, hne⟩
  rw [List.getLast?_append, Option.mem_def.mp hc]
  rfl

theorem IsClosed.singleton {c : Char} (h : c ≠ '_') : IsClosed [c] := ⟨c, rfl, h⟩

theorem IsClosed.ne_nil {cs : List Char} (h : IsClosed cs) : cs ≠ [] := by
  rintro rfl
  obtain ⟨c, hc, -⟩ := h
  cases hc

/-- The parts of a text with underscores between them end as the last part does. -/
theorem isClosed_intercalate {parts : List (List Char)} (hne : parts ≠ [])
    (h : ∀ part ∈ parts, IsClosed part) : IsClosed (['_'].intercalate parts) := by
  induction parts with
  | nil => exact absurd rfl hne
  | cons part rest ih =>
    obtain ⟨hpart, hrest⟩ := List.forall_mem_cons.mp h
    cases rest with
    | nil => simpa using hpart
    | cons next more =>
      rw [List.intercalate_cons_cons, List.append_assoc]
      exact ((ih (List.cons_ne_nil _ _) hrest).append_left _).append_left _

/-- A character below 128 is one of few. -/
theorem of_toNat_lt {p : Char → Prop} (h : ∀ n < 0x80, p (Char.ofNat n)) {c : Char}
    (hc : c.toNat < 0x80) : p c := by
  rw [← Char.ofNat_toNat c]
  exact h _ hc

theorem toNat_ofNat {code : Nat} (h : code.isValidChar) : (Char.ofNat code).toNat = code := by
  have hchar : Char.ofNat code = Char.ofNatAux code h := dif_pos h
  rw [hchar]
  rfl

theorem eq_of_ofNat_eq_underscore {code : Nat} (h : Char.ofNat code = '_') : code = 0x5f := by
  by_cases hvalid : code.isValidChar
  · rw [← toNat_ofNat hvalid, h]
    rfl
  · have hchar : Char.ofNat code = Char.ofNatAux 0 (by decide) := dif_neg hvalid
    exact absurd (hchar.symm.trans h) (by decide)

/-- A character beyond ASCII that a table maps does not become an underscore. -/
theorem ne_underscore_of_map? {runs : List CaseRun} {code image : Nat}
    (hruns : ∀ r ∈ runs, 0x5f < (r.first : Int) + r.shift)
    (h : CaseRun.map? runs code = some image) : Char.ofNat image ≠ '_' := by
  obtain ⟨r, hr, rfl⟩ := Option.map_eq_some_iff.mp h
  have hrun := hruns r (List.mem_of_find?_eq_some hr)
  have hfound := List.find?_some hr
  simp only [Bool.and_eq_true, decide_eq_true_eq] at hfound
  have hfirst := hfound.1.1
  intro heq
  have hcode := eq_of_ofNat_eq_underscore heq
  omega

/-- The lower case of anything but an underscore ends in no underscore. -/
theorem isClosed_lowered {c : Char} (h : c ≠ '_') : IsClosed (lowered c) := by
  rw [lowered, mapCase]
  split
  case isTrue hplain =>
    have hascii : ∀ n < 0x80, Char.ofNat n ≠ '_' → lowerAscii (Char.ofNat n) ≠ '_' := by
      decide
    exact .singleton (of_toNat_lt (p := fun c => c ≠ '_' → lowerAscii c ≠ '_') hascii hplain h)
  case isFalse =>
    split
    case h_1 e he =>
      have hexpansions : ∀ e ∈ lowerExpansions,
          (e.2.map Char.ofNat).getLast?.any (· ≠ '_') = true := by decide
      obtain ⟨c, hc, hne⟩ :=
        (Option.any_eq_true _ _).mp (hexpansions e (List.mem_of_find?_eq_some he))
      exact ⟨c, hc, of_decide_eq_true hne⟩
    case h_2 =>
      have hruns : ∀ r ∈ lowerRuns, 0x5f < (r.first : Int) + r.shift := by decide +kernel
      split
      case h_1 code hcode => exact .singleton (ne_underscore_of_map? hruns hcode)
      case h_2 => exact .singleton h

/-- A text in lower case ends in no underscore if the text does not. -/
theorem isClosed_lowerAfter {c : Char} (h : c ≠ '_') (before front : List Char) :
    IsClosed (lowerAfter before (front ++ [c])) := by
  induction front generalizing before with
  | nil =>
    simp only [List.nil_append, lowerAfter, List.append_nil]
    split
    · exact .singleton (by decide)
    · exact isClosed_lowered h
  | cons d front ih =>
    rw [List.cons_append, lowerAfter]
    exact (ih _).append_left _

/-- A cluster that is no underscore ends in something else. -/
theorem exists_of_mem_word {cs : List Char} {word : List Cluster} {cluster : Cluster}
    (hword : word ∈ words cs) (h : cluster ∈ word) :
    ∃ front c, cluster = front ++ [c] ∧ c ≠ '_' := by
  obtain ⟨hmem, hne⟩ := mem_clusters_of_mem_words hword h
  obtain ⟨c, -, marks, rfl, hmarks⟩ := exists_of_mem_clusters hmem
  rcases List.eq_nil_or_concat marks with rfl | ⟨front, m, rfl⟩
  · exact ⟨[], c, rfl, fun hc => hne (by rw [hc])⟩
  · rw [List.concat_eq_append] at hmarks ⊢
    exact ⟨c :: front, m, rfl, ne_underscore_of_isJoined (hmarks m (by simp)).2⟩

theorem isClosed_lowerWord {cs : List Char} {word : List Cluster} (h : word ∈ words cs) :
    IsClosed (lowerWord word) := by
  obtain ⟨front, cluster, rfl⟩ :=
    (List.eq_nil_or_concat word).resolve_left (ne_nil_of_mem_words h)
  rw [List.concat_eq_append] at h ⊢
  obtain ⟨before, c, rfl, hc⟩ := exists_of_mem_word h (List.mem_append_right _ List.mem_cons_self)
  rw [lowerWord, lowerChars, List.flatten_append, List.flatten_singleton, ← List.append_assoc]
  exact isClosed_lowerAfter hc [] _

/-- A name in lower case ends in no underscore if there is anything of it. -/
theorem isClosed_snakeChars {cs : List Char} (h : words cs ≠ []) : IsClosed (snakeChars cs) := by
  refine isClosed_intercalate (by simpa using h) fun part hpart => ?_
  obtain ⟨word, hword, rfl⟩ := List.mem_map.mp hpart
  exact isClosed_lowerWord hword

theorem snakeChars_eq_nil_iff {cs : List Char} : snakeChars cs = [] ↔ ∀ c ∈ cs, c = '_' := by
  rw [← words_eq_nil_iff]
  constructor
  · intro h
    by_contra hwords
    exact (isClosed_snakeChars hwords).ne_nil h
  · intro h
    rw [snakeChars, h]
    rfl

/-- A name in lower case does not end in an underscore. -/
theorem snakeCase_ne_append_underscore (name front : String) :
    snakeCase name ≠ front ++ "_" := by
  intro h
  have hchars : snakeChars name.toList = front.toList ++ ['_'] := by
    rw [snakeCase] at h
    rw [← String.toList_ofList (l := snakeChars name.toList), h, String.toList_append]
    rfl
  have hwords : words name.toList ≠ [] := by
    intro hnil
    rw [snakeChars, hnil] at hchars
    simp at hchars
  obtain ⟨c, hc, hne⟩ := isClosed_snakeChars hwords
  rw [hchars, List.getLast?_concat] at hc
  exact hne (Option.some.inj hc).symm

/-! ## Plain names -/

/-- Whether the characters of a text are all below 128. -/
def IsPlain (cs : List Char) : Prop := ∀ c ∈ cs, c.toNat < 0x80

theorem IsPlain.dropWhile {cs : List Char} (h : IsPlain cs) (p : Char → Bool) :
    IsPlain (cs.dropWhile p) :=
  fun c hc => h c ((List.dropWhile_suffix p).subset hc)

/-- Plain characters are not joined. -/
theorem clusters_of_isPlain {cs : List Char} (h : IsPlain cs) :
    clusters cs = cs.map fun c => [c] := by
  induction cs with
  | nil => rfl
  | cons c rest ih =>
    obtain ⟨-, hrest⟩ := List.forall_mem_cons.mp h
    rw [clusters, ih hrest]
    cases rest with
    | nil => rfl
    | cons d more =>
      have hd : isJoined d = false := by
        have := hrest d List.mem_cons_self
        simp only [isJoined, Bool.and_eq_false_iff, decide_eq_false_iff_not]
        exact .inl (by omega)
      simp [hd]

theorem lowered_of_lt {c : Char} (h : c.toNat < 0x80) : lowered c = [lowerAscii c] := by
  rw [lowered, mapCase, if_pos h]

theorem uppered_of_lt {c : Char} (h : c.toNat < 0x80) : uppered c = [upperAscii c] := by
  rw [uppered, mapCase, if_pos h]

theorem lowerAfter_of_isPlain {cs : List Char} (h : IsPlain cs) (before : List Char) :
    lowerAfter before cs = cs.map lowerAscii := by
  induction cs generalizing before with
  | nil => rfl
  | cons c rest ih =>
    obtain ⟨hc, hrest⟩ := List.forall_mem_cons.mp h
    have hsigma : c ≠ capitalSigma := by
      rintro rfl
      exact absurd hc (by decide)
    simp [lowerAfter, hsigma, lowered_of_lt hc, ih hrest]

theorem lowerChars_of_isPlain {cs : List Char} (h : IsPlain cs) :
    lowerChars cs = cs.map lowerAscii :=
  lowerAfter_of_isPlain h []

theorem upperChars_of_isPlain {cs : List Char} (h : IsPlain cs) :
    upperChars cs = cs.map upperAscii := by
  induction cs with
  | nil => rfl
  | cons c rest ih =>
    obtain ⟨hc, hrest⟩ := List.forall_mem_cons.mp h
    rw [upperChars, List.flatMap_cons, ← upperChars, ih hrest, uppered_of_lt hc]
    rfl

/-- A word of a plain name is made of characters of it other than underscores. -/
theorem exists_of_mem_words {cs : List Char} (h : IsPlain cs) {word : List Cluster}
    (hword : word ∈ words cs) :
    ∃ c letters, word = (c :: letters).map (fun d => [d]) ∧
      ∀ d ∈ c :: letters, d ∈ cs ∧ d ≠ '_' := by
  have hone : ∀ cluster ∈ word, ∃ d, (d ∈ cs ∧ d ≠ '_') ∧ [d] = cluster := by
    intro cluster hcluster
    obtain ⟨hmem, hne⟩ := mem_clusters_of_mem_words hword hcluster
    rw [clusters_of_isPlain (h.dropWhile _)] at hmem
    obtain ⟨d, hd, rfl⟩ := List.mem_map.mp hmem
    exact ⟨d, ⟨(List.dropWhile_suffix _).subset hd, fun heq => hne (by rw [heq])⟩, rfl⟩
  have hletters : ∃ letters : List Char,
      word = letters.map (fun d => [d]) ∧ ∀ d ∈ letters, d ∈ cs ∧ d ≠ '_' := by
    clear hword
    induction word with
    | nil => exact ⟨[], rfl, by simp⟩
    | cons cluster rest ih =>
      obtain ⟨hcluster, hrest⟩ := List.forall_mem_cons.mp hone
      obtain ⟨d, hd, rfl⟩ := hcluster
      obtain ⟨letters, rfl, hletters⟩ := ih hrest
      exact ⟨d :: letters, rfl, List.forall_mem_cons.mpr ⟨hd, hletters⟩⟩
  obtain ⟨letters, rfl, hmem⟩ := hletters
  cases letters with
  | nil => exact absurd rfl (ne_nil_of_mem_words hword)
  | cons c letters => exact ⟨c, letters, rfl, hmem⟩

section

variable {c : Char} {letters : List Char}

theorem lowerWord_of_isPlain (h : IsPlain letters) :
    lowerWord (letters.map fun d => [d]) = letters.map lowerAscii := by
  rw [lowerWord, ← List.flatMap_def, List.flatMap_singleton', lowerChars_of_isPlain h]

theorem capitalWord_of_isPlain (h : IsPlain (c :: letters)) :
    capitalWord ((c :: letters).map fun d => [d]) = upperAscii c :: letters.map lowerAscii := by
  obtain ⟨hc, hletters⟩ := List.forall_mem_cons.mp h
  have hupper : upperChars [c] = [upperAscii c] :=
    upperChars_of_isPlain fun d hd => by rwa [List.mem_singleton.mp hd]
  rw [List.map_cons, capitalWord, ← List.flatMap_def, List.flatMap_singleton',
    lowerChars_of_isPlain hletters, hupper]
  rfl

end

/-- The first word of a plain name begins with its first character that is no underscore. -/
theorem words_of_isPlain {cs : List Char} (h : IsPlain cs) {c : Char} {rest : List Char}
    (hcs : cs.dropWhile (· = '_') = c :: rest) :
    ∃ letters more, words cs = (c :: letters).map (fun d => [d]) :: more ∧
      IsPlain (c :: letters) := by
  have hne : c ≠ '_' := by
    have hhead := List.head?_dropWhile_not (· = '_') cs
    rw [hcs] at hhead
    simpa using hhead
  have hflatten := flatten_words cs
  rw [clusters_of_isPlain (h.dropWhile _), hcs, List.map_cons,
    List.filter_cons_of_pos (by simpa using hne)] at hflatten
  cases hwords : words cs with
  | nil => rw [hwords] at hflatten; cases hflatten
  | cons word more =>
    obtain ⟨d, letters, rfl, hmem⟩ := exists_of_mem_words h (hwords ▸ List.mem_cons_self)
    rw [hwords, List.flatten_cons, List.map_cons, List.cons_append] at hflatten
    obtain rfl : d = c := by simpa using (List.cons.inj hflatten).1
    exact ⟨letters, more, rfl, fun e he => h e (hmem e he).1⟩

theorem words_of_dropWhile_eq_nil {cs : List Char} (hcs : cs.dropWhile (· = '_') = []) :
    words cs = [] := by
  rw [words_eq_nil_iff]
  simpa using List.dropWhile_eq_nil_iff.mp hcs

theorem head?_intercalate_cons {α : Type} (sep : List α) (x : α) (part : List α)
    (parts : List (List α)) : (sep.intercalate ((x :: part) :: parts)).head? = some x := by
  cases parts <;> simp [List.intercalate_cons_cons]

theorem mem_intercalate {α : Type} {sep : List α} {parts : List (List α)} {x : α}
    (h : x ∈ sep.intercalate parts) : x ∈ sep ∨ ∃ part ∈ parts, x ∈ part := by
  induction parts with
  | nil => simp at h
  | cons part rest ih =>
    cases rest with
    | nil => exact .inr ⟨part, List.mem_cons_self, by simpa using h⟩
    | cons next more =>
      rw [List.intercalate_cons_cons, List.append_assoc, List.mem_append, List.mem_append] at h
      rcases h with h | h | h
      · exact .inr ⟨part, List.mem_cons_self, h⟩
      · exact .inl h
      · obtain hsep | ⟨other, hother, hx⟩ := ih h
        · exact .inl hsep
        · exact .inr ⟨other, List.mem_cons_of_mem _ hother, hx⟩

section

variable {cs : List Char}

/-- A plain name in lower case begins with the lower case of its first character that is no
underscore. -/
theorem head?_snakeChars (h : IsPlain cs) :
    (snakeChars cs).head? = (cs.dropWhile (· = '_')).head?.map lowerAscii := by
  cases hcs : cs.dropWhile (· = '_') with
  | nil => rw [snakeChars, words_of_dropWhile_eq_nil hcs]; rfl
  | cons c rest =>
    obtain ⟨letters, more, hwords, hplain⟩ := words_of_isPlain h hcs
    rw [snakeChars, hwords, List.map_cons, lowerWord_of_isPlain hplain, List.map_cons,
      head?_intercalate_cons]
    rfl

/-- With capitals, it begins with the upper case of that character. -/
theorem head?_pascalChars (h : IsPlain cs) :
    ((words cs).flatMap capitalWord).head? = (cs.dropWhile (· = '_')).head?.map upperAscii := by
  cases hcs : cs.dropWhile (· = '_') with
  | nil => rw [words_of_dropWhile_eq_nil hcs]; rfl
  | cons c rest =>
    obtain ⟨letters, more, hwords, hplain⟩ := words_of_isPlain h hcs
    rw [hwords, List.flatMap_cons, capitalWord_of_isPlain hplain]
    rfl

theorem mem_snakeChars (h : IsPlain cs) {c : Char} (hc : c ∈ snakeChars cs) :
    c = '_' ∨ ∃ d ∈ cs, c = lowerAscii d := by
  refine (mem_intercalate hc).imp (by simp) fun ⟨part, hpart, hmem⟩ => ?_
  obtain ⟨word, hword, rfl⟩ := List.mem_map.mp hpart
  obtain ⟨first, letters, rfl, hletters⟩ := exists_of_mem_words h hword
  rw [lowerWord_of_isPlain fun d hd => h d (hletters d hd).1] at hmem
  obtain ⟨d, hd, rfl⟩ := List.mem_map.mp hmem
  exact ⟨d, (hletters d hd).1, rfl⟩

theorem mem_pascalChars (h : IsPlain cs) {c : Char}
    (hc : c ∈ (words cs).flatMap capitalWord) : ∃ d ∈ cs, c = lowerAscii d ∨ c = upperAscii d := by
  obtain ⟨word, hword, hmem⟩ := List.mem_flatMap.mp hc
  obtain ⟨first, letters, rfl, hletters⟩ := exists_of_mem_words h hword
  rw [capitalWord_of_isPlain fun d hd => h d (hletters d hd).1] at hmem
  rcases List.mem_cons.mp hmem with rfl | hmem
  · exact ⟨first, (hletters first List.mem_cons_self).1, .inr rfl⟩
  · obtain ⟨d, hd, rfl⟩ := List.mem_map.mp hmem
    exact ⟨d, (hletters d (List.mem_cons_of_mem _ hd)).1, .inl rfl⟩

end

end AbiBindings.Text
