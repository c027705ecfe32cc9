import AbiBindings.Proofs.Text.Words
import Mathlib.Data.List.TakeWhile

/-!
# Names in snake case

What the words of an identifier in lower case are, said without the words: which characters they
have, where the underscores stand, and at which places the identifier is cut. A name in snake case
has no capitals, so it is cut at its underscores only and stays as it is.

* `IsIdentifier`: a text of letters, digits and underscores below 128.
* `Boundary`: the places at which an identifier is cut; `cutAt` cuts a text at some of them.
* `IsSnake`: groups of small letters and digits with one underscore between two of them.

Results:
* `words_eq_cutAt`: the words of an identifier are what lies between its boundaries.
* `isSnake_snakeChars`: they make a name in snake case.
* `snakeChars_of_isSnake`: such a name is its own.
* `snakeCase_normal`: all of this, and that only underscores and capitals are lost.
-/

namespace AbiBindings.Text

/-- Whether a text has letters, digits and underscores below 128 only. -/
def IsIdentifier (cs : List Char) : Prop := ∀ c ∈ cs, c.isAlphanum = true ∨ c = '_'

instance (cs : List Char) : Decidable (IsIdentifier cs) := List.decidableBAll _ cs

/-! ## Boundaries -/

/-- A character of a text with those beside it. -/
structure Place where
  before : Option Char
  char : Char
  after : Option Char

/-- The places of a text that follows `before`. -/
def placesAfter (before : Option Char) : List Char → List Place
  | [] => []
  | c :: rest => ⟨before, c, rest.head?⟩ :: placesAfter (some c) rest

/-- Where an identifier is cut. -/
inductive Boundary where
  /-- At an underscore, which is dropped. -/
  | underscore
  /-- Between a small letter and a capital. -/
  | lowerUpper
  /-- Between two capitals of which a small letter follows the second. -/
  | acronym
  /-- Between a digit and a capital. -/
  | digitUpper

/-- All of them. -/
def Boundary.all : List Boundary := [.underscore, .lowerUpper, .acronym, .digitUpper]

/-- Whether a text is cut at a place, before its character. -/
def Boundary.isAt : Boundary → Place → Bool
  | .underscore, p => p.char == '_'
  | .lowerUpper, p => p.before.any Char.isLower && p.char.isUpper
  | .acronym, p => p.before.any Char.isUpper && p.char.isUpper && p.after.any Char.isLower
  | .digitUpper, p => p.before.any Char.isDigit && p.char.isUpper

/-- What lies between the boundaries of some places: a part ends where a boundary is, and an
underscore belongs to none. -/
def cutPlaces (boundaries : List Boundary) : List Place → List (List Char)
  | [] => [[]]
  | p :: rest =>
    let parts := cutPlaces boundaries rest
    let parts := if p.char = '_' then parts else parts.modifyHead (p.char :: ·)
    if boundaries.any (·.isAt p) then [] :: parts else parts

/-- What lies between the boundaries of a text, as far as it is not empty. -/
def cutAt (boundaries : List Boundary) (cs : List Char) : List (List Char) :=
  (cutPlaces boundaries (placesAfter none cs)).filter (· ≠ [])

/-! ## Characters -/

section

variable {c : Char}

theorem toNat_lt_of_isAlphanum (h : c.isAlphanum = true) : c.toNat < 0x80 := by
  have hranges : (decide (c.val ≥ 'A'.val ∧ c.val ≤ 'Z'.val) ||
      (decide (c.val ≥ 'a'.val) && decide (c.val ≤ 'z'.val)) ||
      (decide (c.val ≥ '0'.val) && decide (c.val ≤ '9'.val))) = true := h
  simp only [Bool.or_eq_true, Bool.and_eq_true, decide_eq_true_eq, ge_iff_le,
    UInt32.le_iff_toNat_le] at hranges
  have hz : 'z'.val.toNat = 122 := rfl
  have hZ : 'Z'.val.toNat = 90 := rfl
  have h9 : '9'.val.toNat = 57 := rfl
  show c.val.toNat < 0x80
  omega

theorem IsIdentifier.isPlain {cs : List Char} (h : IsIdentifier cs) : IsPlain cs := by
  intro c hc
  rcases h c hc with halnum | rfl
  · exact toNat_lt_of_isAlphanum halnum
  · decide

/-- What the tables say about the cases of a character below 128. -/
theorem cluster_of_lt (h : c.toNat < 0x80) :
    isUpperCluster [c] = c.isUpper ∧ isLowerCluster [c] = c.isLower ∧
      isDigitCluster [c] = c.isDigit := by
  have hplain : IsPlain [c] := fun d hd => by rwa [List.mem_singleton.mp hd]
  have hcases : (([upperAscii c] != [lowerAscii c] && [c] == [upperAscii c]) = c.isUpper) ∧
      (([upperAscii c] != [lowerAscii c] && [c] == [lowerAscii c]) = c.isLower) ∧
      isAsciiDigit c = c.isDigit :=
    of_toNat_lt (p := fun c =>
      (([upperAscii c] != [lowerAscii c] && [c] == [upperAscii c]) = c.isUpper) ∧
      (([upperAscii c] != [lowerAscii c] && [c] == [lowerAscii c]) = c.isLower) ∧
      isAsciiDigit c = c.isDigit) (by decide) h
  obtain ⟨hupper, hlower, hdigit⟩ := hcases
  refine ⟨?_, ?_, ?_⟩
  · rw [isUpperCluster, upperChars_of_isPlain hplain, lowerChars_of_isPlain hplain]
    exact hupper
  · rw [isLowerCluster, upperChars_of_isPlain hplain, lowerChars_of_isPlain hplain]
    exact hlower
  · simpa [isDigitCluster] using hdigit

theorem lowerAscii_eq_toLower (h : c.toNat < 0x80) : lowerAscii c = c.toLower :=
  of_toNat_lt (p := fun c => lowerAscii c = c.toLower) (by decide) h

/-- A letter or digit in lower case is a small letter or a digit. -/
theorem toLower_of_isAlphanum (h : c.isAlphanum = true) :
    (c.toLower.isLower = true ∨ c.toLower.isDigit = true) ∧ c.toLower ≠ '_' :=
  of_toNat_lt (p := fun c => c.isAlphanum = true →
    (c.toLower.isLower = true ∨ c.toLower.isDigit = true) ∧ c.toLower ≠ '_') (by decide)
    (toNat_lt_of_isAlphanum h) h

/-- Small letters and digits are no capitals, and their lower case is what they are. -/
theorem toLower_of_small (h : c.isLower = true ∨ c.isDigit = true) :
    c.isAlphanum = true ∧ c.isUpper = false ∧ c.toLower = c ∧ c ≠ '_' := by
  have halnum : c.isAlphanum = true := by
    show (c.isUpper || c.isLower || c.isDigit) = true
    rcases h with h | h <;> simp [h]
  exact of_toNat_lt (p := fun c => c.isLower = true ∨ c.isDigit = true →
    c.isAlphanum = true ∧ c.isUpper = false ∧ c.toLower = c ∧ c ≠ '_') (by decide)
    (toNat_lt_of_isAlphanum halnum) h

end

/-! ## What lies between the boundaries -/

section

variable {cs : List Char} {boundaries : List Boundary}

/-- The parts of a text from a character on, given those behind it. -/
theorem cutPlaces_cons (p : Place) (places : List Place) :
    cutPlaces boundaries (p :: places) =
      (if boundaries.any (·.isAt p) then List.cons [] else id)
        (if p.char = '_' then cutPlaces boundaries places
          else (cutPlaces boundaries places).modifyHead (p.char :: ·)) := by
  rw [cutPlaces]
  split <;> rfl

theorem cutPlaces_ne_nil (places : List Place) : cutPlaces boundaries places ≠ [] := by
  induction places with
  | nil => simp [cutPlaces]
  | cons p places ih =>
    rw [cutPlaces_cons]
    split
    · simp
    · split <;> simpa using ih

/-- Only the underscores of a text are dropped. -/
theorem flatten_cutPlaces (before : Option Char) (cs : List Char) :
    (cutPlaces boundaries (placesAfter before cs)).flatten = cs.filter (· ≠ '_') := by
  induction cs generalizing before with
  | nil => rfl
  | cons c rest ih =>
    have hparts := ih (some c)
    have hne : cutPlaces boundaries (placesAfter (some c) rest) ≠ [] := cutPlaces_ne_nil _
    obtain ⟨part, more, heq⟩ := List.exists_cons_of_ne_nil hne
    rw [heq] at hparts
    rw [placesAfter, cutPlaces_cons, heq]
    by_cases hc : c = '_' <;> split <;> simp_all

theorem flatten_cutAt (cs : List Char) :
    (cutAt boundaries cs).flatten = cs.filter (· ≠ '_') := by
  rw [cutAt, List.flatten_filter_ne_nil, flatten_cutPlaces]

/-- A part is not empty, and has characters of the text other than underscores. -/
theorem of_mem_cutAt {part : List Char} (h : part ∈ cutAt boundaries cs) :
    part ≠ [] ∧ ∀ c ∈ part, c ∈ cs ∧ c ≠ '_' := by
  refine ⟨by simpa using (List.mem_filter.mp h).2, fun c hc => ?_⟩
  have hmem := List.mem_flatten.mpr ⟨part, h, hc⟩
  rw [flatten_cutAt] at hmem
  simpa using hmem

/-! ## The words of an identifier -/

/-- A word begins at the boundaries that are no underscores. -/
theorem startsWord_eq {before after : Option Char} {c : Char} (hc : c.toNat < 0x80)
    (hne : c ≠ '_') (hbefore : ∀ b ∈ before, b.toNat < 0x80)
    (hafter : ∀ a ∈ after, a.toNat < 0x80) :
    startsWord (before.map ([·])) [c] (after.map ([·])) =
      Boundary.all.any (·.isAt ⟨before, c, after⟩) := by
  obtain ⟨hupper, -, -⟩ := cluster_of_lt hc
  have hnext : (after.map ([·])).any isLowerCluster = after.any Char.isLower := by
    cases after with
    | none => rfl
    | some a => exact (cluster_of_lt (hafter a rfl)).2.1
  cases before with
  | none => simp [startsWord, Boundary.all, Boundary.isAt, hne]
  | some b =>
    obtain ⟨hupper', hlower', hdigit'⟩ := cluster_of_lt (hbefore b rfl)
    simp only [startsWord, Option.map_some, hupper, hupper', hlower', hdigit', hnext, Boundary.all,
      List.any_cons, List.any_nil, Boundary.isAt, Option.any_some, beq_eq_false_iff_ne.mpr hne]
    cases c.isUpper <;> cases b.isLower <;> cases b.isDigit <;> simp

theorem modifyHead_nil_append (parts : List (List Char)) :
    parts.modifyHead (([] : List Cluster).flatten ++ ·) = parts := by
  cases parts <;> rfl

/-- The words of a plain text are collected as its parts are, from the other end. -/
theorem flatten_wordsAfter_eq (h : IsPlain cs) (before : Option Char)
    (hbefore : ∀ b ∈ before, b.toNat < 0x80) (word : List Cluster) :
    (wordsAfter (before.map ([·])) word (cs.map ([·]))).map List.flatten =
      (cutPlaces Boundary.all (placesAfter before cs)).modifyHead (word.flatten ++ ·) := by
  induction cs generalizing before word with
  | nil => simp [wordsAfter, placesAfter, cutPlaces]
  | cons c rest ih =>
    obtain ⟨hc, hrest⟩ := List.forall_mem_cons.mp h
    have hlast : ∀ b ∈ some c, b.toNat < 0x80 := fun b hb => Option.some.inj hb ▸ hc
    have ih := ih hrest (some c) hlast
    rw [Option.map_some] at ih
    rw [List.map_cons, wordsAfter, placesAfter, cutPlaces_cons]
    by_cases hunder : c = '_'
    · -- The open word ends, and what follows is a word of its own.
      subst hunder
      have hboundary : Boundary.all.any (·.isAt ⟨before, '_', rest.head?⟩) = true := rfl
      rw [if_pos rfl, if_pos hboundary, if_pos rfl, List.map_cons, ih [], modifyHead_nil_append,
        List.modifyHead_cons, List.append_nil]
    · have hafter : ∀ a ∈ rest.head?, a.toNat < 0x80 := fun a ha => hrest a (List.mem_of_head? ha)
      have hstarts := startsWord_eq hc hunder hbefore hafter
      rw [if_neg (by simpa using hunder), List.head?_map, hstarts, if_neg hunder]
      split
      · rw [List.map_cons, ih [[c]]]
        simp
      · rw [ih (word ++ [[c]]), id, List.modifyHead_modifyHead]
        congr 1
        funext part
        simp

/-- The words of an identifier are what lies between its boundaries. -/
theorem words_eq_cutAt (h : IsPlain cs) :
    (words cs).map List.flatten = cutAt Boundary.all (cs.dropWhile (· = '_')) := by
  have hplain := h.dropWhile (· = '_')
  have hwords := flatten_wordsAfter_eq hplain none (by simp) []
  rw [modifyHead_nil_append, Option.map_none, ← clusters_of_isPlain hplain] at hwords
  rw [words, cutAt, ← hwords, List.filter_map]
  congr 1
  refine List.filter_congr fun word hword => ?_
  -- A word of no characters would be one of no clusters, as no cluster is empty.
  have hiff : word = [] ↔ word.flatten = [] := by
    refine ⟨fun hnil => by rw [hnil]; rfl, fun hnil => ?_⟩
    refine List.eq_nil_iff_forall_not_mem.mpr fun cluster hcluster => ?_
    have hmem := List.mem_flatten.mpr ⟨word, hword, hcluster⟩
    rw [flatten_wordsAfter, List.nil_append] at hmem
    obtain ⟨c, -, marks, rfl, -⟩ := exists_of_mem_clusters (List.mem_filter.mp hmem).1
    exact absurd (List.flatten_eq_nil_iff.mp hnil _ hcluster) (List.cons_ne_nil _ _)
  exact decide_eq_decide.mpr (not_congr hiff)

/-- An identifier in snake case is what lies between its boundaries, in lower case and with
underscores between. -/
theorem snakeChars_eq (h : IsPlain cs) :
    snakeChars cs = ['_'].intercalate
      ((cutAt Boundary.all (cs.dropWhile (· = '_'))).map (·.map Char.toLower)) := by
  rw [snakeChars, ← words_eq_cutAt h, List.map_map]
  congr 1
  refine List.map_congr_left fun word hword => ?_
  have hplain : IsPlain word.flatten := by
    intro c hc
    obtain ⟨first, letters, rfl, hmem⟩ := exists_of_mem_words h hword
    rw [← List.flatMap_def, List.flatMap_singleton'] at hc
    exact h c (hmem c hc).1
  rw [lowerWord, lowerChars_of_isPlain hplain, Function.comp_apply]
  exact List.map_congr_left fun c hc => lowerAscii_eq_toLower (hplain c hc)

end

/-! ## Snake case -/

/-- Groups of small letters and digits, none of them empty, with one underscore between two. -/
structure IsSnake (cs : List Char) : Prop where
  grouped : ∃ groups : List (List Char), cs = ['_'].intercalate groups ∧
    ∀ group ∈ groups, group ≠ [] ∧ ∀ c ∈ group, c.isLower = true ∨ c.isDigit = true
  head_ne : ∀ c ∈ cs.head?, c ≠ '_'
  last_ne : ∀ c ∈ cs.getLast?, c ≠ '_'

section

variable {cs : List Char}

/-- Groups make a name in snake case, which begins and ends as its groups do. -/
theorem IsSnake.of_groups {groups : List (List Char)}
    (h : ∀ group ∈ groups, group ≠ [] ∧ ∀ c ∈ group, c.isLower = true ∨ c.isDigit = true) :
    IsSnake (['_'].intercalate groups) := by
  refine ⟨⟨groups, rfl, h⟩, ?_, ?_⟩
  · intro c hc
    match groups with
    | [] => simp at hc
    | [] :: rest => exact absurd rfl (h [] List.mem_cons_self).1
    | (d :: group) :: rest =>
      rw [head?_intercalate_cons] at hc
      obtain rfl : d = c := Option.some.inj hc
      exact (toLower_of_small ((h _ List.mem_cons_self).2 d List.mem_cons_self)).2.2.2
  · intro c hc
    by_cases hgroups : groups = []
    · simp [hgroups] at hc
    · have hclosed : IsClosed (['_'].intercalate groups) := by
        refine isClosed_intercalate hgroups fun group hgroup => ?_
        obtain ⟨hne, hsmall⟩ := h group hgroup
        exact ⟨group.getLast hne, List.getLast?_eq_some_getLast hne,
          (toLower_of_small (hsmall _ (List.getLast_mem hne))).2.2.2⟩
      obtain ⟨d, hd, hne⟩ := hclosed
      obtain rfl : d = c := Option.some.inj (hd.symm.trans hc)
      exact hne

theorem isSnake_snakeChars (h : IsIdentifier cs) : IsSnake (snakeChars cs) := by
  rw [snakeChars_eq h.isPlain]
  refine .of_groups fun group hgroup => ?_
  obtain ⟨part, hpart, rfl⟩ := List.mem_map.mp hgroup
  obtain ⟨hne, hmem⟩ := of_mem_cutAt hpart
  refine ⟨by simpa using hne, fun c hc => ?_⟩
  obtain ⟨d, hd, rfl⟩ := List.mem_map.mp hc
  obtain ⟨hdrop, hunder⟩ := hmem d hd
  have halnum := (h d ((List.dropWhile_suffix _).subset hdrop)).resolve_right hunder
  exact (toLower_of_isAlphanum halnum).1

theorem dropWhile_eq_self (h : ∀ c ∈ cs.head?, c ≠ '_') : cs.dropWhile (· = '_') = cs := by
  cases cs with
  | nil => rfl
  | cons c rest => exact List.dropWhile_cons_of_neg (by simpa using h c rfl)

/-- A text without capitals is cut at its underscores only. -/
theorem cutPlaces_of_small (h : ∀ c ∈ cs, c.isUpper = false) (before : Option Char) :
    cutPlaces Boundary.all (placesAfter before cs) = cs.splitOn '_' := by
  induction cs generalizing before with
  | nil => rfl
  | cons c rest ih =>
    obtain ⟨hc, hrest⟩ := List.forall_mem_cons.mp h
    have hboundary : Boundary.all.any (·.isAt ⟨before, c, rest.head?⟩) = (c == '_') := by
      simp [Boundary.all, Boundary.isAt, hc]
    rw [placesAfter, cutPlaces_cons, hboundary, ih hrest, List.splitOn_cons_eq_if_modifyHead]
    by_cases hunder : c = '_' <;> simp [hunder]

/-- A name in snake case is its own. -/
theorem snakeChars_of_isSnake (h : IsSnake cs) : snakeChars cs = cs := by
  obtain ⟨⟨groups, rfl, hgroups⟩, hhead, -⟩ := h
  have hsmall : ∀ group ∈ groups, ∀ c ∈ group,
      c.isAlphanum = true ∧ c.isUpper = false ∧ c.toLower = c ∧ c ≠ '_' :=
    fun group hgroup c hc => toLower_of_small ((hgroups group hgroup).2 c hc)
  have hplain : IsPlain (['_'].intercalate groups) := by
    intro c hc
    rcases mem_intercalate hc with hunder | ⟨group, hgroup, hmem⟩
    · rw [List.mem_singleton.mp hunder]
      decide
    · exact toNat_lt_of_isAlphanum (hsmall group hgroup c hmem).1
  have hupper : ∀ c ∈ ['_'].intercalate groups, c.isUpper = false := by
    intro c hc
    rcases mem_intercalate hc with hunder | ⟨group, hgroup, hmem⟩
    · rw [List.mem_singleton.mp hunder]
      rfl
    · exact (hsmall group hgroup c hmem).2.1
  have hdrop := dropWhile_eq_self hhead
  have hcut : cutAt Boundary.all (['_'].intercalate groups) = groups := by
    rw [cutAt, cutPlaces_of_small hupper]
    by_cases hnil : groups = []
    · rw [hnil]
      rfl
    · rw [List.splitOn_intercalate '_' (fun group hgroup hmem =>
        (hsmall group hgroup '_' hmem).2.2.2 rfl) hnil, List.filter_eq_self]
      exact fun group hgroup => by simpa using (hgroups group hgroup).1
  rw [snakeChars_eq hplain, hdrop, hcut]
  have hlower : ∀ group ∈ groups, group.map Char.toLower = id group := fun group hgroup =>
    (List.map_congr_left fun c hc => (hsmall group hgroup c hc).2.2.1).trans (List.map_id group)
  rw [List.map_congr_left hlower, List.map_id]

/-- What stands between the parts is all that is taken out. -/
theorem filter_intercalate {parts : List (List Char)} (h : ∀ part ∈ parts, ∀ c ∈ part, c ≠ '_') :
    (['_'].intercalate parts).filter (· ≠ '_') = parts.flatten := by
  induction parts with
  | nil => rfl
  | cons part rest ih =>
    obtain ⟨hpart, hrest⟩ := List.forall_mem_cons.mp h
    have hself : part.filter (· ≠ '_') = part := by simpa using hpart
    cases rest with
    | nil => simpa using hpart
    | cons next more =>
      rw [List.intercalate_cons_cons, List.filter_append, List.filter_append, hself, ih hrest]
      simp

theorem filter_dropWhile (cs : List Char) :
    (cs.dropWhile (· = '_')).filter (· ≠ '_') = cs.filter (· ≠ '_') := by
  have hfront : (cs.takeWhile (· = '_')).filter (· ≠ '_') = [] := by
    refine List.filter_eq_nil_iff.mpr fun c hc => ?_
    simpa using List.mem_takeWhile_imp hc
  have hsplit : cs.filter (· ≠ '_') =
      (cs.takeWhile (· = '_') ++ cs.dropWhile (· = '_')).filter (· ≠ '_') := by
    rw [List.takeWhile_append_dropWhile]
  rw [hsplit, List.filter_append, hfront, List.nil_append]

/-- Nothing is lost but underscores and the case of letters. -/
theorem filter_snakeChars (h : IsIdentifier cs) :
    (snakeChars cs).filter (· ≠ '_') = (cs.filter (· ≠ '_')).map Char.toLower := by
  rw [snakeChars_eq h.isPlain, filter_intercalate, ← List.map_flatten, flatten_cutAt,
    filter_dropWhile]
  intro group hgroup c hc
  obtain ⟨part, hpart, rfl⟩ := List.mem_map.mp hgroup
  obtain ⟨d, hd, rfl⟩ := List.mem_map.mp hc
  obtain ⟨hdrop, hunder⟩ := (of_mem_cutAt hpart).2 d hd
  have halnum := (h d ((List.dropWhile_suffix _).subset hdrop)).resolve_right hunder
  exact (toLower_of_isAlphanum halnum).2

end

/-- An identifier in snake case has groups of small letters and digits with single underscores
between them, none if the identifier has underscores only; it is its own snake case; without its
underscores it is the identifier without underscores, in lower case. Its groups are what lies
between the boundaries of the identifier behind the underscores at its front. -/
theorem snakeCase_normal (name : String) (h : IsIdentifier name.toList) :
    IsSnake (snakeCase name).toList ∧
    (snakeCase name = "" ↔ ∀ c ∈ name.toList, c = '_') ∧
    snakeCase (snakeCase name) = snakeCase name ∧
    (snakeCase name).toList.filter (· ≠ '_') =
      (name.toList.filter (· ≠ '_')).map Char.toLower ∧
    (words name.toList).map List.flatten =
      cutAt Boundary.all (name.toList.dropWhile (· = '_')) := by
  have hlist : (snakeCase name).toList = snakeChars name.toList := String.toList_ofList
  have hsnake := isSnake_snakeChars h
  refine ⟨?_, ?_, ?_, ?_, words_eq_cutAt h.isPlain⟩
  · rwa [hlist]
  · rw [← String.toList_inj, hlist, String.toList_empty, snakeChars_eq_nil_iff]
  · rw [← String.toList_inj, snakeCase, String.toList_ofList, hlist, snakeChars_of_isSnake hsnake]
  · rw [hlist, filter_snakeChars h]

/-- Runs of underscores, acronyms and digits in one name. -/
theorem snakeCase_server :
    IsIdentifier "__HTTPServer2XX__v3_".toList ∧
    snakeCase "__HTTPServer2XX__v3_" = "http_server2_xx_v3" ∧
    snakeCase "http_server2_xx_v3" = "http_server2_xx_v3" := by
  have h : IsIdentifier "__HTTPServer2XX__v3_".toList := by decide
  have hname : snakeCase "__HTTPServer2XX__v3_" = "http_server2_xx_v3" := by decide +kernel
  refine ⟨h, hname, ?_⟩
  rw [← hname]
  exact (snakeCase_normal _ h).2.2.1

end AbiBindings.Text
