import AbiBindings.Proofs.Outline.Interface
import Mathlib.Data.List.TakeWhile

/-!
# Checked types

The check of a parameter goes through its parts, the parameter itself and its components at every
depth, in the order of the document. It fails at the first part whose type text is not a word with
dimensions behind it.

* `brackets`: the text of dimensions that are given by what stands inside their brackets.
* `IsTypeText`: a word without brackets, followed by dimensions of digits.
* `Param.parts`: a parameter with its components at every depth.
* `entriesOf?`: the entries that a text describes.
* `Entry.Accepted`: what an outline asks of an entry.

Results:
* `isTypeText_iff`: the check of a type text decides the grammar.
* `Param.check_eq`: the check of a parameter reports the first of its parts that is not accepted.
* `types_checked`: which parameters pass, and which texts have an outline.
-/

namespace AbiBindings.Outline

/-! ## Type texts -/

/-- The text of dimensions; each is given by what stands inside its brackets. -/
def brackets (ds : List (List Char)) : List Char := ds.flatMap fun d => '[' :: (d ++ [']'])

/-- Whether dimensions hold digits only. A dimension may hold nothing. -/
def Digits (ds : List (List Char)) : Prop := ∀ d ∈ ds, ∀ c ∈ d, Text.isAsciiDigit c = true

/-- Whether a text is a word without brackets followed by dimensions of digits. -/
def IsTypeText (cs : List Char) : Prop :=
  ∃ word ds, word ≠ [] ∧ '[' ∉ word ∧ ']' ∉ word ∧ Digits ds ∧ cs = word ++ brackets ds

theorem brackets_cons (d : List Char) (ds : List (List Char)) :
    brackets (d :: ds) = '[' :: (d ++ ']' :: brackets ds) := by
  simp [brackets]

theorem brackets_concat (ds : List (List Char)) (d : List Char) :
    brackets (ds ++ [d]) = brackets ds ++ '[' :: (d ++ [']']) := by
  simp [brackets]

theorem Digits.concat {ds : List (List Char)} {d : List Char} (h : Digits (ds ++ [d])) :
    Digits ds ∧ ∀ c ∈ d, Text.isAsciiDigit c = true :=
  ⟨fun d' hd' => h d' (List.mem_append_left _ hd'), h d (by simp)⟩

/-- An open dimension is digits up to the bracket that closes it. -/
theorem isOpenDimension_iff {cs : List Char} :
    isOpenDimension cs = true ↔
      ∃ d rest, (∀ c ∈ d, Text.isAsciiDigit c = true) ∧ cs = d ++ ']' :: rest ∧
        isDimensions rest = true := by
  induction cs with
  | nil => simp [isOpenDimension]
  | cons c cs ih =>
    rw [isOpenDimension]
    split
    case isTrue hclose =>
      subst hclose
      constructor
      · exact fun h => ⟨[], cs, by simp, rfl, h⟩
      · rintro ⟨d, rest, hd, heq, hrest⟩
        cases d with
        | nil => rwa [(List.cons.inj heq).2]
        | cons c d =>
          obtain rfl := (List.cons.inj heq).1
          exact absurd (hd _ List.mem_cons_self) (by decide)
    case isFalse hopen =>
      rw [Bool.and_eq_true, ih]
      constructor
      · rintro ⟨hc, d, rest, hd, rfl, hrest⟩
        exact ⟨c :: d, rest, List.forall_mem_cons.mpr ⟨hc, hd⟩, rfl, hrest⟩
      · rintro ⟨d, rest, hd, heq, hrest⟩
        cases d with
        | nil => exact absurd (List.cons.inj heq).1 hopen
        | cons c' d =>
          obtain ⟨rfl, rfl⟩ := List.cons.inj heq
          obtain ⟨hc, hd⟩ := List.forall_mem_cons.mp hd
          exact ⟨hc, d, rest, hd, rfl, hrest⟩

theorem isDimensions_brackets {ds : List (List Char)} (h : Digits ds) :
    isDimensions (brackets ds) = true := by
  induction ds with
  | nil => rfl
  | cons d ds ih =>
    obtain ⟨hd, hds⟩ := List.forall_mem_cons.mp h
    rw [brackets_cons, isDimensions, beq_self_eq_true, Bool.true_and]
    exact isOpenDimension_iff.mpr ⟨d, _, hd, rfl, ih hds⟩

/-- A sequence of dimensions is the text of dimensions of digits. -/
theorem exists_of_isDimensions {cs : List Char} (h : isDimensions cs = true) :
    ∃ ds, Digits ds ∧ cs = brackets ds := by
  induction hn : cs.length using Nat.strongRecOn generalizing cs with
  | ind n ih =>
    cases cs with
    | nil => exact ⟨[], by simp [Digits], rfl⟩
    | cons c cs =>
      rw [isDimensions, Bool.and_eq_true, beq_iff_eq] at h
      obtain ⟨rfl, hopen⟩ := h
      obtain ⟨d, rest, hd, rfl, hrest⟩ := isOpenDimension_iff.mp hopen
      have hshorter : rest.length < n := by simp [← hn]; omega
      obtain ⟨ds, hds, rfl⟩ := ih _ hshorter hrest rfl
      exact ⟨d :: ds, List.forall_mem_cons.mpr ⟨hd, hds⟩, (brackets_cons d ds).symm⟩

/-- A word without an opening bracket ends where the dimensions begin. -/
theorem span_word {word : List Char} (h : '[' ∉ word) (ds : List (List Char)) :
    (word ++ brackets ds).takeWhile (· ≠ '[') = word ∧
      (word ++ brackets ds).dropWhile (· ≠ '[') = brackets ds := by
  have hall : ∀ c ∈ word, decide (c ≠ '[') = true :=
    fun c hc => decide_eq_true fun heq => h (heq ▸ hc)
  rw [List.takeWhile_append_of_pos hall, List.dropWhile_append_of_pos hall]
  cases ds with
  | nil => simp [brackets]
  | cons d ds =>
    rw [brackets_cons, List.takeWhile_cons_of_neg (by decide),
      List.dropWhile_cons_of_neg (by decide), List.append_nil]
    exact ⟨rfl, rfl⟩

/-- The check of a type text decides the grammar. -/
theorem isTypeText_iff {cs : List Char} : isTypeText cs = true ↔ IsTypeText cs := by
  constructor
  · intro h
    simp only [isTypeText, Bool.and_eq_true, Bool.not_eq_true', List.isEmpty_eq_false_iff,
      List.contains_eq_mem, decide_eq_false_iff_not] at h
    obtain ⟨⟨hword, hclose⟩, hdimensions⟩ := h
    obtain ⟨ds, hds, heq⟩ := exists_of_isDimensions hdimensions
    refine ⟨_, ds, hword, fun hopen => ?_, hclose, hds, ?_⟩
    · exact absurd (List.mem_takeWhile_imp hopen) (by decide)
    · rw [← heq, List.takeWhile_append_dropWhile]
  · rintro ⟨word, ds, hword, hopen, hclose, hds, rfl⟩
    obtain ⟨htake, hdrop⟩ := span_word hopen ds
    rw [isTypeText, htake, hdrop, isDimensions_brackets hds]
    simp [hword, hclose]

/-! ## Parts of a parameter -/

mutual

/-- A parameter with its components at every depth, each before its own components. -/
def Param.parts : Param → List Param
  | ⟨name, type, components?, indexed⟩ =>
    ⟨name, type, components?, indexed⟩ :: componentParts components?

/-- The parts of components, if there are any. -/
def componentParts : Option (List Param) → List Param
  | none => []
  | some params => partsOf params

/-- The parts of parameters. -/
def partsOf : List Param → List Param
  | [] => []
  | p :: rest => p.parts ++ partsOf rest

end

theorem partsOf_eq_flatMap (ps : List Param) : partsOf ps = ps.flatMap Param.parts := by
  induction ps with
  | nil => rfl
  | cons p rest ih => rw [partsOf, ih, List.flatMap_cons]

/-- A part of a parameter is the parameter or a part of a component. -/
theorem Param.mem_parts {p q : Param} :
    q ∈ p.parts ↔ q = p ∨ ∃ params, p.components? = some params ∧ ∃ r ∈ params, q ∈ r.parts := by
  obtain ⟨name, type, components?, indexed⟩ := p
  rw [parts, List.mem_cons]
  cases components? with
  | none => simp [componentParts]
  | some params => simp [componentParts, partsOf_eq_flatMap]

/-- Whether the type texts of a parameter and of its components at every depth are accepted. -/
def Param.Accepted (p : Param) : Prop := ∀ q ∈ p.parts, IsTypeText q.type.toList

/-- A parameter is accepted if its type text and its components are. -/
theorem Param.accepted_iff {p : Param} :
    p.Accepted ↔ IsTypeText p.type.toList ∧
      ∀ params, p.components? = some params → ∀ r ∈ params, r.Accepted := by
  constructor
  · intro h
    refine ⟨h p (mem_parts.mpr (.inl rfl)), fun params hparams r hr q hq => h q ?_⟩
    exact mem_parts.mpr (.inr ⟨params, hparams, r, hr, hq⟩)
  · rintro ⟨htype, hcomponents⟩ q hq
    rcases mem_parts.mp hq with rfl | ⟨params, hparams, r, hr, hq⟩
    · exact htype
    · exact hcomponents params hparams r hr q hq

/-- The report about parameters in order: the first whose type text is not accepted. -/
def verdict (ps : List Param) : Except Error Unit :=
  match ps.find? fun p => !isTypeText p.type.toList with
  | none => .ok ()
  | some p => .error (.abi (.badType p.type p.name))

theorem verdict_cons (p : Param) (ps : List Param) :
    verdict (p :: ps) =
      if isTypeText p.type.toList then verdict ps else .error (.abi (.badType p.type p.name)) := by
  rw [verdict, verdict, List.find?_cons]
  cases isTypeText p.type.toList <;> rfl

theorem verdict_append (ps qs : List Param) :
    verdict (ps ++ qs) =
      match verdict ps with
      | .error fault => .error fault
      | .ok () => verdict qs := by
  induction ps with
  | nil => rfl
  | cons p ps ih =>
    rw [List.cons_append, verdict_cons, verdict_cons, ih]
    split <;> rfl

theorem verdict_eq_ok_iff {ps : List Param} :
    verdict ps = .ok () ↔ ∀ p ∈ ps, IsTypeText p.type.toList := by
  induction ps with
  | nil => simp [verdict]
  | cons p ps ih =>
    rw [verdict_cons, List.forall_mem_cons, ← ih, ← isTypeText_iff]
    cases isTypeText p.type.toList <;> simp

theorem exists_of_verdict_eq_error {ps : List Param} {fault : Error}
    (h : verdict ps = .error fault) :
    ∃ p ∈ ps, ¬ IsTypeText p.type.toList ∧ fault = .abi (.badType p.type p.name) := by
  unfold verdict at h
  split at h
  · cases h
  · rename_i p hp
    have hbad := List.find?_some hp
    rw [Bool.not_eq_true'] at hbad
    refine ⟨p, List.mem_of_find?_eq_some hp, fun htext => ?_, (Except.error.inj h).symm⟩
    rw [isTypeText_iff.mpr htext] at hbad
    cases hbad

mutual

/-- The check of a parameter reports the first of its parts that is not accepted. -/
theorem Param.check_eq : ∀ p : Param, p.check = verdict p.parts
  | ⟨name, type, components?, indexed⟩ => by
    rw [Param.check, Param.parts, verdict_cons, checkComponents_eq components?]

theorem checkComponents_eq : ∀ components? : Option (List Param),
    checkComponents components? = verdict (componentParts components?)
  | none => rfl
  | some params => checkParams_eq params

theorem checkParams_eq : ∀ ps : List Param, checkParams ps = verdict (partsOf ps)
  | [] => rfl
  | p :: rest => by
    rw [partsOf, verdict_append, ← Param.check_eq p, ← checkParams_eq rest]
    rfl

end

theorem checkParams_eq_ok_iff {ps : List Param} :
    checkParams ps = .ok () ↔ ∀ p ∈ ps, p.Accepted := by
  rw [checkParams_eq, verdict_eq_ok_iff, partsOf_eq_flatMap]
  simp only [List.mem_flatMap, Param.Accepted]
  exact ⟨fun h p hp q hq => h q ⟨p, hp, hq⟩, fun h q ⟨p, hp, hq⟩ => h p hp q hq⟩

/-! ## Outlines -/

/-- The entries that a text describes, in order. -/
def entriesOf? (text : String) : Option (List Entry) :=
  (Json.parse text).bind fun j => list? Entry.ofJson? ((j.normal.member? "abi").getD j.normal)

/-- What an outline asks of an entry: all its parameters are accepted, and an event has a name. -/
structure Entry.Accepted (e : Entry) : Prop where
  params : ∀ p ∈ e.inputs ++ e.outputs, p.Accepted
  named : e.kind = "event" → e.name?.isSome = true

variable {o : Outline} {e : Entry}

theorem addEntry_accepts_iff : (∃ o', o.addEntry e = .ok o') ↔ e.Accepted := by
  have haccepted : e.Accepted ↔ checkParams (e.inputs ++ e.outputs) = .ok () ∧
      (e.kind = "event" → e.name?.isSome = true) := by
    rw [checkParams_eq_ok_iff]
    exact ⟨fun h => ⟨h.params, h.named⟩, fun h => ⟨h.1, h.2⟩⟩
  rw [haccepted]
  unfold addEntry
  split
  case h_1 fault hfault => simp [hfault]
  case h_2 hok =>
    rw [hok]
    split
    case h_1 hkind => simp [hkind]
    case h_2 hkind => simp [hkind]
    case h_3 hkind => cases e.name? <;> simp [hkind]
    case h_4 _ _ hevent => exact iff_of_true ⟨_, rfl⟩ ⟨rfl, fun h => (hevent h).elim⟩

/-- Entries are taken exactly if each of them is accepted, wherever it stands. -/
theorem addEntries_accepts_iff {es : List Entry} :
    (∃ o', o.addEntries es = .ok o') ↔ ∀ e ∈ es, e.Accepted := by
  induction es generalizing o with
  | nil => simp [addEntries]
  | cons e rest ih =>
    rw [addEntries, List.forall_mem_cons, ← addEntry_accepts_iff (o := o)]
    cases hnext : o.addEntry e with
    | error fault => simp
    | ok next => simp [ih]

theorem parse_accepts_iff {text : String} :
    (∃ o, parse text = .ok o) ↔ ∃ es, entriesOf? text = some es ∧ ∀ e ∈ es, e.Accepted := by
  have hentries : ∀ document : Json, (∃ o, ofEntries document = .ok o) ↔
      ∃ es, list? Entry.ofJson? document = some es ∧ ∀ e ∈ es, e.Accepted := by
    intro document
    rw [ofEntries]
    cases list? Entry.ofJson? document with
    | none => simp
    | some es => simp [addEntries_accepts_iff]
  rw [parse, entriesOf?]
  cases Json.parse text with
  | none => simp
  | some j =>
    rw [Option.bind_some, ← hentries]
    simp only [ofJson]
    cases j.normal.member? "abi" <;> rfl

/-- The check of a parameter succeeds exactly if its type text and those of its components at every
depth are words with dimensions of digits behind them, and otherwise it names one that is not. A
text has an outline exactly if it describes entries of any kinds all of whose parameters pass, and
whose events have names. -/
theorem types_checked :
    (∀ p : Param, (p.check = .ok () ↔ p.Accepted) ∧
      (p.Accepted ↔ IsTypeText p.type.toList ∧
        ∀ params, p.components? = some params → ∀ r ∈ params, r.Accepted) ∧
      ((∃ q ∈ p.parts, ¬ IsTypeText q.type.toList ∧
        p.check = .error (.abi (.badType q.type q.name))) ↔ ¬ p.Accepted)) ∧
      ∀ text : String, (∃ o, parse text = .ok o) ↔
        ∃ es, entriesOf? text = some es ∧ ∀ e ∈ es, e.Accepted := by
  refine ⟨fun p => ?_, fun text => parse_accepts_iff⟩
  have hok : p.check = .ok () ↔ p.Accepted := by
    rw [Param.check_eq, verdict_eq_ok_iff, Param.Accepted]
  refine ⟨hok, p.accepted_iff, fun ⟨q, hq, hbad, _⟩ h => hbad (h q hq), fun h => ?_⟩
  cases hcheck : p.check with
  | ok _ => exact absurd (hok.mp hcheck) h
  | error fault =>
    rw [Param.check_eq] at hcheck
    obtain ⟨q, hq, hbad, rfl⟩ := exists_of_verdict_eq_error hcheck
    exact ⟨q, hq, hbad, rfl⟩

end AbiBindings.Outline
