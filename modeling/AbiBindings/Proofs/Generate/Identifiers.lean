import AbiBindings.Proofs.Generate.Arguments

/-!
# Legal names

A name of letters, digits and underscores is rewritten by its words, which may begin with a digit
that stood behind underscores, and may be a keyword that was spelled otherwise. Reserved words get
an underscore behind them and repeated names a number, after which they are keywords no more.

* `keywords`: the words that are no names in the language of generated modules.
* `isLegal`: the names of that language.
* `unescaped`: the keywords in small letters that are not reserved.
* `BeginsWithLetter`: a name whose first character other than an underscore is a letter.

Results:
* `isLegal_snakeCase_iff`, `isLegal_pascalCase_iff`: when the words of a name make a legal one.
* `isLegal_numbered_iff`: a name with a number behind it needs only a legal beginning.
* `getElem?_distinctNames`: the number behind a name counts what was taken and stood before.
* `names_legal`: which names of a module are legal.
* `not_names_legal`: not all are.

**Deviation.** Eleven keywords are not reserved, `become` among them, the types for the contract and
for events are not escaped at all, and nothing is put in front of a digit.
-/

namespace AbiBindings.Generate

/-! ## The language of generated modules -/

/-- The words that are no names, whether they are in use or set aside. -/
def keywords : List String := [
  "as", "async", "await", "break", "const", "continue", "crate", "dyn", "else", "enum", "extern",
  "false", "fn", "for", "if", "impl", "in", "let", "loop", "match", "mod", "move", "mut", "pub",
  "ref", "return", "self", "Self", "static", "struct", "super", "trait", "true", "type", "unsafe",
  "use", "where", "while", "abstract", "become", "box", "do", "final", "macro", "override", "priv",
  "try", "typeof", "unsized", "virtual", "yield"]

/-- Whether a text is a name: letters, digits and underscores, not only one underscore, with no
digit at the front, and no keyword. -/
def isLegal (name : String) : Bool :=
  name.toList.head?.any (!Text.isAsciiDigit ·) && name.toList.all isNameCharacter && name != "_" &&
    !keywords.contains name

/-- The keywords in small letters that are not reserved. -/
def unescaped : List String := [
  "abstract", "become", "do", "final", "macro", "override", "priv", "try", "typeof", "unsized",
  "virtual"]

/-- The first character of a name that is no underscore. -/
def firstLetter? (name : String) : Option Char := (name.toList.dropWhile (· = '_')).head?

/-- Whether the first character of a name that is no underscore is a letter. -/
def BeginsWithLetter (name : String) : Prop := ∃ c ∈ firstLetter? name, isAsciiLetter c = true

/-- Whether a text has letters, digits and underscores only. -/
def HasNameCharacters (name : String) : Prop := ∀ c ∈ name.toList, isNameCharacter c = true

/-! ## Characters -/

section

variable {c : Char}

theorem toNat_lt_of_isNameCharacter (h : isNameCharacter c = true) : c.toNat < 0x80 := by
  simp only [isNameCharacter, isAsciiLetter, Text.isAsciiDigit, Bool.or_eq_true, Bool.and_eq_true,
    decide_eq_true_eq, beq_iff_eq, Char.le_def, UInt32.le_iff_toNat_le] at h
  rcases h with (h | h) | rfl
  · have hz : 'z'.val.toNat = 122 := rfl
    have hZ : 'Z'.val.toNat = 90 := rfl
    show c.val.toNat < 0x80
    omega
  · have h9 : '9'.val.toNat = 57 := rfl
    show c.val.toNat < 0x80
    omega
  · decide

/-- A character of names is one of few. -/
theorem of_isNameCharacter {p : Char → Prop}
    (hp : ∀ n < 0x80, isNameCharacter (Char.ofNat n) = true → p (Char.ofNat n))
    (h : isNameCharacter c = true) : p c :=
  Text.of_toNat_lt (p := fun c => isNameCharacter c = true → p c) hp
    (toNat_lt_of_isNameCharacter h) h

/-- What the lower case of a character keeps. -/
theorem lowerAscii_kept (h : isNameCharacter c = true) :
    isNameCharacter (Text.lowerAscii c) = true ∧
      Text.isAsciiDigit (Text.lowerAscii c) = Text.isAsciiDigit c :=
  of_isNameCharacter (p := fun c => isNameCharacter (Text.lowerAscii c) = true ∧
    Text.isAsciiDigit (Text.lowerAscii c) = Text.isAsciiDigit c) (by decide) h

/-- The upper case keeps the same. -/
theorem upperAscii_kept (h : isNameCharacter c = true) :
    isNameCharacter (Text.upperAscii c) = true ∧
      Text.isAsciiDigit (Text.upperAscii c) = Text.isAsciiDigit c :=
  of_isNameCharacter (p := fun c => isNameCharacter (Text.upperAscii c) = true ∧
    Text.isAsciiDigit (Text.upperAscii c) = Text.isAsciiDigit c) (by decide) h

/-- Only an underscore is neither a letter nor a digit. -/
theorem isAsciiLetter_iff (h : isNameCharacter c = true) (hc : c ≠ '_') :
    isAsciiLetter c = true ↔ Text.isAsciiDigit c = false :=
  of_isNameCharacter (p := fun c => c ≠ '_' →
    (isAsciiLetter c = true ↔ Text.isAsciiDigit c = false)) (by decide) h hc

theorem lowerAscii_ne (h : isNameCharacter c = true) : Text.lowerAscii c ≠ 'S' :=
  of_isNameCharacter (p := fun c => Text.lowerAscii c ≠ 'S') (by decide) h

theorem upperAscii_le (h : isAsciiLetter c = true) : Text.upperAscii c ≤ 'Z' :=
  of_isNameCharacter (p := fun c => isAsciiLetter c = true → Text.upperAscii c ≤ 'Z')
    (by decide) (by simp [isNameCharacter, h]) h

end

section

variable {name : String}

theorem HasNameCharacters.isPlain (h : HasNameCharacters name) : Text.IsPlain name.toList :=
  fun c hc => toNat_lt_of_isNameCharacter (h c hc)

theorem hasNameCharacters_snakeCase (h : HasNameCharacters name) :
    HasNameCharacters (Text.snakeCase name) := by
  intro c hc
  rw [Text.snakeCase, String.toList_ofList] at hc
  obtain rfl | ⟨d, hd, rfl⟩ := Text.mem_snakeChars h.isPlain hc
  · decide
  · exact (lowerAscii_kept (h d hd)).1

theorem hasNameCharacters_pascalCase (h : HasNameCharacters name) :
    HasNameCharacters (Text.pascalCase name) := by
  intro c hc
  rw [Text.pascalCase, String.toList_ofList] at hc
  obtain ⟨d, hd, rfl | rfl⟩ := Text.mem_pascalChars h.isPlain hc
  · exact (lowerAscii_kept (h d hd)).1
  · exact (upperAscii_kept (h d hd)).1

theorem HasNameCharacters.append {more : String} (h : HasNameCharacters name)
    (hmore : HasNameCharacters more) : HasNameCharacters (name ++ more) := by
  intro c hc
  rw [String.toList_append] at hc
  exact (List.mem_append.mp hc).elim (h c) (hmore c)

theorem hasNameCharacters_number (n : Nat) : HasNameCharacters (toString n) :=
  fun c hc => by simp [isNameCharacter, isAsciiDigit_of_mem_number hc]

theorem hasNameCharacters_escape (h : HasNameCharacters name) :
    HasNameCharacters (escape name) := by
  rcases escape_cases name with ⟨heq, -⟩ | ⟨heq, -⟩ <;> rw [heq]
  · exact h
  · exact h.append fun c hc => by
      rw [List.mem_singleton.mp hc]
      decide

theorem hasNameCharacters_numbered (h : HasNameCharacters name) (n : Nat) :
    HasNameCharacters (numbered name n) := by
  cases n with
  | zero => exact h
  | succ n => exact h.append (hasNameCharacters_number n)

/-! ## Beginnings -/

/-- Whether the first character of a text is there and is no digit. -/
def BeginsLegally (name : String) : Prop := ∃ c ∈ name.toList.head?, Text.isAsciiDigit c = false

theorem beginsLegally_iff_any :
    BeginsLegally name ↔ name.toList.head?.any (!Text.isAsciiDigit ·) = true := by
  rw [BeginsLegally]
  cases name.toList.head? <;> simp

/-- A name of the right characters is legal if it begins well and is no keyword. -/
theorem isLegal_iff (h : HasNameCharacters name) :
    isLegal name = true ↔ BeginsLegally name ∧ name ≠ "_" ∧ name ∉ keywords := by
  have hall : name.toList.all isNameCharacter = true := List.all_eq_true.mpr h
  simp [isLegal, hall, beginsLegally_iff_any, and_assoc]

theorem mem_firstLetter? {c : Char} (hc : c ∈ firstLetter? name) : c ∈ name.toList ∧ c ≠ '_' := by
  obtain ⟨rest, hrest⟩ := List.head?_eq_some_iff.mp (Option.mem_def.mp hc)
  refine ⟨(List.dropWhile_suffix _).subset (hrest ▸ List.mem_cons_self), ?_⟩
  have hhead := List.head?_dropWhile_not (· = '_') name.toList
  rw [hrest] at hhead
  simpa using hhead

/-- A case in which a name is rewritten: its first letter decides how the result begins. -/
theorem beginsLegally_iff {result : String} {f : Char → Char} (h : HasNameCharacters name)
    (hresult : result.toList.head? = (firstLetter? name).map f)
    (hf : ∀ c, isNameCharacter c = true → Text.isAsciiDigit (f c) = Text.isAsciiDigit c) :
    BeginsLegally result ↔ BeginsWithLetter name := by
  rw [BeginsLegally, hresult, BeginsWithLetter]
  cases hfirst : firstLetter? name with
  | none => simp
  | some c =>
    obtain ⟨hmem, hne⟩ := mem_firstLetter? hfirst
    simp [hf c (h c hmem), isAsciiLetter_iff (h c hmem) hne]

theorem beginsLegally_snakeCase_iff (h : HasNameCharacters name) :
    BeginsLegally (Text.snakeCase name) ↔ BeginsWithLetter name := by
  refine beginsLegally_iff (f := Text.lowerAscii) h ?_ fun c hc => (lowerAscii_kept hc).2
  rw [Text.snakeCase, String.toList_ofList, Text.head?_snakeChars h.isPlain, firstLetter?]

theorem beginsLegally_pascalCase_iff (h : HasNameCharacters name) :
    BeginsLegally (Text.pascalCase name) ↔ BeginsWithLetter name := by
  refine beginsLegally_iff (f := Text.upperAscii) h ?_ fun c hc => (upperAscii_kept hc).2
  rw [Text.pascalCase, String.toList_ofList, Text.head?_pascalChars h.isPlain, firstLetter?]

/-- What stands behind a text that is not empty does not change how it begins. -/
theorem beginsLegally_append (hne : name ≠ "") (more : String) :
    BeginsLegally (name ++ more) ↔ BeginsLegally name := by
  have hhead : (name ++ more).toList.head? = name.toList.head? := by
    rw [String.toList_append]
    cases hchars : name.toList with
    | nil => exact absurd (String.toList_eq_nil_iff.mp hchars) hne
    | cons c rest => rfl
  rw [BeginsLegally, BeginsLegally, hhead]

theorem beginsLegally_escape_iff : BeginsLegally (escape name) ↔ BeginsLegally name := by
  rcases escape_cases name with ⟨heq, -⟩ | ⟨heq, hreserved⟩ <;> rw [heq]
  refine beginsLegally_append ?_ "_"
  rintro rfl
  exact absurd hreserved (by decide)

theorem not_beginsLegally_number (n : Nat) : ¬ BeginsLegally (toString n) := by
  rintro ⟨c, hc, hfalse⟩
  rw [isAsciiDigit_of_mem_number (List.mem_of_head? hc)] at hfalse
  cases hfalse

/-- A number behind a name makes it legal as soon as it begins well. -/
theorem isLegal_numbered_iff (h : HasNameCharacters name) (n : Nat) :
    isLegal (numbered name n) = true ↔
      BeginsLegally name ∧ (n = 0 → name ≠ "_" ∧ name ∉ keywords) := by
  rw [isLegal_iff (hasNameCharacters_numbered h n)]
  cases n with
  | zero => simp [numbered]
  | succ n =>
    have hdigit : endsInDigit (numbered name (n + 1)) = true := endsInDigit_append_number name n
    have hkeywords : ∀ word ∈ "_" :: keywords, endsInDigit word = false := by decide
    have hfree : numbered name (n + 1) ∉ "_" :: keywords := by
      intro hmem
      rw [hkeywords _ hmem] at hdigit
      cases hdigit
    rw [List.mem_cons, not_or] at hfree
    have hbegins : BeginsLegally (numbered name (n + 1)) ↔ BeginsLegally name := by
      by_cases hne : name = ""
      · subst hne
        rw [numbered, String.empty_append]
        exact iff_of_false (not_beginsLegally_number n) (by simp [BeginsLegally])
      · exact beginsLegally_append hne _
    simp [hbegins, hfree]

/-! ## Words -/

theorem snakeCase_ne_self (h : HasNameCharacters name) : Text.snakeCase name ≠ "Self" := by
  intro heq
  have hhead := Text.head?_snakeChars h.isPlain
  rw [← String.toList_ofList (l := Text.snakeChars name.toList), ← Text.snakeCase, heq] at hhead
  obtain ⟨c, hc, hlower⟩ := Option.map_eq_some_iff.mp hhead.symm
  exact lowerAscii_ne (h c (mem_firstLetter? hc).1) hlower

/-- Escaping makes words names, except for the keywords that are not reserved. -/
theorem escape_free_iff (hopen : ∀ front, name ≠ front ++ "_") (hself : name ≠ "Self") :
    escape name ≠ "_" ∧ escape name ∉ keywords ↔ name ∉ unescaped := by
  have hkeywords : ∀ word ∈ keywords, word ∈ reserved ∨ word ∈ unescaped ∨ word = "Self" := by
    decide
  have hunescaped : ∀ word ∈ unescaped, word ∈ keywords := by decide
  have hreserved : ∀ word ∈ reserved,
      word ++ "_" ≠ "_" ∧ word ++ "_" ∉ keywords ∧ word ∉ unescaped := by decide
  rcases escape_cases name with ⟨heq, hfree⟩ | ⟨heq, hmem⟩ <;> rw [heq]
  · constructor
    · exact fun h hbad => h.2 (hunescaped _ hbad)
    · refine fun h => ⟨hopen "", fun hword => ?_⟩
      rcases hkeywords _ hword with hword | hword | hword
      · exact hfree hword
      · exact h hword
      · exact hself hword
  · obtain ⟨hone, hno, hescaped⟩ := hreserved _ hmem
    exact iff_of_true ⟨hone, hno⟩ hescaped

/-- The words of a name, escaped and numbered, are legal exactly if the name begins with a letter
and they are no keyword that is left as it is. -/
theorem isLegal_snakeCase_iff (h : HasNameCharacters name) (n : Nat) :
    isLegal (numbered (escape (Text.snakeCase name)) n) = true ↔
      BeginsWithLetter name ∧ (n = 0 → Text.snakeCase name ∉ unescaped) := by
  have hchars := hasNameCharacters_escape (hasNameCharacters_snakeCase h)
  rw [isLegal_numbered_iff hchars, beginsLegally_escape_iff, beginsLegally_snakeCase_iff h,
    escape_free_iff (Text.snakeCase_ne_append_underscore name) (snakeCase_ne_self h)]

/-- With capitals they are legal exactly if the name begins with a letter and they are not the only
keyword that begins with a capital. -/
theorem isLegal_pascalCase_iff (h : HasNameCharacters name) (n : Nat) :
    isLegal (numbered (Text.pascalCase name) n) = true ↔
      BeginsWithLetter name ∧ (n = 0 → Text.pascalCase name ≠ "Self") := by
  rw [isLegal_numbered_iff (hasNameCharacters_pascalCase h), beginsLegally_pascalCase_iff h]
  refine and_congr_right fun ⟨c, hc, hletter⟩ => imp_congr_right fun _ => ?_
  have hsmall : ∀ word ∈ "_" :: keywords, word = "Self" ∨
      word.toList.head?.all (fun d => !decide (d ≤ 'Z')) = true := by decide
  have hmember : "Self" ∈ "_" :: keywords := by decide
  have hhead : Text.upperAscii c ∈ (Text.pascalCase name).toList.head? := by
    rw [Text.pascalCase, String.toList_ofList, Text.head?_pascalChars h.isPlain, ← firstLetter?,
      Option.mem_def.mp hc]
    rfl
  rw [← not_or, ← List.mem_cons]
  refine not_congr ⟨fun hmem => (hsmall _ hmem).resolve_right fun hall => ?_,
    fun hself => hself ▸ hmember⟩
  rw [Option.mem_def.mp hhead, Option.all_some, Bool.not_eq_true', decide_eq_false_iff_not] at hall
  exact hall (upperAscii_le hletter)

/-- An argument has a legal name if its parameter has no words, and else if these are legal. -/
theorem isLegal_argumentName_iff {p : Outline.Param × Nat} (h : HasNameCharacters p.1.name) :
    isLegal (argumentName p.1 p.2) = true ↔ (∀ c ∈ p.1.name.toList, c = '_') ∨
      (BeginsWithLetter p.1.name ∧ Text.snakeCase p.1.name ∉ unescaped) := by
  have hempty : Text.snakeCase p.1.name = "" ↔ ∀ c ∈ p.1.name.toList, c = '_' := by
    rw [← Text.snakeChars_eq_nil_iff, Text.snakeCase]
    exact String.ofList_eq_empty_iff
  rw [argumentName_eq_escape, label, ← hempty]
  split
  case isTrue hnone =>
    have harg : HasNameCharacters "arg" := List.all_eq_true.mp (by decide)
    rw [escape_positionName]
    refine iff_of_true ((isLegal_numbered_iff harg (p.2 + 1)).mpr ⟨⟨'a', rfl, by decide⟩, ?_⟩)
      (.inl hnone)
    exact fun hzero => absurd hzero (Nat.succ_ne_zero _)
  case isFalse hsome =>
    have hlegal := isLegal_snakeCase_iff h 0
    simp only [numbered, true_imp_iff] at hlegal
    rw [hlegal, or_iff_right hsome]

end

/-! ## Numbers behind names -/

theorem getElem?_distinctAfter (seen names : List String) (i : Nat) :
    (distinctAfter seen names)[i]? =
      names[i]?.map fun name => numbered name (seen.count name + (names.take i).count name) := by
  induction names generalizing seen i with
  | nil => rfl
  | cons name rest ih =>
    cases i with
    | zero => simp [distinctAfter]
    | succ i =>
      rw [distinctAfter, List.getElem?_cons_succ, List.getElem?_cons_succ, ih]
      refine Option.map_congr fun other _ => ?_
      rw [List.take_succ_cons, List.count_cons, List.count_cons]
      congr 1
      omega

/-- The number behind a name counts how often it was taken and stands before. -/
theorem getElem?_distinctNames (taken names : List String) (i : Nat) :
    (distinctNames taken names)[i]? = names[i]?.map fun name =>
      numbered name (taken.eraseDups.count name + (names.take i).count name) :=
  getElem?_distinctAfter _ _ _

/-- What an outline takes its names from: contracts, functions, events and parameters are called by
letters, digits and underscores. -/
structure HasPlainNames (o : Outline) : Prop where
  functions : ∀ f ∈ o.functions, HasNameCharacters f.name
  events : ∀ e ∈ o.events, HasNameCharacters e.name
  deployed : ∀ f ∈ o.constructor?, ∀ p ∈ f.inputs, HasNameCharacters p.name
  called : ∀ f ∈ o.functions, ∀ p ∈ f.inputs, HasNameCharacters p.name
  emitted : ∀ e ∈ o.events, ∀ p ∈ e.inputs, HasNameCharacters p.name

section

variable {contract : String} {deployable : Bool} {o : Outline}

theorem hasNameCharacters_of_checkName (h : checkName contract = .ok ()) :
    HasNameCharacters contract ∧ BeginsWithLetter contract := by
  unfold checkName at h
  split at h
  · cases h
  · rename_i c rest hchars
    split at h
    · cases h
    · rename_i hletter
      split at h
      · cases h
      · rename_i hrest
        simp only [Bool.not_eq_true, Bool.not_eq_false'] at hletter hrest
        have hc : isNameCharacter c = true := by simp [isNameCharacter, hletter]
        have hne : c ≠ '_' := by
          rintro rfl
          exact absurd hletter (by decide)
        refine ⟨fun d hd => ?_, c, ?_, hletter⟩
        · rw [hchars] at hd
          rcases List.mem_cons.mp hd with rfl | hd
          · exact hc
          · exact List.all_eq_true.mp hrest d hd
        · rw [firstLetter?, hchars, List.dropWhile_cons_of_neg (by simpa using hne)]
          rfl

theorem hasNameCharacters_of_mem_scopes (ho : HasPlainNames o) {s : Scope}
    (hs : s ∈ scopes contract deployable o) {p : Outline.Param × Nat} (hp : p ∈ s.params) :
    HasNameCharacters p.1.name := by
  rcases mem_scopes.mp hs with ⟨-, rfl⟩ | ⟨f, name, hmem, rfl⟩ | ⟨e, typeName, hmem, hs⟩
  · have hinput := List.fst_mem_of_mem_zipIdx hp
    cases hconstructor : o.constructor? with
    | none => simp [hconstructor] at hinput
    | some f =>
      rw [hconstructor] at hinput
      exact ho.deployed f hconstructor p.1 hinput
  · exact ho.called f (List.of_mem_zip hmem).1 p.1 (List.fst_mem_of_mem_zipIdx hp)
  · have hinput : p ∈ e.inputs.zipIdx := by
      simp only [Scope.ofEvent, List.mem_cons, List.not_mem_nil, or_false] at hs
      obtain rfl | rfl | rfl := hs
      · exact (List.mem_filter.mp hp).1
      · exact (List.mem_filter.mp hp).1
      · exact hp
    exact ho.emitted e (List.of_mem_zip hmem).1 p.1 (List.fst_mem_of_mem_zipIdx hinput)

/-- The method for a function is called after its words, with a number if there are more such
methods. -/
theorem isLegal_method_iff (ho : HasPlainNames o) {i : Nat} {f : Outline.Function} {method : Method}
    (hf : o.functions[i]? = some f)
    (hmethod : (Module.ofOutline contract deployable o).methods[i]? = some method) :
    isLegal method.name = true ↔ BeginsWithLetter f.name ∧
      (Text.snakeCase f.name ∈ unescaped →
        ∃ g ∈ o.functions.take i, Text.snakeCase g.name = Text.snakeCase f.name) := by
  have hname : (methodNames o)[i]? = some method.name := by
    rw [← names_ofOutline contract deployable, List.getElem?_map, hmethod]
    rfl
  rw [methodNames, getElem?_distinctNames, List.getElem?_map, hf, Option.map_some, Option.map_some,
    ← List.map_take] at hname
  rw [← Option.some.inj hname, isLegal_snakeCase_iff (ho.functions f (List.mem_of_getElem? hf))]
  have hfixed : ∀ word ∈ unescaped, fixedMethods.eraseDups.count (escape word) = 0 := by
    decide
  have hsame : escape (Text.snakeCase f.name) ∈
      (o.functions.take i).map (fun g => escape (Text.snakeCase g.name)) ↔
        ∃ g ∈ o.functions.take i, Text.snakeCase g.name = Text.snakeCase f.name := by
    rw [List.mem_map]
    refine exists_congr fun g => and_congr_right fun _ => ⟨fun h => ?_, congrArg escape⟩
    exact escape_injective (Text.snakeCase_ne_append_underscore _)
      (Text.snakeCase_ne_append_underscore _) h
  rw [← hsame]
  refine and_congr_right fun _ => ⟨fun h hword => ?_, fun h hzero hword => ?_⟩
  · by_contra hnew
    exact h (by rw [hfixed _ hword, List.count_eq_zero.mpr hnew]) hword
  · have hseen := List.count_pos_iff.mpr (h hword)
    omega

/-- The type for an event is called after its words, with a number if the contract or an event
before it has them too; its methods begin with letters of their own. -/
theorem isLegal_event_iff (ho : HasPlainNames o) {i : Nat} {e : Outline.Event}
    {record : EventRecord} (he : o.events[i]? = some e)
    (hrecord : (Module.ofOutline contract deployable o).events[i]? = some record) :
    isLegal record.typeName = true ↔ BeginsWithLetter e.name ∧
      (Text.pascalCase e.name = "Self" →
        Text.pascalCase contract = "Self" ∨
          ∃ g ∈ o.events.take i, Text.pascalCase g.name = "Self") := by
  have hname : (eventTypeNames (Text.pascalCase contract) o)[i]? = some record.typeName := by
    rw [← eventTypes_ofOutline contract deployable, Module.eventTypes, List.getElem?_map, hrecord]
    rfl
  rw [eventTypeNames, getElem?_distinctNames, List.getElem?_map, he, Option.map_some,
    Option.map_some, ← List.map_take] at hname
  rw [← Option.some.inj hname, isLegal_pascalCase_iff (ho.events e (List.mem_of_getElem? he))]
  have htaken : [Text.pascalCase contract, "METADATA"].eraseDups.count "Self" = 0 ↔
      Text.pascalCase contract ≠ "Self" := by
    rw [List.count_eq_zero, List.mem_eraseDups]
    simp [eq_comm]
  have hbefore : "Self" ∈ (o.events.take i).map (fun g => Text.pascalCase g.name) ↔
      ∃ g ∈ o.events.take i, Text.pascalCase g.name = "Self" := List.mem_map
  rw [← hbefore]
  refine and_congr_right fun _ => ⟨fun h hself => ?_, fun h hzero hself => ?_⟩
  · by_contra hnew
    obtain ⟨hcontract, hevents⟩ := not_or.mp hnew
    rw [hself, htaken.mpr hcontract, List.count_eq_zero.mpr hevents] at h
    exact h rfl rfl
  · rw [hself] at hzero
    obtain ⟨hcontract, hevents⟩ := Nat.add_eq_zero_iff.mp hzero
    exact (h hself).elim (htaken.mp hcontract) (List.count_eq_zero.mp hevents)

theorem hasNameCharacters_method (ho : HasPlainNames o) {record : EventRecord}
    (h : record ∈ (Module.ofOutline contract deployable o).events) :
    HasNameCharacters record.method := by
  obtain ⟨⟨e, typeName⟩, hmem, rfl⟩ := List.mem_map.mp h
  obtain ⟨i, hi⟩ := List.mem_iff_getElem?.mp (List.of_mem_zip hmem).2
  rw [eventTypeNames, getElem?_distinctNames, List.getElem?_map] at hi
  obtain ⟨name, hname, htype⟩ := Option.map_eq_some_iff.mp hi
  obtain ⟨g, hg, rfl⟩ := Option.map_eq_some_iff.mp hname
  have hpascal := hasNameCharacters_pascalCase (ho.events g (List.mem_of_getElem? hg))
  exact hasNameCharacters_snakeCase (htype ▸ hasNameCharacters_numbered hpascal _)

/-- The methods for an event have legal names in any case. -/
theorem isLegal_eventMethod {record : EventRecord} (hmethod : HasNameCharacters record.method) :
    ∀ name ∈ record.methodNames, isLegal name = true := by
  intro name hname
  obtain ⟨verb, hverb, rfl⟩ := List.mem_map.mp hname
  have hverbs : ∀ verb ∈ eventVerbs, verb.toList.all isNameCharacter = true ∧
      verb.toList.head?.any (!Text.isAsciiDigit ·) = true ∧ '_' ∈ verb.toList ∧ verb ≠ "" ∧
        1 < verb.length := by decide
  have hkeywords : ∀ word ∈ keywords, '_' ∉ word.toList := by decide
  obtain ⟨hchars, hfirst, hunderscore, hne, hlong⟩ := hverbs verb hverb
  have hplain : HasNameCharacters verb := List.all_eq_true.mp hchars
  rw [isLegal_iff (hplain.append hmethod), beginsLegally_append hne]
  refine ⟨?_, ?_, fun hword => hkeywords _ hword ?_⟩
  · exact beginsLegally_iff_any.mpr hfirst
  · intro heq
    have hlength := congrArg String.length heq
    rw [String.length_append] at hlength
    have hone : "_".length = 1 := by decide
    omega
  · rw [String.toList_append]
    exact List.mem_append_left _ hunderscore

/-- Names of letters, digits and underscores give legal names with these exceptions. The type of the
contract may be called `Self`. A method for a function is illegal if the function has no letter
before its first digit, or if its words are a keyword that is not reserved and no function before it
has them. So is the type for an event, where the keyword is `Self`. An argument or a field is legal
if its parameter has no words; else these must begin with a letter and be no such keyword. All other
methods are legal. -/
theorem names_legal (contract : String) (deployable : Bool) (o : Outline)
    (hcontract : checkName contract = .ok ()) (ho : HasPlainNames o) :
    let m := Module.ofOutline contract deployable o
    (isLegal m.typeName = true ↔ m.typeName ≠ "Self") ∧
      (∀ name ∈ m.givenMethods ++ m.events.flatMap (·.methodNames), isLegal name = true) ∧
      (∀ i f method, o.functions[i]? = some f → m.methods[i]? = some method →
        (isLegal method.name = true ↔ BeginsWithLetter f.name ∧
          (Text.snakeCase f.name ∈ unescaped →
            ∃ g ∈ o.functions.take i, Text.snakeCase g.name = Text.snakeCase f.name))) ∧
      (∀ i e record, o.events[i]? = some e → m.events[i]? = some record →
        (isLegal record.typeName = true ↔ BeginsWithLetter e.name ∧
          (Text.pascalCase e.name = "Self" →
            m.typeName = "Self" ∨ ∃ g ∈ o.events.take i, Text.pascalCase g.name = "Self"))) ∧
      ∀ s ∈ scopes contract deployable o, ∀ p ∈ s.params,
        (isLegal (argumentName p.1 p.2) = true ↔ (∀ c ∈ p.1.name.toList, c = '_') ∨
          (BeginsWithLetter p.1.name ∧ Text.snakeCase p.1.name ∉ unescaped)) := by
  intro m
  obtain ⟨hchars, hletter⟩ := hasNameCharacters_of_checkName hcontract
  refine ⟨?_, fun name hname => ?_, fun i f method hf hmethod => isLegal_method_iff ho hf hmethod,
    fun i e record he hrecord => isLegal_event_iff ho he hrecord, fun s hs p hp => ?_⟩
  · have htype : m.typeName = Text.pascalCase contract := rfl
    simpa [numbered, hletter, htype] using isLegal_pascalCase_iff hchars 0
  · rcases List.mem_append.mp hname with hgiven | hevent
    · have hfixed : ∀ name ∈ fixedMethods, isLegal name = true := by decide
      exact hfixed name (List.mem_filter.mp hgiven).1
    · obtain ⟨record, hrecord, hname⟩ := List.mem_flatMap.mp hevent
      exact isLegal_eventMethod (hasNameCharacters_method ho hrecord) name hname
  · exact isLegal_argumentName_iff (hasNameCharacters_of_mem_scopes ho hs hp)

end

/-- The outline of a function that is called like a keyword, with its document. -/
def becomes : Outline where
  constructor? := none
  functions := [⟨"become", [], [], "nonpayable"⟩]
  events := []
  document := .array [
    .object [
      ("inputs", .array []), ("name", .text "become"), ("outputs", .array []),
      ("type", .text "function")]]

theorem read_becomes : Json.parse becomes.document.pretty = some becomes.document :=
  Json.parse_pretty_self rfl rfl (by decide)

theorem hasPlainNames_becomes : HasPlainNames becomes where
  functions := List.forall_mem_singleton.mpr (List.all_eq_true.mp (by decide))
  events := by simp [becomes]
  deployed := by simp [becomes]
  called := by simp [becomes]
  emitted := by simp [becomes]

/-- Its module is a type with a legal name and one method whose name is no legal one. -/
theorem becomes_legal :
    let m := Module.ofOutline "Market" false becomes
    checkName "Market" = .ok () ∧ HasPlainNames becomes ∧ isLegal m.typeName = true ∧
      ∃ method, m.methods[0]? = some method ∧ ¬ isLegal method.name = true := by
  intro m
  have hcheck : checkName "Market" = .ok () := by decide
  obtain ⟨htype, -, hmethods, -, -⟩ :=
    names_legal "Market" false becomes hcheck hasPlainNames_becomes
  refine ⟨hcheck, hasPlainNames_becomes, htype.mpr (by decide), _, rfl, ?_⟩
  rw [hmethods 0 _ _ rfl rfl]
  intro h
  obtain ⟨g, hg, -⟩ := h.2 (by decide)
  cases hg

/-- Not all names are legal, even if everything in the document is called by what begins as a name
does, or a parameter by nothing: the method is called `become`. -/
theorem not_names_legal :
    ¬ ∀ (contract text : String) (o : Outline) (deployable : Bool), checkName contract = .ok () →
      Outline.parse text = .ok o → HasPlainNames o → (∀ f ∈ o.functions, BeginsLegally f.name) →
        (∀ e ∈ o.events, BeginsLegally e.name) →
        (∀ s ∈ scopes contract deployable o, ∀ p ∈ s.params,
          p.1.name = "" ∨ BeginsLegally p.1.name) →
          let m := Module.ofOutline contract deployable o
          isLegal m.typeName = true ∧
            (∀ name ∈ m.eventTypes ++ m.methodNames, isLegal name = true) ∧
            ∀ s ∈ scopes contract deployable o, ∀ name ∈ s.arguments, isLegal name = true := by
  intro h
  have ho : Outline.parse becomes.document.pretty = .ok becomes :=
    (Outline.parse_of_read read_becomes).trans rfl
  have hfunction : BeginsLegally "become" := ⟨'b', rfl, by decide⟩
  have hparams : ∀ s ∈ scopes "Market" false becomes, ∀ p ∈ s.params,
      p.1.name = "" ∨ BeginsLegally p.1.name := by
    intro s hs p hp
    obtain rfl := List.mem_singleton.mp hs
    cases hp
  have hlegal := (h "Market" _ becomes false (by decide) ho hasPlainNames_becomes
    (List.forall_mem_singleton.mpr hfunction) (by simp [becomes]) hparams).2.1
  have hname : "become" ∈ (Module.ofOutline "Market" false becomes).eventTypes ++
      (Module.ofOutline "Market" false becomes).methodNames := by decide
  exact absurd (hlegal "become" hname) (by decide)

end AbiBindings.Generate
