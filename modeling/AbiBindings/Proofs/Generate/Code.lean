import AbiBindings.Proofs.Bytes.Hex
import AbiBindings.Proofs.Generate.Binding

/-!
# Creation code of generated contracts

The text of the creation code is checked before a run, embedded without the white space around it,
and read when the contract is deployed. The check accepts what is read then.

* `SpellsCode`: a text of hexadecimal digits, with white space around it and a mark before it.

Results:
* `Text.trim_trim`: trimming is done once and for all.
* `codeOfText_eq_ok_iff`: which texts are creation code, and what code.
* `code_deployable`: the check, the embedded text and the code that it is read as.
-/

namespace AbiBindings

/-! ## White space around a text -/

namespace Text

variable {cs left right : List Char}

theorem trimChars_eq (cs : List Char) : trimChars cs = (cs.dropWhile isBlank).rdropWhile isBlank :=
  rfl

/-- Only white space is taken off a text. -/
theorem exists_trimChars (cs : List Char) : ∃ left right, cs = left ++ trimChars cs ++ right ∧
    (∀ c ∈ left, isBlank c = true) ∧ ∀ c ∈ right, isBlank c = true := by
  refine ⟨cs.takeWhile isBlank, (cs.dropWhile isBlank).rtakeWhile isBlank, ?_,
    fun c => List.mem_takeWhile_imp, fun c => List.mem_rtakeWhile_imp⟩
  rw [trimChars_eq, List.append_assoc, List.rdropWhile_append_rtakeWhile,
    List.takeWhile_append_dropWhile]

/-- All the white space around a text without any is taken off. -/
theorem trimChars_append (hleft : ∀ c ∈ left, isBlank c = true)
    (hcs : ∀ c ∈ cs, isBlank c = false) (hright : ∀ c ∈ right, isBlank c = true) :
    trimChars (left ++ cs ++ right) = cs := by
  have hbare : ∀ cs : List Char, (∀ c ∈ cs, isBlank c = false) → cs.dropWhile isBlank = cs := by
    intro cs h
    refine List.dropWhile_eq_self_iff.mpr fun hne => ?_
    simp [h _ (List.getElem_mem hne)]
  have hright' : ∀ c ∈ right.reverse, isBlank c = true :=
    fun c hc => hright c (List.mem_reverse.mp hc)
  rw [trimChars, List.append_assoc, List.dropWhile_append_of_pos hleft]
  cases cs with
  | nil =>
    rw [List.nil_append, List.dropWhile_eq_nil_iff.mpr hright]
    rfl
  | cons c cs =>
    obtain ⟨hc, -⟩ := List.forall_mem_cons.mp hcs
    rw [List.cons_append, List.dropWhile_cons_of_neg (by simp [hc]), ← List.cons_append,
      List.reverse_append, List.dropWhile_append_of_pos hright',
      hbare _ fun d hd => hcs d (List.mem_reverse.mp hd), List.reverse_reverse]

theorem trimChars_trimChars (cs : List Char) : trimChars (trimChars cs) = trimChars cs := by
  have hfront : (trimChars cs).dropWhile isBlank = trimChars cs := by
    obtain ⟨rest, hrest⟩ := List.rdropWhile_prefix isBlank (cs.dropWhile isBlank)
    have hhead := List.head?_dropWhile_not isBlank cs
    rw [← hrest, ← trimChars_eq] at hhead
    cases htrim : trimChars cs with
    | nil => rfl
    | cons c more =>
      rw [htrim] at hhead
      exact List.dropWhile_cons_of_neg (by simpa using hhead)
  rw [trimChars_eq (trimChars cs), hfront, trimChars_eq, List.rdropWhile_idempotent]

/-- Trimming a trimmed text changes nothing. -/
theorem trim_trim (s : String) : trim (trim s) = trim s := by
  rw [trim, trim, String.toList_ofList, trimChars_trimChars]

end Text

/-! ## Creation code -/

/-- Whether a text spells creation code: its digits in either case, with the mark `0x` before them
or without it, and white space around. -/
def SpellsCode (text : String) (code : Bytes) : Prop :=
  ∃ left mark digits right, text.toList = left ++ (mark ++ digits) ++ right ∧
    (∀ c ∈ left, Text.isBlank c = true) ∧ (∀ c ∈ right, Text.isBlank c = true) ∧
    (mark = [] ∨ mark = ['0', 'x']) ∧ digits.map Text.lowerAscii = Hex.digits code

namespace Metadata

variable {text : String} {code : Bytes}

theorem codeOfText_trim (text : String) : codeOfText (Text.trim text) = codeOfText text := by
  rw [codeOfText, Text.trim_trim, ← codeOfText]

theorem stripMark_cases (cs : List Char) : ∃ mark digits, cs = mark ++ digits ∧
    (mark = [] ∨ mark = ['0', 'x']) ∧ Hex.stripMark (String.ofList cs) = String.ofList digits := by
  unfold Hex.stripMark
  rw [String.toList_ofList]
  split
  case h_1 rest => exact ⟨['0', 'x'], rest, rfl, .inr rfl, rfl⟩
  case h_2 => exact ⟨[], cs, rfl, .inl rfl, rfl⟩

/-- No digit is white space or the second half of the mark. -/
theorem digit_plain {digits : List Char} (h : digits.map Text.lowerAscii = Hex.digits code) :
    ∀ c ∈ digits, Text.isBlank c = false ∧ c ≠ 'x' := by
  intro c hc
  obtain ⟨hlt, n, hn, hdigit⟩ := Hex.digit_of_mem h hc
  have hplain : ∀ m < 0x80, ∀ n < 16, Text.lowerAscii (Char.ofNat m) = Text.hexDigit n →
      Text.isBlank (Char.ofNat m) = false ∧ Char.ofNat m ≠ 'x' := by
    decide +kernel
  exact Text.of_toNat_lt (p := fun c => Text.lowerAscii c = Text.hexDigit n →
    Text.isBlank c = false ∧ c ≠ 'x') (fun m hm => hplain m hm n hn) hlt hdigit

/-- The mark is taken off, and digits stay. -/
theorem stripMark_append {mark digits : List Char} (hmark : mark = [] ∨ mark = ['0', 'x'])
    (h : ∀ c ∈ digits, c ≠ 'x') :
    Hex.stripMark (String.ofList (mark ++ digits)) = String.ofList digits := by
  unfold Hex.stripMark
  rw [String.toList_ofList]
  rcases hmark with rfl | rfl
  · rw [List.nil_append]
    split
    case h_1 rest => exact absurd rfl (h 'x' (by simp))
    case h_2 => rfl
  · rfl

/-- The texts of creation code are those that spell it. -/
theorem codeOfText_eq_ok_iff : codeOfText text = .ok code ↔ SpellsCode text code := by
  rw [codeOfText]
  constructor
  · intro h
    obtain ⟨left, right, htext, hleft, hright⟩ := Text.exists_trimChars text.toList
    obtain ⟨mark, digits, hsplit, hmark, hstrip⟩ := stripMark_cases (Text.trimChars text.toList)
    rw [Text.trim, hstrip, Hex.decode_eq_ok_iff, String.toList_ofList] at h
    exact ⟨left, mark, digits, right, hsplit ▸ htext, hleft, hright, hmark, h⟩
  · rintro ⟨left, mark, digits, right, htext, hleft, hright, hmark, hdigits⟩
    have hplain := digit_plain hdigits
    have hbare : ∀ c ∈ mark ++ digits, Text.isBlank c = false := by
      intro c hc
      rcases List.mem_append.mp hc with hc | hc
      · rcases hmark with rfl | rfl
        · cases hc
        · have hx : Text.isBlank '0' = false ∧ Text.isBlank 'x' = false := by decide
          rcases List.mem_pair.mp hc with rfl | rfl
          · exact hx.1
          · exact hx.2
      · exact (hplain c hc).1
    have hstrip := stripMark_append hmark fun c hc => (hplain c hc).2
    rw [Text.trim, htext, Text.trimChars_append hleft hbare hright, hstrip]
    exact Hex.decode_eq_ok_iff.mpr (String.toList_ofList.symm ▸ hdigits)

theorem bytecode_of_text {m : Metadata} (h : m.bin? = some text) :
    m.bytecode = (codeOfText text).mapError fun cause => .abi (.badBytecode m.name cause) := by
  rw [bytecode, h]
  cases hcode : codeOfText text <;> simp [hcode, Except.mapError]

end Metadata

namespace Generate

variable {text path : String} {o : Outline} {r : Request} {files : List OutputFile}
  {t : Files.Tree}

theorem checkCodeFile_of_text (h : t.readText path = .ok text) :
    checkCodeFile t path = ((Metadata.codeOfText text).mapError fun cause =>
      .config (.bytecodeNotHex cause)).map fun _ => () := by
  simp only [checkCodeFile, h, checkCode]
  cases Metadata.codeOfText text <;> simp [Except.mapError, Except.map]

theorem code_mem_render (h : r.render o (some text) = .ok files) :
    (⟨r.path ".bin", Text.trim text⟩ : OutputFile) ∈ files := by
  unfold Request.render at h
  split at h
  · cases h
  · obtain rfl := Except.ok.inj h
    simp

/-- The check accepts the text of a file exactly if the text that is embedded for it is read as
code when the contract is deployed. The code is what the file spells, whatever white space is around
it; and if there is none, both say the same about it. -/
theorem code_deployable (hread : t.readText path = .ok text)
    (hrender : r.render o (some text) = .ok files) :
    ∃ bin ∈ files, bin.path = r.path ".bin" ∧ ∀ m : Metadata, m.bin? = some bin.content →
      (checkCodeFile t path = .ok () ↔ ∃ code, m.bytecode = .ok code) ∧
      (∀ code, m.bytecode = .ok code ↔
        Hex.decode (Hex.stripMark (Text.trim text)) = .ok code) ∧
      (∀ code, m.bytecode = .ok code ↔ SpellsCode text code) ∧
      ∀ cause, checkCodeFile t path = .error (.config (.bytecodeNotHex cause)) ↔
        m.bytecode = .error (.abi (.badBytecode m.name cause)) := by
  refine ⟨_, code_mem_render hrender, by simp only, fun m hm => ?_⟩
  have hcode := Metadata.bytecode_of_text hm
  have hcheck := checkCodeFile_of_text hread
  have hdecode : Hex.decode (Hex.stripMark (Text.trim text)) = Metadata.codeOfText text := rfl
  rw [Metadata.codeOfText_trim] at hcode
  rw [hcode, hcheck, hdecode]
  simp only [← Metadata.codeOfText_eq_ok_iff]
  cases Metadata.codeOfText text with
  | error cause => simp [Except.mapError, Except.map]
  | ok code => simp [Except.mapError, Except.map]

/-- A text of creation code with a mark before it and white space around it. -/
def codeText : String := "\t0x60Fe\n\n"

/-- A working directory with a file of creation code. -/
def codeTree : Files.Tree := ⟨[(["vault.bin"], .file (utf8 codeText))]⟩

/-- The outline of a contract with one function. -/
def opening : Outline := ⟨none, [⟨"open", [], [], "nonpayable"⟩], [], .array []⟩

/-- The code in the file is accepted, and deployed as it is spelled there. -/
theorem vault_deployable :
    ∃ files, (printing "Vault").render opening (some codeText) = .ok files ∧
      ∃ bin ∈ files, ∀ m : Metadata, m.bin? = some bin.content →
        checkCodeFile codeTree "vault.bin" = .ok () ∧ m.bytecode = .ok [0x60, 0xfe] := by
  obtain ⟨files, hrender⟩ := render_of_entries (o := opening) (printing "Vault") (some codeText) rfl
  have hread : codeTree.readText "vault.bin" = .ok codeText := rfl
  have hspells : SpellsCode codeText [0x60, 0xfe] :=
    ⟨['\t'], ['0', 'x'], ['6', '0', 'F', 'e'], ['\n', '\n'], rfl, by simp; decide, by simp; decide,
      .inr rfl, rfl⟩
  obtain ⟨bin, hbin, -, hcode⟩ := code_deployable hread hrender
  refine ⟨files, hrender, bin, hbin, fun m hm => ?_⟩
  obtain ⟨haccepted, -, hspelled, -⟩ := hcode m hm
  have hok := (hspelled _).mpr hspells
  exact ⟨haccepted.mpr ⟨_, hok⟩, hok⟩

end Generate

end AbiBindings
