import AbiBindings.Proofs.Abi.Words
import AbiBindings.Proofs.Files.Tree
import AbiBindings.Proofs.Generate.Binding
import AbiBindings.Proofs.Outline.Checked

/-!
# What a run leaves in the files

A run reads, checks and renders before it makes the output directory and writes into it.

* `Error.isWriting`: a failure of making the output directory or of writing a file.
* `ChangesAtMost`: a tree in which nothing has changed but directories on the way to the output
  directory, which were missing, and the places of files.
* `Written`: such a tree, in which the output directory and every file are there.
* `WritesLast`: what a run does to the files if it is dry, fails or succeeds.

Results:
* `changesAtMost_writeAll`, `read_writeAll`: writing files in order.
* `isWriting_of_filesFor`, `isWriting_of_check`: what fails before anything is written.
* `changes_files_last`: generating, with the checks of the command line or without.
-/

namespace AbiBindings

/-- Whether a failure comes from making the output directory or from writing a file. -/
def Error.isWriting : Error → Bool
  | .config (.outputDirectory _) => true
  | .config (.unwritable _ _) => true
  | _ => false

theorem Error.isWriting_of_kind {e : Error} (h : e.kind = .abi) : e.isWriting = false := by
  cases e with
  | abi => rfl
  | _ => cases h

namespace Generate

open Files (Tree Place)
open Files.Tree (Keeps Through)

variable {t t' t'' : Tree} {r : Request} {f : OutputFile} {files rest : List OutputFile}
  {directory abiFile : String} {paths : List String} {e : Error}

/-! ## Writing files in order -/

/-- Whether nothing has changed but missing directories on the way to a directory, and the places of
files. -/
def ChangesAtMost (t : Tree) (directory : String) (files : List OutputFile) (t' : Tree) : Prop :=
  ∀ p, t'.at? p = t.at? p ∨
    (t.at? p = none ∧ t'.at? p = some .directory ∧ t'.Through (Files.Path.parts directory) p) ∨
    ∃ f ∈ files, t'.find f.path = .ok p

/-- Whether a directory and files are there, and nothing else has changed. -/
structure Written (t : Tree) (directory : String) (files : List OutputFile) (t' : Tree) : Prop where
  made : t'.isDirectory (Files.Path.parts directory) = true
  contents : ∀ f ∈ files, t'.read f.path = .ok (utf8 f.content)
  others : ChangesAtMost t directory files t'

/-- One file is written before the others, unless it cannot be written. -/
theorem writeAll_cons (t : Tree) (f : OutputFile) (rest : List OutputFile) :
    (∃ cause, writeAll t (f :: rest) = (t, .error (.config (.unwritable f.path cause)))) ∨
      ∃ t', t.write f.path (utf8 f.content) = .ok t' ∧
        writeAll t (f :: rest) = writeAll t' rest := by
  rw [writeAll]
  cases t.write f.path (utf8 f.content) with
  | error cause => exact .inl ⟨cause, rfl⟩
  | ok t' => exact .inr ⟨t', rfl, rfl⟩

theorem keeps_writeAll (t : Tree) (files : List OutputFile) : t.Keeps (writeAll t files).1 := by
  induction files generalizing t with
  | nil => exact .refl t
  | cons f rest ih =>
    rcases writeAll_cons t f rest with ⟨cause, h⟩ | ⟨t', hwrite, h⟩ <;> rw [h]
    · exact .refl t
    · exact (Files.Tree.keeps_write hwrite).trans (ih t')

theorem isWriting_of_writeAll (h : (writeAll t files).2 = .error e) : e.isWriting = true := by
  induction files generalizing t with
  | nil => cases h
  | cons f rest ih =>
    rcases writeAll_cons t f rest with ⟨cause, heq⟩ | ⟨t', -, heq⟩ <;>
      rw [heq] at h
    · obtain rfl := Except.error.inj h
      rfl
    · exact ih h

/-- Where the files lead, and nowhere else, something may have changed. -/
theorem changed_by_writeAll (t : Tree) (files : List OutputFile) (p : Place) :
    (writeAll t files).1.at? p = t.at? p ∨
      ∃ f ∈ files, (writeAll t files).1.find f.path = .ok p := by
  induction files generalizing t with
  | nil => exact .inl rfl
  | cons f rest ih =>
    rcases writeAll_cons t f rest with ⟨cause, h⟩ | ⟨t', hwrite, h⟩ <;> rw [h]
    · exact .inl rfl
    · rcases ih t' with hsame | ⟨g, hg, hfind⟩
      · obtain ⟨q, hfind, -, hother⟩ := Files.Tree.at?_write hwrite
        by_cases hq : p = q
        · refine .inr ⟨f, List.mem_cons_self, ?_⟩
          rw [hq]
          exact Files.Tree.find_of_keeps (keeps_writeAll t' rest) hfind
        · exact .inl (hsame.trans (hother p hq))
      · exact .inr ⟨g, List.mem_cons_of_mem f hg, hfind⟩

/-- The last part of the path of a file. -/
def OutputFile.last? (f : OutputFile) : Option String := (Files.Path.parts f.path).getLast?

/-- Whether the paths of files end with names, none of which occurs twice. -/
structure HaveNames (files : List OutputFile) : Prop where
  named : ∀ f ∈ files, ∃ name, f.last? = some name ∧ Files.Path.isStay name = false ∧ name ≠ ".."
  nodup : (files.map (·.last?)).Nodup

/-- A file that is written is not written over if the others have other names. -/
theorem read_writeAll (hnames : HaveNames files) (h : (writeAll t files).2 = .ok ()) :
    ∀ f ∈ files, (writeAll t files).1.read f.path = .ok (utf8 f.content) := by
  induction files generalizing t with
  | nil => simp
  | cons f rest ih =>
    obtain ⟨⟨name, hlast, hstay, hup⟩, hnamed⟩ := List.forall_mem_cons.mp hnames.named
    obtain ⟨hnotMem, hnodup⟩ := List.nodup_cons.mp hnames.nodup
    rcases writeAll_cons t f rest with ⟨cause, heq⟩ | ⟨t', hwrite, heq⟩ <;>
      rw [heq] at h ⊢
    · cases h
    refine List.forall_mem_cons.mpr ⟨?_, ih ⟨hnamed, hnodup⟩ h⟩
    obtain ⟨p, hfind, hat, -⟩ := Files.Tree.at?_write hwrite
    have hfind' := Files.Tree.find_of_keeps (keeps_writeAll t' rest) hfind
    refine Files.Tree.read_eq_ok.mpr ⟨p, hfind', ?_⟩
    rcases changed_by_writeAll t' rest p with hsame | ⟨g, hg, hgfind⟩
    · exact hsame.trans hat
    · obtain ⟨gname, hglast, hgstay, hgup⟩ := hnamed g hg
      have hp := Files.Tree.getLast?_of_find hlast hstay hup hfind'
      have hgp := Files.Tree.getLast?_of_find hglast hgstay hgup hgfind
      have hsame : g.last? = f.last? := hglast.trans (hgp.symm.trans (hp.trans hlast.symm))
      exact absurd (List.mem_map.mpr ⟨g, hg, hsame⟩) hnotMem

/-! ## What is rendered -/

/-- The endings of the files: the module, the document, and the creation code if there is any. -/
def endings (deployable : Bool) : List String :=
  [".rs", ".json"] ++ if deployable then [".bin"] else []

theorem paths_render {o : Outline} {code? : Option String} (h : r.render o code? = .ok files) :
    files.map (·.path) = (endings code?.isSome).map r.path := by
  unfold Request.render at h
  split at h
  · cases h
  · obtain rfl := Except.ok.inj h
    cases code? <;> simp [endings]

/-- The paths of a request end with one name and their own endings. -/
theorem last_path (r : Request) : ∃ name : String, ∀ ending ∈ endings true,
    (Files.Path.parts (r.path ending)).getLast? = some (name ++ ending) := by
  obtain ⟨name, hname⟩ :=
    Files.Path.getLast?_parts_append (Files.Path.join r.outputDir (Text.snakeCase r.contract))
  refine ⟨name, fun ending hending => ?_⟩
  have hplain : ∀ ending ∈ endings true,
      ending.toList.head? ≠ some '/' ∧ '/' ∉ ending.toList := by decide
  rw [Request.path, Files.Path.join_append _ _ (hplain ending hending).1]
  exact hname ending (hplain ending hending).2

theorem haveNames_of_paths {deployable : Bool}
    (h : files.map (·.path) = (endings deployable).map r.path) : HaveNames files := by
  obtain ⟨name, hname⟩ := last_path r
  have hsub : ∀ ending ∈ endings deployable, ending ∈ endings true := by
    cases deployable <;> decide
  have hlast : files.map (·.last?) =
      (endings deployable).map fun ending => some (name ++ ending) := by
    calc files.map (·.last?)
        = (files.map (·.path)).map fun path => (Files.Path.parts path).getLast? := by
          simp only [List.map_map, Function.comp_def, OutputFile.last?]
      _ = (endings deployable).map fun ending =>
            (Files.Path.parts (r.path ending)).getLast? := by
          simp only [h, List.map_map, Function.comp_def]
      _ = (endings deployable).map fun ending => some (name ++ ending) :=
          List.map_congr_left fun ending hending => hname ending (hsub ending hending)
  constructor
  · intro f hf
    have hmem : f.last? ∈ files.map (·.last?) := List.mem_map_of_mem hf
    rw [hlast] at hmem
    obtain ⟨ending, hending, heq⟩ := List.mem_map.mp hmem
    have hletters : ∀ ending ∈ endings true,
        ending.toList.getLast? = some 's' ∨ ending.toList.getLast? = some 'n' := by decide
    refine ⟨name ++ ending, heq.symm, ?_⟩
    rcases hletters ending (hsub ending hending) with hend | hend
    · exact Files.Path.isName_of_getLast? (c := 's') (by simp [hend]) (by decide)
    · exact Files.Path.isName_of_getLast? (c := 'n') (by simp [hend]) (by decide)
  · rw [hlast]
    refine List.Nodup.map (fun a b hab => ?_) (by cases deployable <;> decide)
    simpa using hab

/-! ## Failures before anything is written -/

theorem kind_of_addEntry {o : Outline} {entry : Outline.Entry} (h : o.addEntry entry = .error e) :
    e.kind = .abi := by
  unfold Outline.addEntry at h
  split at h
  case h_1 fault hfault =>
    rw [Outline.checkParams_eq] at hfault
    obtain ⟨p, -, -, rfl⟩ := Outline.exists_of_verdict_eq_error hfault
    obtain rfl := Except.error.inj h
    rfl
  case h_2 =>
    split at h
    case h_3 =>
      split at h
      · cases h
      · obtain rfl := Except.error.inj h
        rfl
    all_goals cases h

theorem kind_of_addEntries {o : Outline} {entries : List Outline.Entry}
    (h : o.addEntries entries = .error e) : e.kind = .abi := by
  induction entries generalizing o with
  | nil => cases h
  | cons entry rest ih =>
    rw [Outline.addEntries] at h
    cases hnext : o.addEntry entry with
    | error fault =>
      rw [hnext] at h
      exact kind_of_addEntry (hnext.trans h)
    | ok next =>
      rw [hnext] at h
      exact ih h

theorem kind_of_ofEntries {document : Json} (h : Outline.ofEntries document = .error e) :
    e.kind = .abi := by
  unfold Outline.ofEntries at h
  split at h
  · obtain rfl := Except.error.inj h
    rfl
  · exact kind_of_addEntries h

/-- A text has no outline because of what it says about an ABI. -/
theorem kind_of_parse {text : String} (h : Outline.parse text = .error e) : e.kind = .abi := by
  unfold Outline.parse at h
  split at h
  · obtain rfl := Except.error.inj h
    rfl
  · unfold Outline.ofJson at h
    split at h <;> exact kind_of_ofEntries h

theorem isWriting_of_filesFor (h : r.filesFor t abiFile = .error e) : e.isWriting = false := by
  unfold Request.filesFor at h
  split at h
  · obtain rfl := Except.error.inj h
    rfl
  split at h
  · obtain rfl := Except.error.inj h
    rfl
  split at h
  case h_1 hparse =>
    obtain rfl := Except.error.inj h
    exact Error.isWriting_of_kind (kind_of_parse hparse)
  split at h
  case h_1 hcode =>
    obtain rfl := Except.error.inj h
    unfold Request.code? at hcode
    split at hcode
    · cases hcode
    · split at hcode <;> cases hcode
      rfl
  case h_2 =>
    unfold Request.render at h
    split at h <;> cases h
    rfl

theorem isWriting_of_checkName {name : String} (h : checkName name = .error e) :
    e.isWriting = false := by
  unfold checkName at h
  split at h
  · cases h
    rfl
  · split_ifs at h <;> cases h <;> rfl

theorem isWriting_of_checkAbiFile (h : checkAbiFile t abiFile = .error e) :
    e.isWriting = false := by
  unfold checkAbiFile at h
  split at h
  · cases h
    rfl
  · split at h <;> cases h
    rfl

theorem isWriting_of_checkCodeFile {path : String} (h : checkCodeFile t path = .error e) :
    e.isWriting = false := by
  unfold checkCodeFile at h
  split at h
  · cases h
    rfl
  · unfold checkCode at h
    split at h <;> cases h
    rfl

theorem isWriting_of_check (h : r.check t abiFile = .error e) : e.isWriting = false := by
  unfold Request.check at h
  split at h
  case h_1 hname =>
    obtain rfl := Except.error.inj h
    exact isWriting_of_checkName hname
  split at h
  case h_1 habi =>
    obtain rfl := Except.error.inj h
    exact isWriting_of_checkAbiFile habi
  split at h
  · cases h
  · exact isWriting_of_checkCodeFile h

/-! ## Runs -/

theorem changesAtMost_writeAll (h : t.Grown (Files.Path.parts directory) t')
    (files : List OutputFile) : ChangesAtMost t directory files (writeAll t' files).1 := by
  intro p
  rcases changed_by_writeAll t' files p with hsame | hfile
  · rw [hsame]
    refine (h p).imp_right fun ⟨hnone, hdir, hway⟩ => .inl ⟨hnone, hdir, ?_⟩
    exact hway.of_keeps (keeps_writeAll t' files)
  · exact .inr (.inr hfile)

/-- A dry run changes no file. -/
theorem emit_dry (t : Tree) (files : List OutputFile) (h : r.dryRun = true) :
    (r.emit t files).files = t ∧ (r.emit t files).result = .ok (files.map (·.path)) := by
  rw [Request.emit, if_pos h]
  exact ⟨rfl, rfl⟩

/-- Any other run makes the directory and writes the files, or says that it cannot. -/
theorem emit_wet (t : Tree) (files : List OutputFile) (h : r.dryRun = false) :
    ChangesAtMost t r.outputDir files (r.emit t files).files ∧
      ((∃ e, (r.emit t files).result = .error e ∧ e.isWriting = true) ∨
        (r.emit t files).result = .ok (files.map (·.path)) ∧
          (HaveNames files → Written t r.outputDir files (r.emit t files).files)) := by
  rw [Request.emit, if_neg (by simp [h])]
  have hgrown := Files.Tree.grown_createAll t r.outputDir
  cases hcreate : t.createAll r.outputDir with
  | mk t' made =>
    rw [hcreate] at hgrown
    cases made with
    | error cause => exact ⟨fun p => (hgrown p).imp_right .inl, .inl ⟨_, rfl, rfl⟩⟩
    | ok _ =>
      have hchanges := changesAtMost_writeAll hgrown files
      have hkeeps := keeps_writeAll t' files
      cases hwrite : writeAll t' files with
      | mk t'' written =>
        rw [hwrite] at hchanges hkeeps
        simp only [hwrite]
        cases written with
        | error e =>
          exact ⟨hchanges, .inl ⟨e, rfl, isWriting_of_writeAll (congrArg Prod.snd hwrite)⟩⟩
        | ok _ =>
          refine ⟨hchanges, .inr ⟨rfl, fun hnames => ⟨?_, ?_, hchanges⟩⟩⟩
          · exact Files.Tree.isDirectory_of_keeps hkeeps (Files.Tree.isDirectory_createAll hcreate)
          · have hread := read_writeAll hnames (congrArg Prod.snd hwrite)
            rwa [hwrite] at hread

theorem emit_error (h : (r.emit t files).result = .error e) :
    e.isWriting = true ∧ r.dryRun = false ∧
      ChangesAtMost t r.outputDir files (r.emit t files).files := by
  cases hdry : r.dryRun with
  | true =>
    rw [(emit_dry t files hdry).2] at h
    cases h
  | false =>
    obtain ⟨hchanges, ⟨e', herror, hwriting⟩ | ⟨hok, -⟩⟩ := emit_wet t files hdry
    · obtain rfl := Except.error.inj (herror.symm.trans h)
      exact ⟨hwriting, rfl, hchanges⟩
    · rw [hok] at h
      cases h

theorem emit_ok (h : (r.emit t files).result = .ok paths) :
    paths = files.map (·.path) ∧ (r.dryRun = false → HaveNames files →
      Written t r.outputDir files (r.emit t files).files) := by
  cases hdry : r.dryRun with
  | true =>
    rw [(emit_dry t files hdry).2] at h
    exact ⟨(Except.ok.inj h).symm, fun hwet => nomatch hwet⟩
  | false =>
    obtain ⟨-, ⟨e', herror, -⟩ | ⟨hok, hwritten⟩⟩ := emit_wet t files hdry
    · rw [herror] at h
      cases h
    · exact ⟨Except.ok.inj (h.symm.trans hok), fun _ => hwritten⟩

/-- What a run does to the files. A dry run, and one that fails for any other reason than that the
output directory cannot be made or a file cannot be written, changes nothing. One that fails for
these reasons had its files rendered, and one that succeeds wrote them. -/
structure WritesLast (go : Request → Outcome (List String)) (r : Request) (t : Tree)
    (abiFile : String) : Prop where
  dry : r.dryRun = true → (go r).files = t
  failed : ∀ e, (go r).result = .error e → e.isWriting = false → (go r).files = t
  stopped : ∀ e, (go r).result = .error e → e.isWriting = true →
    r.dryRun = false ∧ ∃ files, r.filesFor t abiFile = .ok files ∧
      ChangesAtMost t r.outputDir files (go r).files
  succeeded : ∀ paths, (go r).result = .ok paths →
    ∃ text o code? files, t.readText abiFile = .ok text ∧ Outline.parse text = .ok o ∧
      r.code? t = .ok code? ∧ r.render o code? = .ok files ∧ paths = files.map (·.path) ∧
      paths = (endings r.codeFile?.isSome).map r.path ∧
      (r.dryRun = false → Written t r.outputDir files (go r).files) ∧
      (go { r with dryRun := true }).result = .ok paths

/-- A run that fails before anything is written has nothing to answer for. -/
theorem WritesLast.of_failed {go : Request → Outcome (List String)} (h : go r = .failed t e)
    (hearly : e.isWriting = false) : WritesLast go r t abiFile := by
  refine ⟨fun _ => by rw [h]; rfl, fun _ _ _ => by rw [h]; rfl, ?_, ?_⟩
  · intro e' herror hwriting
    rw [h] at herror
    obtain rfl := Except.error.inj herror
    exact absurd hwriting (by simp [hearly])
  · intro paths hok
    rw [h] at hok
    cases hok

theorem isSome_code? {code? : Option String} (h : r.code? t = .ok code?) :
    code?.isSome = r.codeFile?.isSome := by
  unfold Request.code? at h
  split at h
  case h_1 hnone =>
    obtain rfl := Except.ok.inj h
    rw [hnone]
  case h_2 path hsome =>
    split at h
    · cases h
    · obtain rfl := Except.ok.inj h
      rw [hsome]
      rfl

/-- What the files for an ABI document are made of. -/
theorem filesFor_eq_ok :
    r.filesFor t abiFile = .ok files ↔
      r.contract ≠ "" ∧ ∃ text o code?, t.readText abiFile = .ok text ∧
        Outline.parse text = .ok o ∧ r.code? t = .ok code? ∧ r.render o code? = .ok files := by
  unfold Request.filesFor
  split
  · rename_i hname
    simp [hname]
  · rename_i hname
    cases t.readText abiFile with
    | error cause => simp
    | ok text =>
      cases hparse : Outline.parse text with
      | error e => simp [hparse]
      | ok o => cases r.code? t <;> simp [hparse, hname]

theorem generate_of_error (h : r.filesFor t abiFile = .error e) :
    r.generate t abiFile = .failed t e := by
  rw [Request.generate, h]

theorem generate_of_ok (h : r.filesFor t abiFile = .ok files) :
    r.generate t abiFile = r.emit t files := by
  rw [Request.generate, h]

theorem writesLast_generate (r : Request) (t : Tree) (abiFile : String) :
    WritesLast (·.generate t abiFile) r t abiFile := by
  cases hfiles : r.filesFor t abiFile with
  | error e => exact .of_failed (generate_of_error hfiles) (isWriting_of_filesFor hfiles)
  | ok files =>
    have hgo := generate_of_ok hfiles
    have hgoDry : Request.generate { r with dryRun := true } t abiFile =
        Request.emit { r with dryRun := true } t files := generate_of_ok hfiles
    obtain ⟨-, text, o, code?, hread, hparse, hcode, hrender⟩ := filesFor_eq_ok.mp hfiles
    have hpaths := paths_render hrender
    have hnames := haveNames_of_paths hpaths
    rw [isSome_code? hcode] at hpaths
    have hresultDry := (emit_dry (r := { r with dryRun := true }) t files rfl).2
    refine ⟨fun hdry => ?_, fun e herror hearly => ?_, fun e herror hwriting => ?_,
      fun paths hok => ?_⟩
    · rw [hgo]
      exact (emit_dry t files hdry).1
    · rw [hgo] at herror
      exact absurd (emit_error herror).1 (by simp [hearly])
    · rw [hgo] at herror ⊢
      obtain ⟨-, hwet, hchanges⟩ := emit_error herror
      exact ⟨hwet, files, hfiles, hchanges⟩
    · rw [hgo] at hok ⊢
      rw [hgoDry]
      obtain ⟨rfl, hwritten⟩ := emit_ok hok
      exact ⟨text, o, code?, files, hread, hparse, hcode, hrender, rfl, hpaths,
        fun hwet => hwritten hwet hnames, hresultDry⟩

/-- The checks of the command line come before everything else. -/
theorem run_cases (r : Request) (t : Tree) (abiFile : String) :
    (∃ e, e.isWriting = false ∧ r.run t abiFile = .failed t e) ∨
      ∀ dryRun, (Request.run { r with dryRun } t abiFile).result =
          (Request.generate { r with dryRun } t abiFile).result ∧
        (Request.run { r with dryRun } t abiFile).files =
          (Request.generate { r with dryRun } t abiFile).files := by
  cases hcheck : r.check t abiFile with
  | error e => exact .inl ⟨e, isWriting_of_check hcheck, by rw [Request.run, hcheck]⟩
  | ok _ =>
    refine .inr fun dryRun => ?_
    have hcheck' : Request.check { r with dryRun } t abiFile = .ok () := hcheck
    rw [Request.run, hcheck']
    cases hresult : (Request.generate { r with dryRun } t abiFile).result with
    | error e => simp [hresult]
    | ok paths => cases dryRun <;> simp [hresult]

/-- Generating bindings, with the checks of the command line or without, changes files only after
everything is read, checked and rendered; then it changes nothing but missing directories on the way
to the output directory and the files, which are the module, the document and the creation code if
there is any. -/
theorem changes_files_last (r : Request) (t : Tree) (abiFile : String) :
    WritesLast (·.run t abiFile) r t abiFile ∧ WritesLast (·.generate t abiFile) r t abiFile := by
  have hgenerate := writesLast_generate r t abiFile
  refine ⟨?_, hgenerate⟩
  rcases run_cases r t abiFile with ⟨e, hearly, hrun⟩ | hsame
  · exact .of_failed hrun hearly
  · obtain ⟨hresult, hfiles⟩ := hsame r.dryRun
    refine ⟨?_, ?_, ?_, ?_⟩
    · exact fun hdry => hfiles.trans (hgenerate.dry hdry)
    · intro e herror hearly
      exact hfiles.trans (hgenerate.failed e (hresult.symm.trans herror) hearly)
    · intro e herror hwriting
      rw [hfiles]
      exact hgenerate.stopped e (hresult.symm.trans herror) hwriting
    · intro paths hok
      rw [hfiles, (hsame true).1]
      exact hgenerate.succeeded paths (hresult.symm.trans hok)

end Generate

end AbiBindings
