import AbiBindings.Generate.Run
import AbiBindings.Proofs.Contract.Calls
import AbiBindings.Proofs.Outline.Signatures

/-!
# Binding generated contracts

The generated files embed the document of the outline. The binding reads it when it is made, with a
reader that takes no defaults for what the document leaves out.

Results:
* `document_mem_render`: the document of the outline is among the rendered files.
* `interface_iff`: which embedded documents a binding can read.
* `bindable_iff`: which rendered files can be bound, and to what interface.
* `not_bindable`: not all of them can.

**Deviation.** An entry may leave out its outputs, its inputs or its name, and the generator fills
in defaults. It embeds the document without them, so the contract that it generates cannot be bound.
-/

namespace AbiBindings.Generate

variable {text : String} {o : Outline} {r : Request} {code? : Option String}
  {files : List OutputFile}

/-- The document of the outline is among the files. -/
theorem document_mem_render (h : r.render o code? = .ok files) :
    (⟨r.path ".json", o.document.pretty⟩ : OutputFile) ∈ files := by
  unfold Request.render at h
  split at h
  · cases h
  · obtain rfl := Except.ok.inj h
    simp

/-- Metadata with the printed document of an outline have the interface of its entries. -/
theorem interface_eq (ho : Outline.parse text = .ok o) (name : String) (bin? : Option String) :
    (⟨name, o.document.pretty, bin?⟩ : Metadata).interface =
      match Abi.entries? o.document with
      | some xs => .ok (Abi.Interface.ofEntries xs)
      | none => .error (.abi (.badInterface name)) := by
  simp only [Metadata.interface, Outline.interface_pretty ho]
  cases Abi.entries? o.document <;> rfl

/-- The printed document of an outline can be bound exactly if every entry spells out what a binding
needs. -/
theorem interface_iff (ho : Outline.parse text = .ok o) (name : String) (bin? : Option String) :
    (∃ i, (⟨name, o.document.pretty, bin?⟩ : Metadata).interface = .ok i) ↔
      Outline.isBindable o.document = true := by
  obtain ⟨-, -, -, -, -, hdocument⟩ := Outline.parse_eq_ok ho
  rw [← Outline.entries?_isSome_iff hdocument (Outline.printable_document ho).sorted,
    interface_eq ho]
  cases Abi.entries? o.document <;> simp

/-- The files that are rendered for an outline can be bound exactly if every entry of its document
spells out what a binding needs. Then the interface has the functions and events of the outline, as
often as the outline has them. -/
theorem bindable_iff (ho : Outline.parse text = .ok o) (hr : r.render o code? = .ok files) :
    ∃ json ∈ files, json.path = r.path ".json" ∧
      ∀ (name : String) (bin? : Option String),
        ((∃ i, (⟨name, json.content, bin?⟩ : Metadata).interface = .ok i) ↔
          Outline.isBindable o.document = true) ∧
        ∀ i, (⟨name, json.content, bin?⟩ : Metadata).interface = .ok i →
          ∃ fs es, fs.Perm i.functions ∧ es.Perm i.events ∧
            List.Forall₂ Outline.Function.Matches o.functions fs ∧
            List.Forall₂ Outline.Event.Matches o.events es := by
  refine ⟨_, document_mem_render hr, ?_, fun name bin? => ⟨interface_iff ho name bin?, ?_⟩⟩
  · simp only
  · intro i hi
    rw [interface_eq ho] at hi
    split at hi
    · rename_i xs hxs
      obtain rfl := Except.ok.inj hi
      obtain ⟨-, -, -, -, -, hdocument⟩ := Outline.parse_eq_ok ho
      have hsorted := (Outline.printable_document ho).sorted
      obtain ⟨hfunctions, hevents⟩ := Outline.matches_of_entries? hdocument hsorted hxs
      exact ⟨_, _, (Abi.perm_orderedByName _ _).symm, (Abi.perm_orderedByName _ _).symm,
        hfunctions, hevents⟩
    · cases hi

/-- A request for files of a contract, which are only printed. -/
def printing (contract : String) : Request := ⟨contract, "out", none, true⟩

theorem render_of_entries (r : Request) (code? : Option String)
    (h : (o.functions.isEmpty && o.events.isEmpty) = false) :
    ∃ files, r.render o code? = .ok files := by
  simp [Request.render, h]

/-- A batch of orders can be bound; its function has the type that the document names. -/
theorem batch_bindable :
    ∃ files, (printing "Batch").render Outline.batch none = .ok files ∧
      ∃ json ∈ files, ∃ i, (⟨"Batch", json.content, none⟩ : Metadata).interface = .ok i ∧
        ∃ fs, fs.Perm i.functions ∧
          List.Forall₂ Outline.Function.Matches Outline.batch.functions fs := by
  obtain ⟨files, hr⟩ := render_of_entries (o := Outline.batch) (printing "Batch") none rfl
  obtain ⟨json, hjson, -, hbind⟩ := bindable_iff Outline.parse_batch hr
  obtain ⟨hiff, hmatch⟩ := hbind "Batch" none
  obtain ⟨i, hi⟩ := hiff.mpr rfl
  obtain ⟨fs, -, hperm, -, hfunctions, -⟩ := hmatch i hi
  exact ⟨files, hr, json, hjson, i, hi, fs, hperm, hfunctions⟩

/-- The outline of a function without results whose entry has no list of outputs, with its
document. -/
def terse : Outline where
  constructor? := none
  functions := [⟨"f", [], [], "nonpayable"⟩]
  events := []
  document := .array [
    .object [("inputs", .array []), ("name", .text "f"), ("type", .text "function")]]

theorem read_terse : Json.parse terse.document.pretty = some terse.document :=
  Json.parse_pretty_self rfl rfl (by decide)

/-- Not all rendered files can be bound: the list of outputs is filled in by the generator, but not
in the document that it embeds. -/
theorem not_bindable :
    ¬ ∀ (text : String) (o : Outline) (r : Request) (code? : Option String)
        (files : List OutputFile), Outline.parse text = .ok o → r.render o code? = .ok files →
        ∃ json ∈ files, json.path = r.path ".json" ∧ ∀ (name : String) (bin? : Option String),
          ∃ i, (⟨name, json.content, bin?⟩ : Metadata).interface = .ok i := by
  intro h
  have ho : Outline.parse terse.document.pretty = .ok terse :=
    (Outline.parse_of_read read_terse).trans rfl
  obtain ⟨json, hjson, hpath, hbind⟩ := h _ terse (printing "F") none _ ho rfl
  have hpaths : (printing "F").path ".rs" ≠ (printing "F").path ".json" := by decide +kernel
  simp only [List.append_nil, List.mem_cons, List.not_mem_nil, or_false] at hjson
  rcases hjson with rfl | rfl
  · exact hpaths hpath
  · exact absurd ((interface_iff ho "F" none).mp (hbind "F" none)) (by decide +kernel)

end AbiBindings.Generate
