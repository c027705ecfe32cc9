import AbiBindings.Proofs.Generate.Binding

/-!
# Generating again

The embedded document stands for the file that it was taken from: it has the same outline, so the
same files are generated from it.

Results:
* `parse_embedded`: the embedded document has the outline of the text.
* `regeneration_fixed`: rendering the outline of the embedded document changes nothing.
-/

namespace AbiBindings.Generate

variable {text : String} {o : Outline} {r : Request} {code? : Option String}
  {files : List OutputFile}

/-- Where the numbers of a text are integers within 64 bits, the printed document of its outline has
the same outline, with the same document. -/
theorem parse_embedded (hnumbers : Json.integersOnly text = true)
    (ho : Outline.parse text = .ok o) : Outline.parse o.document.pretty = .ok o :=
  Outline.parse_of_document ho (Outline.parse_pretty_document_of_integers ho hnumbers)

/-- The embedded document has the outline of the text, with the document in it, and the same files
are rendered for it. -/
theorem regeneration_fixed (hnumbers : Json.integersOnly text = true)
    (ho : Outline.parse text = .ok o) (hr : r.render o code? = .ok files) :
    ∃ json ∈ files, json.path = r.path ".json" ∧ Outline.parse json.content = .ok o ∧
      ∀ o', Outline.parse json.content = .ok o' → r.render o' code? = .ok files := by
  have hread := parse_embedded hnumbers ho
  refine ⟨_, document_mem_render hr, ?_, hread, fun o' ho' => ?_⟩
  · simp only
  · obtain rfl : o = o' := Except.ok.inj (hread.symm.trans ho')
    exact hr

/-- A build artifact whose entry has its keys in no order, and numbers at both ends of 64 bits. -/
def artifact : Json := .object [
  ("contractName", .text "Vault"),
  ("abi", .array [.object [
    ("type", .text "function"), ("outputs", .array []), ("name", .text "open"),
    ("inputs", .array []), ("floor", .number (.negative 9223372036854775807)),
    ("ceiling", .number (.natural 18446744073709551615))]])]

/-- The outline of the artifact. -/
def vault : Outline where
  constructor? := none
  functions := [⟨"open", [], [], "nonpayable"⟩]
  events := []
  document := .array [.object [
    ("ceiling", .number (.natural 18446744073709551615)),
    ("floor", .number (.negative 9223372036854775807)), ("inputs", .array []),
    ("name", .text "open"), ("outputs", .array []), ("type", .text "function")]]

theorem integersOnly_artifact : Json.integersOnly artifact.pretty = true := by
  have hscan := Json.scan_pretty (j := artifact) rfl Json.isSpace_empty
  rw [String.append_empty] at hscan
  rw [Json.integersOnly, hscan]
  decide +kernel

theorem parse_artifact : Outline.parse artifact.pretty = .ok vault :=
  (Outline.parse_of_read (Json.parse_pretty_self rfl rfl (by decide))).trans rfl

/-- The files of the artifact are rendered again from the document among them. -/
theorem vault_regenerated :
    ∃ files, (printing "Vault").render vault none = .ok files ∧
      ∃ json ∈ files, Outline.parse json.content = .ok vault := by
  obtain ⟨files, hr⟩ := render_of_entries (o := vault) (printing "Vault") none rfl
  obtain ⟨json, hjson, -, hparse, -⟩ :=
    regeneration_fixed integersOnly_artifact parse_artifact hr
  exact ⟨files, hr, json, hjson, hparse⟩

end AbiBindings.Generate
