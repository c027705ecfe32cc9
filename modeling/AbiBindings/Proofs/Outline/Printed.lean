import AbiBindings.Proofs.Json.RoundTrip
import AbiBindings.Proofs.Outline.Interface

/-!
# Printed outlines

The document of an outline is printed into a text that a binding reads at run time. The text
describes the interface of the document.

* `Printable`: what holds of the document of every outline that is read from a text.

Results:
* `parse_pretty_document`: the printed document is read as the document with reread numbers.
* `parse_of_document`: a text that is read as the document has the same outline.
* `interface_pretty`: the printed document describes the interface of the entries of the document.
* `entries?_of_interface`: a text that both readers accept describes this interface as well.
-/

namespace AbiBindings.Outline

open Json (Number)

/-- A document that can be printed and read again. -/
structure Printable (document : Json) : Prop where
  sorted : document.sorted = true
  sound : document.sound = true
  depth : document.depth ≤ Json.depthLimit
  finite : document.allNumbers Number.finite = true

variable {text : String} {o : Outline}

theorem parse_of_read {j : Json} (h : Json.parse text = some j) : parse text = ofJson j.normal := by
  rw [parse, h]

theorem interface_of_read {j : Json} (h : Json.parse text = some j) :
    Abi.Interface.parse? text = Abi.Interface.ofJson? j := by
  rw [Abi.Interface.parse?, h]
  rfl

/-- The document of an outline is its text's value, or a member of it, so it has no other
numbers. -/
theorem allNumbers_document {p : Number → Bool} (h : parse text = .ok o)
    (hp : ∀ tokens, Json.Token.scan text = some tokens → Json.Literals p tokens) :
    o.document.allNumbers p = true := by
  obtain ⟨j, hj, -, -, hdocument, -⟩ := parse_eq_ok h
  have hnumbers := Json.allNumbers_normal (Json.allNumbers_of_parse hj hp)
  rw [← hdocument]
  cases hmember : j.normal.member? "abi" with
  | none => exact hnumbers
  | some abi => exact Json.allNumbers_member? hnumbers hmember

theorem printable_document (h : parse text = .ok o) : Printable o.document := by
  have hfinite := allNumbers_document h fun _ _ _ _ _ => Number.finite_of_ofLiteral?
  obtain ⟨j, -, hsound, hdepth, hdocument, -⟩ := parse_eq_ok h
  have hsorted := Json.sorted_normal j
  have hsound' := Json.sound_normal hsound
  have hdepth' := (Json.depth_normal_le j).trans hdepth
  rw [← hdocument] at hfinite ⊢
  cases hmember : j.normal.member? "abi" with
  | none =>
    rw [hmember] at hfinite
    exact ⟨hsorted, hsound', hdepth', hfinite⟩
  | some abi =>
    rw [hmember] at hfinite
    exact ⟨sorted_of_member? hsorted hmember, sound_of_member? hsound' hmember,
      (depth_le_of_member? hmember).trans hdepth', hfinite⟩

/-- The printed document of an outline is read as the document with reread numbers. -/
theorem parse_pretty_document (h : parse text = .ok o) :
    Json.parse o.document.pretty = some (o.document.mapNumbers Number.reread) := by
  have hdocument := printable_document h
  have hread := Json.parse_pretty_of_finite hdocument.sound hdocument.finite hdocument.depth
    Json.isSpace_empty
  rwa [String.append_empty] at hread

/-- The printed document of an outline is read as the document if all numbers of the text are
integers within 64 bits. -/
theorem parse_pretty_document_of_integers (h : parse text = .ok o)
    (hnumbers : Json.integersOnly text = true) :
    Json.parse o.document.pretty = some o.document := by
  have hliterals : ∀ tokens, Json.Token.scan text = some tokens →
      Json.Literals (fun n => n.reread = n) tokens := by
    intro tokens hscan l hl n hn
    rw [Json.integersOnly, hscan, Option.getD_some, List.all_eq_true] at hnumbers
    exact decide_eq_true (Number.reread_of_isInteger (hnumbers _ hl) hn)
  have hsame := Json.mapNumbers_eq_self (g := Number.reread) (fun n hn => of_decide_eq_true hn)
    (allNumbers_document h hliterals)
  rw [parse_pretty_document h, hsame]

/-- The outline of a printed document that is read as itself. -/
theorem parse_of_document (h : parse text = .ok o) {printed : String}
    (hread : Json.parse printed = some o.document) : parse printed = .ok o := by
  have hdocument := printable_document h
  obtain ⟨-, -, -, -, -, hentries⟩ := parse_eq_ok h
  obtain ⟨items, -, harray, -⟩ := ofEntries_eq_ok hentries
  have hnone : o.document.member? "abi" = none := by rw [harray]; rfl
  rw [parse, hread]
  simp only [Json.normal_of_sorted hdocument.sorted, ofJson, hnone]
  exact hentries

/-- The printed document of an outline describes the interface of the entries of the document. -/
theorem interface_pretty (h : parse text = .ok o) :
    Abi.Interface.parse? o.document.pretty =
      (Abi.entries? o.document).map Abi.Interface.ofEntries := by
  rw [Abi.Interface.parse?, parse_pretty_document h]
  exact (Abi.Interface.ofJson?_eq _).trans (by rw [Abi.entries?_mapNumbers])

/-- A text that describes an outline and an interface is an array: both have its entries. -/
theorem entries?_of_interface (h : parse text = .ok o) {i : Abi.Interface}
    (hi : Abi.Interface.parse? text = some i) :
    ∃ xs, Abi.entries? o.document = some xs ∧ Abi.Interface.ofEntries xs = i := by
  obtain ⟨j, hj, -, -, hdocument, -⟩ := parse_eq_ok h
  obtain ⟨j', hj', hi⟩ := Option.bind_eq_some_iff.mp hi
  obtain rfl : j = j' := Option.some.inj (hj.symm.trans hj')
  rw [Abi.Interface.ofJson?_eq] at hi
  obtain ⟨xs, hxs, rfl⟩ := Option.map_eq_some_iff.mp hi
  have hvalue := Abi.entries?_normal hxs
  cases j with
  | array items =>
    have hnone : (Json.array items).normal.member? "abi" = none := rfl
    rw [hnone, Option.getD_none] at hdocument
    exact ⟨xs, hdocument ▸ hvalue, rfl⟩
  | _ => cases hxs

end AbiBindings.Outline
