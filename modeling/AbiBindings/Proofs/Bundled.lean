import AbiBindings.Bundled.Registry
import AbiBindings.Chain.Script
import AbiBindings.Proofs.Bytes.Hex
import AbiBindings.Proofs.Json.RoundTrip
import AbiBindings.Proofs.Typed.Bindings

/-!
# The bundled bindings agree with their documents

The text of the ABI of every bundled contract is read as an interface, and the typed methods and
events of the binding agree with the entries of this interface. What follows from agreement holds of
every method and event that is bundled.

* `Binding.Agrees`: a binding whose ABI text describes an interface that it agrees with.

Results:
* `Binding.Agrees.of_document`: a binding agrees if it agrees with the document that was printed.
* `Bundled.agrees_of_mem`: every bundled binding agrees.
* `Bundled.methods_faithful`: arguments and results of every bundled method, below `2 ^ 32` bytes.
* `Bundled.events_parsed`: the logs of every bundled event, below `2 ^ 32` bytes.
* `Bundled.not_methods_faithful`, `Bundled.not_events_parsed`: what is longer need not be read.
-/

namespace AbiBindings

open Abi (Interface Token)

/-- A binding whose ABI text describes an interface that it agrees with. -/
def Binding.Agrees (b : Binding) : Prop := ∃ i, b.metadata.interface = .ok i ∧ b.Fits i

/-- Whether a document is read back from its text. -/
def Json.isReadBack (j : Json) : Bool := j.sound && j.integral && decide (j.depth ≤ depthLimit)

theorem Bundled.parse_documentText {document : Json} (h : document.isReadBack = true) :
    Json.parse (documentText document) = some document := by
  simp only [Json.isReadBack, Bool.and_eq_true, decide_eq_true_eq] at h
  exact Json.parse_pretty h.1.1 h.1.2 h.2 (by decide)

/-- A binding with the text of a document agrees if it agrees with what the document describes. -/
theorem Binding.Agrees.of_document {b : Binding} (document : Json)
    (htext : b.metadata.abi = Bundled.documentText document)
    (hread : document.isReadBack = true)
    (hfits : ∃ i ∈ Interface.ofJson? document, b.Fits i) : b.Agrees := by
  obtain ⟨i, hi, hb⟩ := hfits
  have hparse : Interface.parse? b.metadata.abi = some i := by
    rw [htext, Interface.parse?, Bundled.parse_documentText hread]
    exact hi
  exact ⟨i, by rw [Metadata.interface, hparse], hb⟩

namespace Bundled

/-! ## Agreement of each binding -/

/-- Every bundled binding agrees with its document. -/
theorem agrees_of_mem {b : Binding} (hb : b ∈ all) : b.Agrees := by
  simp only [all, List.mem_cons, List.not_mem_nil, or_false] at hb
  -- The kernel compares each binding with its document: it takes the entries from the document,
  -- hashes the signatures of the events and derives the name of every argument.
  rcases hb with rfl | rfl | rfl | rfl | rfl | rfl | rfl
  · exact .of_document AggregatorProxy.document rfl (by decide +kernel) (by decide +kernel)
  · exact .of_document ENSInterface.document rfl (by decide +kernel) (by decide +kernel)
  · exact .of_document Flags.document rfl (by decide +kernel) (by decide +kernel)
  · exact .of_document FlagsInterface.document rfl (by decide +kernel) (by decide +kernel)
  · exact .of_document LinkToken.document rfl (by decide +kernel) (by decide +kernel)
  · exact .of_document MockV3Aggregator.document rfl (by decide +kernel) (by decide +kernel)
  · exact .of_document RewardLib.document rfl (by decide +kernel) (by decide +kernel)

/-- Every bundled binding is bound at every address, to an interface that it agrees with. -/
theorem bind_of_mem {b : Binding} (hb : b ∈ all) (address : Address) :
    ∃ h, Handle.bind address b.metadata = .ok h ∧ b.Fits h.contract.interface := by
  obtain ⟨i, hi, hfits⟩ := agrees_of_mem hb
  exact ⟨.ofContract ⟨address, i⟩, by rw [Handle.bind, hi], hfits⟩

theorem linkToken_mem : LinkToken.binding ∈ all := by simp [all]

/-! ## Methods -/

/-- Every bundled method agrees with a function of the bundled ABI and is faithful to it. -/
theorem methods_faithful {b : Binding} (hb : b ∈ all) (address : Address) :
    ∃ h, Handle.bind address b.metadata = .ok h ∧ ∀ m ∈ b.methods,
      ∃ f ∈ h.contract.interface.functions,
        m.Fits h.contract.interface f ∧ h.Faithful m f := by
  obtain ⟨h, hbind, hfits⟩ := bind_of_mem hb address
  refine ⟨h, hbind, fun m hm => ?_⟩
  obtain ⟨f, hf, hmf⟩ := hfits.methods m hm
  exact ⟨f, hf, hmf, Handle.faithful_of_fits hmf⟩

/-- The data of a round are returned from the proxy of an aggregator. -/
theorem call_getRoundData :
    let m : Method :=
      ⟨"get_round_data", "getRoundData", [("round_id", .unsigned 128)], .call roundData⟩
    let args : m.params.shapes.Values := (18446744073709551617 : BitVec 128)
    let value : roundData.shapes.Values :=
      (args, (-5 : Word), (1600000000 : Word), (1600000012 : Word), (1 : BitVec 128))
    let script := { Script.empty with calls := [.ok (roundData.shapes.encoded value)] }
    ∃ h, Handle.bind Address.zero AggregatorProxy.binding.metadata = .ok h ∧
      ((h.call m roundData .default args).run Script.chain script).result = .ok value := by
  intro m args value script
  obtain ⟨h, hbind, hmethods⟩ :=
    methods_faithful (b := AggregatorProxy.binding) (List.mem_cons_self ..) Address.zero
  have hm : m ∈ AggregatorProxy.binding.methods := by decide
  obtain ⟨f, -, -, hfaithful⟩ := hmethods m hm
  have hsize : (roundData.shapes.encoded value).length < 2 ^ 32 := by decide +kernel
  exact ⟨h, hbind,
    hfaithful.returned roundData rfl args value .default hsize Script.chain script rfl⟩

/-! ### What is too long -/

/-- An encoding that has little but `2 ^ 32` bytes is far from the size at which words overflow. -/
theorem length_encode_lt (ts : List Token) {b : Bytes} (hb : b.length = 2 ^ 32)
    (hsum : (ts.map fun t => 32 + t.body.length).sum ≤ 256 + (padRight b).length) :
    (Abi.encode ts).length < 2 ^ 256 := by
  have hle := Abi.length_encode_le ts
  have hpadded := Abi.length_padRight_le b
  omega

-- What is too long is known by its length alone below, so that nothing evaluates it.
theorem exists_long_bytes : ∃ b : Bytes, b.length = 2 ^ 32 :=
  ⟨List.replicate (2 ^ 32) 0, List.length_replicate⟩

theorem exists_long_text : ∃ text : String, (utf8 text).length = 2 ^ 32 := by
  refine ⟨String.ofList (List.replicate (2 ^ 32) 'a'), ?_⟩
  rw [Hex.utf8_of_isPlain, List.length_map, String.toList_ofList, List.length_replicate]
  intro c hc
  rw [String.toList_ofList] at hc
  obtain rfl := List.eq_of_mem_replicate hc
  decide

/-- Neither arguments nor results of any size are read back: a byte string of `2 ^ 32` bytes in the
calldata of a token is refused for its length, and so is a text that it returns. -/
theorem not_methods_faithful :
    (¬ ∀ b ∈ all, ∀ (address : Address) (h : Handle), Handle.bind address b.metadata = .ok h →
      ∀ m ∈ b.methods, ∀ f, m.Fits h.contract.interface f → ∀ args : m.params.shapes.Values,
        Abi.decode f.inputTypes (m.params.shapes.encoded args) =
          .ok (m.params.shapes.toTokens args)) ∧
      ¬ ∀ b ∈ all, ∀ (address : Address) (h : Handle), Handle.bind address b.metadata = .ok h →
        ∀ m ∈ b.methods, ∀ f, m.Fits h.contract.interface f →
        ∀ outputs, m.result = .call outputs → ∀ (args : m.params.shapes.Values)
          (value : outputs.shapes.Values) (o : CallOptions) (σ : Type) (chain : Chain σ) (s : σ),
          (chain.answer (.call (h.contract.message o
            (f.selector ++ m.params.shapes.encoded args)) o.state?) s).1 =
              .ok (outputs.shapes.encoded value) →
          ((h.call m outputs o args).run chain s).result = .ok value := by
  obtain ⟨h, hbind, hfits⟩ := bind_of_mem linkToken_mem Address.zero
  constructor
  · intro hread
    obtain ⟨b, hb⟩ := exists_long_bytes
    let m : Method :=
      ⟨"transfer_and_call", "transferAndCall",
        [("to", .address), ("value", .word), ("data", .bytes)], .transaction⟩
    let args : m.params.shapes.Values := (Address.zero, (0 : Word), b)
    have hm : m ∈ LinkToken.binding.methods := by decide
    obtain ⟨f, -, hmf⟩ := hfits.methods m hm
    have hmem : Token.bytes b ∈ m.params.shapes.toTokens args := .tail _ (.tail _ (.head _))
    have hsize : (m.params.shapes.encoded args).length < 2 ^ 256 :=
      length_encode_lt [.address Address.zero, .uint 0, .bytes b] hb
        (by simp [Token.body]; omega)
    have hfound := hread _ linkToken_mem _ h hbind m hm f hmf args
    rw [Fields.decode_encoded_of_tooLong hmf.params hmf.solid args hsize hmem hb.ge] at hfound
    cases hfound
  · intro hread
    obtain ⟨text, htext⟩ := exists_long_text
    let m : Method := ⟨"name", "name", [], .call [("", .text)]⟩
    let outputs : NamedFields := [("", .text)]
    let value : outputs.shapes.Values := text
    have hm : m ∈ LinkToken.binding.methods := by decide
    obtain ⟨f, -, hmf⟩ := hfits.methods m hm
    have hmem : Token.string text ∈ outputs.shapes.toTokens value := .head _
    have hsize : (outputs.shapes.encoded value).length < 2 ^ 256 :=
      length_encode_lt [.string text] htext (by simp [Token.body]; omega)
    have hlong : (Token.string text).TooLong := htext.ge
    let script := { Script.empty with calls := [.ok (outputs.shapes.encoded value)] }
    have hreturned := hread _ linkToken_mem _ h hbind m hm f hmf outputs rfl () value .default
      _ Script.chain script rfl
    rw [Handle.call_of_tooLong hmf rfl () value .default hsize hmem hlong Script.chain script rfl]
      at hreturned
    cases hreturned

/-! ## Events -/

/-- The log that a bundled event leaves is parsed as this event, which is an event of the bundled
ABI, if the data has less than `2 ^ 32` bytes. -/
theorem events_parsed {b : Binding} (hb : b ∈ all) {e : EventBinding} (he : e ∈ b.events)
    (address : Address) :
    ∃ h, Handle.bind address b.metadata = .ok h ∧
      (∃ a ∈ h.contract.interface.events, e.Fits a) ∧
      ∀ (v : e.fields.shapes.Values) (log : Log), log.topics = e.topicsFor v →
        log.data = e.dataFor v → log.data.length < 2 ^ 32 →
        h.contract.unpack e.eventType log = .ok ⟨v, log⟩ := by
  obtain ⟨h, hbind, hfits⟩ := bind_of_mem hb address
  obtain ⟨a, ha, hea⟩ := hfits.events e he
  exact ⟨h, hbind, ⟨a, ha, hea⟩, fun v log htopics hdata hsize =>
    Contract.unpack_of_fits ha hea hfits.tellsEvents v log htopics hdata hsize⟩

/-- A transfer with data is parsed from its log. -/
theorem unpack_transfer :
    let e : EventBinding :=
      ⟨"Transfer", "transfer", "Transfer", "Transfer(address,address,uint256,bytes)",
        [("from", .address), ("to", .address), ("value", .word), ("data", .bytes)],
        [("from", .address), ("to", .address)]⟩
    let v : e.fields.shapes.Values := (Address.zero, Vector.replicate 20 1, 1000, [1, 2, 3])
    let log : Log := ⟨Address.zero, e.topicsFor v, e.dataFor v, some 7, none, none, some 0, none⟩
    ∃ h, Handle.bind Address.zero LinkToken.binding.metadata = .ok h ∧
      h.contract.unpack e.eventType log = .ok ⟨v, log⟩ := by
  intro e v log
  have he : e ∈ LinkToken.binding.events := by decide
  obtain ⟨h, hbind, -, hparsed⟩ := events_parsed linkToken_mem he Address.zero
  have hsize : log.data.length < 2 ^ 32 := by decide +kernel
  exact ⟨h, hbind, hparsed v log rfl rfl hsize⟩

/-- Not every log that a bundled event leaves is parsed: that of a transfer with `2 ^ 32` bytes of
data is refused for their length. -/
theorem not_events_parsed :
    ¬ ∀ b ∈ all, ∀ e ∈ b.events, ∀ (address : Address) (h : Handle),
      Handle.bind address b.metadata = .ok h → ∀ (v : e.fields.shapes.Values) (log : Log),
        log.topics = e.topicsFor v → log.data = e.dataFor v →
        h.contract.unpack e.eventType log = .ok ⟨v, log⟩ := by
  intro hparsed
  obtain ⟨b, hb⟩ := exists_long_bytes
  let e : EventBinding :=
    ⟨"Transfer", "transfer", "Transfer", "Transfer(address,address,uint256,bytes)",
      [("from", .address), ("to", .address), ("value", .word), ("data", .bytes)],
      [("from", .address), ("to", .address)]⟩
  let v : e.fields.shapes.Values := (Address.zero, Address.zero, (0 : Word), b)
  let log : Log := ⟨Address.zero, e.topicsFor v, e.dataFor v, none, none, none, none, none⟩
  have he : e ∈ LinkToken.binding.events := by decide
  obtain ⟨h, hbind, hfits⟩ := bind_of_mem linkToken_mem Address.zero
  obtain ⟨a, ha, hea⟩ := hfits.events e he
  have hmem : Token.bytes b ∈ e.unindexedTokens v := .tail _ (.head _)
  have hsize : log.data.length < 2 ^ 256 :=
    length_encode_lt [.uint 0, .bytes b] hb (by simp [Token.body]; omega)
  have hlong : (Token.bytes b).TooLong := hb.ge
  have hread := hparsed _ linkToken_mem e he _ h hbind v log rfl rfl
  have hrefused :=
    Contract.unpack_of_tooLong ha hea hfits.tellsEvents v log rfl rfl hsize hmem hlong
  rw [hread] at hrefused
  cases hrefused

end Bundled

end AbiBindings
