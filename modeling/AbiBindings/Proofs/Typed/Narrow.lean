import AbiBindings.Proofs.Typed.Bindings

/-!
# Narrow integers

What typed results and events have of the words of an output or a log. An ABI value of the right
type is never refused by its typed counterpart: a narrow integer keeps the low bits of its word, and
whatever else is in the word is lost.

* `Shape.kept`: what a typed value keeps of an ABI value.
* `Fields.KeepLowBits`: typed values whose narrow integers are the low bits of given words.
* `Abi.wordIn`: a word of an output.

Results:
* `Fields.ofTokens_of_haveTypes`: exact values are never refused.
* `Abi.decode_numbers`, `Abi.decode_short`: an output with enough words is read, whatever they are,
  and no other is.
* `Handle.returns_low_bits`, `Contract.unpack_low_bits`: the typed results of calls and the typed
  events of logs.
-/

namespace AbiBindings

open Abi (Token Ty Event Function)

/-! ## What typed values keep -/

namespace Shape

/-- Whether the values are integers of fewer than 256 bits. -/
def isNarrow : Shape → Bool
  | .unsigned width => width < 256
  | _ => false

/-- Whether the values are integers. -/
def isNumber : Shape → Bool
  | .unsigned _ | .word | .integer => true
  | _ => false

/-- What a value of the type keeps of an ABI value: of a word, as many low bits as it has. -/
def kept : Shape → Token → Token
  | .unsigned width, .uint w => .uint ((w.setWidth width).setWidth 256)
  | .list item, .array tokens => .array (tokens.map item.kept)
  | _, t => t

theorem hasType_of_replicate {tokens : List Token} {type : Ty} {n : Nat}
    (h : Token.haveTypes tokens (List.replicate n type) = true) :
    ∀ t ∈ tokens, t.hasType type = true := by
  intro t ht
  obtain ⟨i, hi⟩ := List.mem_iff_getElem?.mp ht
  obtain ⟨u, hu, hhas⟩ := Token.hasType_of_getElem? h hi
  obtain rfl := List.eq_of_mem_replicate (List.mem_of_getElem? hu)
  exact hhas

theorem mapM_ofToken {item : Shape} {tokens : List Token}
    (h : ∀ t ∈ tokens, ∃ v, item.ofToken t = .ok v ∧ item.toToken v = item.kept t) :
    ∃ values, tokens.mapM item.ofToken = .ok values ∧
      values.map item.toToken = tokens.map item.kept := by
  induction tokens with
  | nil => exact ⟨[], rfl, rfl⟩
  | cons t rest ih =>
    obtain ⟨v, hv, hkept⟩ := h t List.mem_cons_self
    obtain ⟨values, hvalues, hrest⟩ := ih fun u hu => h u (List.mem_cons_of_mem t hu)
    refine ⟨v :: values, ?_, by rw [List.map_cons, List.map_cons, hkept, hrest]⟩
    rw [List.mapM_cons, hv, hvalues]
    rfl

/-- An exact value of an ABI type is never refused by a type that stands for it. -/
theorem ofToken_of_hasType {s : Shape} {type : Ty} (h : s.standsFor type = true) {t : Token}
    (ht : t.hasType type = true) : ∃ v, s.ofToken t = .ok v ∧ s.toToken v = s.kept t := by
  induction s generalizing type t with
  | list item ih =>
    cases type <;> simp [standsFor] at h
    cases Token.typed_of_hasType ht with
    | array tokens _ htokens =>
      obtain ⟨values, hvalues, hkept⟩ := mapM_ofToken fun u hu =>
        ih h (hasType_of_replicate htokens u hu)
      exact ⟨values, hvalues, congrArg Token.array hkept⟩
  | hash =>
    cases type <;> simp [standsFor] at h
    subst h
    cases Token.typed_of_hasType ht with
    | fixed b _ hlen =>
      refine ⟨⟨b.toArray, by simpa using hlen⟩, ?_, ?_⟩
      · simp [ofToken, exactly?, hlen]
      · simp [toToken, kept, Vector.toList]
  | _ =>
    cases Token.typed_of_hasType ht <;> simp_all [standsFor, ofToken, toToken, kept, wordOf?]

end Shape

namespace Fields

theorem length_of_standFor {fields : Fields} {types : List Ty} (h : fields.standFor types = true) :
    types.length = fields.length := by
  induction fields generalizing types with
  | nil => cases types <;> simp_all [standFor]
  | cons s rest ih =>
    cases types with
    | nil => cases h
    | cons type types =>
      rw [standFor, Bool.and_eq_true] at h
      rw [List.length_cons, List.length_cons, ih h.2]

theorem ofList_of_haveTypes : ∀ {fields : Fields} {types : List Ty} {tokens : List Token},
    fields.standFor types = true → Token.haveTypes tokens types = true →
    ∃ v, fields.ofList tokens = .ok v ∧ fields.toTokens v = List.zipWith Shape.kept fields tokens
  | [], types, tokens, _, _ => ⟨(), rfl, rfl⟩
  | s :: rest, types, tokens, h, ht => by
    obtain ⟨type, types, rfl⟩ : ∃ type rest, types = type :: rest := by
      cases types <;> simp_all [standFor]
    obtain ⟨t, tokens, rfl⟩ : ∃ t rest, tokens = t :: rest := by
      cases tokens <;> simp_all [Token.haveTypes]
    rw [standFor, Bool.and_eq_true] at h
    rw [Token.haveTypes, Bool.and_eq_true] at ht
    obtain ⟨v, hv, hkept⟩ := Shape.ofToken_of_hasType h.1 ht.1
    cases rest with
    | nil => exact ⟨v, hv, by rw [toTokens, hkept]; rfl⟩
    | cons r rest =>
      obtain ⟨values, hvalues, hrest⟩ := ofList_of_haveTypes h.2 ht.2
      exact ⟨(v, values), by rw [ofList, hv, hvalues],
        by rw [toTokens, hkept, hrest, List.zipWith_cons_cons]⟩

/-- Exact values of ABI types are never refused by types that stand for them. -/
theorem ofTokens_of_haveTypes {fields : Fields} {types : List Ty} {tokens : List Token}
    (h : fields.standFor types = true) (ht : Token.haveTypes tokens types = true) :
    ∃ v, fields.ofTokens tokens = .ok v ∧
      fields.toTokens v = List.zipWith Shape.kept fields tokens := by
  obtain ⟨v, hv, hkept⟩ := ofList_of_haveTypes h ht
  have hlen : tokens.length = fields.length := by
    rw [Token.haveTypes_length ht, length_of_standFor h]
  refine ⟨v, ?_, hkept⟩
  rcases fields with _ | ⟨s, _ | ⟨r, rest⟩⟩
  · rfl
  · obtain ⟨t, rfl⟩ := List.length_eq_one_iff.mp hlen
    exact hv
  · rw [ofTokens, joined_eq_tuple (by simp [hlen]), ofTuple, if_pos hlen, hv]

/-- Whether every narrow integer among some values has the low bits of the word in its place. -/
def KeepLowBits (fields : Fields) (v : fields.Values) (word? : Nat → Option Word) : Prop :=
  ∀ (i width : Nat), fields[i]? = some (.unsigned width) →
    ∃ w n, word? i = some w ∧ (fields.toTokens v)[i]? = some (.uint n) ∧
      n.toNat = w.toNat % 2 ^ width

theorem standFor_getElem? {fields : Fields} {types : List Ty} (h : fields.standFor types = true)
    {i : Nat} {s : Shape} (hs : fields[i]? = some s) :
    ∃ type, types[i]? = some type ∧ s.standsFor type = true := by
  induction fields generalizing types i with
  | nil => cases hs
  | cons r fields ih =>
    cases types with
    | nil => cases h
    | cons type types =>
      rw [standFor, Bool.and_eq_true] at h
      cases i with
      | zero =>
        obtain rfl : r = s := by simpa using hs
        exact ⟨type, rfl, h.1⟩
      | succ i => exact ih h.2 hs

/-- Typed values from exact values keep the low bits of the words. -/
theorem keepLowBits_of_kept {fields : Fields} {types : List Ty} {tokens : List Token}
    (h : fields.standFor types = true) (ht : Token.haveTypes tokens types = true)
    {v : fields.Values} (hv : fields.toTokens v = List.zipWith Shape.kept fields tokens) :
    fields.KeepLowBits v fun i => tokens[i]?.bind Shape.wordOf? := by
  intro i width hshape
  obtain ⟨type, htype, hstands⟩ := standFor_getElem? h hshape
  obtain ⟨t, htoken, hhas⟩ := Token.hasType_of_type_getElem? ht htype
  obtain ⟨bits, rfl⟩ : ∃ bits, type = .uint bits := by cases type <;> simp_all [Shape.standsFor]
  obtain ⟨w, rfl⟩ : ∃ w, t = .uint w := by
    cases Token.typed_of_hasType hhas with
    | uint w => exact ⟨w, rfl⟩
  have hwidth : width ≤ 256 := by simpa [Shape.standsFor] using hstands
  have hword : tokens[i]?.bind Shape.wordOf? = some w := by
    rw [htoken]
    rfl
  refine ⟨w, (w.setWidth width).setWidth 256, hword, ?_, ?_⟩
  · rw [hv, List.getElem?_zipWith, hshape, htoken]
    rfl
  · have hlt : w.toNat % 2 ^ width < 2 ^ 256 :=
      (Nat.mod_lt _ (Nat.two_pow_pos width)).trans_le (Nat.pow_le_pow_right (by decide) hwidth)
    rw [BitVec.toNat_setWidth, BitVec.toNat_setWidth, Nat.mod_eq_of_lt hlt]

/-- A single narrow integer is as many low bits of its word as it has. -/
theorem KeepLowBits.toNat_eq {width : Nat} (hwidth : width ≤ 256) {v : BitVec width}
    {word? : Nat → Option Word} (h : KeepLowBits [.unsigned width] v word?) :
    ∃ w, word? 0 = some w ∧ v.toNat = w.toNat % 2 ^ width := by
  obtain ⟨w, n, hw, hn, hlow⟩ := h 0 width rfl
  have hvalue : v.setWidth 256 = n := by simpa [toTokens, Shape.toToken] using hn
  have hlt : v.toNat < 2 ^ 256 := v.isLt.trans_le (Nat.pow_le_pow_right (by decide) hwidth)
  refine ⟨w, hw, ?_⟩
  rw [← hlow, ← hvalue, BitVec.toNat_setWidth, Nat.mod_eq_of_lt hlt]

end Fields

/-! ## Outputs of numbers -/

namespace Abi

/-- The word in a place of some data, counted in words. -/
def wordIn (data : Bytes) (i : Nat) : Word := Word.ofBytes ((data.drop (32 * i)).take 32)

/-- Whether the values of the type are integers. -/
def Ty.isNumber : Ty → Bool
  | .uint _ | .int _ => true
  | _ => false

/-- The value of an integer type that a word is read as. -/
def Ty.number : Ty → Word → Token
  | .int _, w => .int w
  | _, w => .uint w

/-- The values that the words of some data are read as, from a place on. -/
def numbersFrom (types : List Ty) (data : Bytes) (k : Nat) : List Token :=
  types.mapIdx fun i type => type.number (wordIn data (k + i))

theorem numbersFrom_cons (type : Ty) (types : List Ty) (data : Bytes) (k : Nat) :
    numbersFrom (type :: types) data k =
      type.number (wordIn data k) :: numbersFrom types data (k + 1) := by
  simp [numbersFrom, List.mapIdx_cons, Nat.add_assoc, Nat.add_comm 1]

theorem wordAt?_eq (data : Bytes) (k : Nat) :
    wordAt? data (32 * k) =
      if 32 * (k + 1) ≤ data.length then some ((data.drop (32 * k)).take 32) else none := by
  have hlen : ((data.drop (32 * k)).take 32).length = 32 ↔ 32 * (k + 1) ≤ data.length := by
    rw [List.length_take, List.length_drop]
    omega
  simp only [wordAt?, slice?, hlen]

theorem decodeAt_number {type : Ty} (h : type.isNumber = true) (data : Bytes) (k : Nat) :
    decodeAt type data (32 * k) =
      if 32 * (k + 1) ≤ data.length then some (type.number (wordIn data k), 32 * (k + 1))
      else none := by
  cases type <;> simp [Ty.isNumber] at h <;>
    · rw [decodeAt, wordAt?_eq]
      split <;> rfl

theorem decodeSeq_numbers {types : List Ty} (h : types.all Ty.isNumber = true) (data : Bytes)
    (k : Nat) (hlen : 32 * (k + types.length) ≤ data.length) :
    decodeSeq types data (32 * k) =
      some (numbersFrom types data k, 32 * (k + types.length)) := by
  -- The place of the next word moves along with the types.
  induction types generalizing k with
  | nil => rfl
  | cons type types ih =>
    rw [List.all_cons, Bool.and_eq_true] at h
    rw [List.length_cons] at hlen ⊢
    have hrest := ih h.2 (k + 1) (by omega)
    rw [decodeSeq, decodeAt_number h.1, if_pos (by omega)]
    simp only [Option.bind_eq_bind, Option.bind_some, hrest, numbersFrom_cons]
    rw [Nat.add_assoc, Nat.add_comm 1]

theorem decodeSeq_short {types : List Ty} (h : types.all Ty.isNumber = true) (data : Bytes)
    (k : Nat) (hstart : 32 * k ≤ data.length) (hlen : data.length < 32 * (k + types.length)) :
    decodeSeq types data (32 * k) = none := by
  induction types generalizing k with
  | nil =>
    rw [List.length_nil] at hlen
    omega
  | cons type types ih =>
    rw [List.all_cons, Bool.and_eq_true] at h
    rw [List.length_cons] at hlen
    rw [decodeSeq, decodeAt_number h.1]
    by_cases hword : 32 * (k + 1) ≤ data.length
    · have hrest := ih h.2 (k + 1) hword (by omega)
      simp only [if_pos hword, Option.bind_eq_bind, Option.bind_some, hrest, Option.bind_none]
    · rw [if_neg hword]
      rfl

/-- An output with a word for each of some integers is read as these words. -/
theorem decode_numbers {types : List Ty} (h : types.all Ty.isNumber = true) (hsome : types ≠ [])
    {data : Bytes} (hlen : 32 * types.length ≤ data.length) :
    decode types data = .ok (numbersFrom types data 0) := by
  have hpos : 0 < types.length := List.length_pos_iff.mpr hsome
  have hdata : data.isEmpty = false := by
    rw [List.isEmpty_eq_false_iff, ← List.length_pos_iff]
    omega
  have hread := decodeSeq_numbers h data 0 (by omega)
  rw [Nat.mul_zero] at hread
  simp only [decode, hdata, Bool.false_and, Bool.false_eq_true, if_false, hread]

/-- A shorter output is not read. -/
theorem decode_short {types : List Ty} (h : types.all Ty.isNumber = true) {data : Bytes}
    (hlen : data.length < 32 * types.length) : ∃ cause, decode types data = .error cause := by
  have hread := decodeSeq_short h data 0 (by omega) (by omega)
  rw [Nat.mul_zero] at hread
  unfold decode
  split
  · exact ⟨_, rfl⟩
  · exact ⟨.invalid, by rw [hread]⟩

theorem haveTypes_numbersFrom {types : List Ty} (h : types.all Ty.isNumber = true) (data : Bytes)
    (k : Nat) : Token.haveTypes (numbersFrom types data k) types = true := by
  induction types generalizing k with
  | nil => rfl
  | cons type types ih =>
    rw [List.all_cons, Bool.and_eq_true] at h
    have htype : (type.number (wordIn data k)).hasType type = true := by
      cases type <;> simp_all [Ty.isNumber, Ty.number, Token.hasType]
    rw [numbersFrom_cons, Token.haveTypes, htype, ih h.2]
    rfl

theorem wordOf?_numbersFrom {types : List Ty} {i : Nat} (hi : i < types.length) (data : Bytes) :
    (numbersFrom types data 0)[i]?.bind Shape.wordOf? = some (wordIn data i) := by
  rw [numbersFrom, List.getElem?_mapIdx, List.getElem?_eq_getElem hi, Nat.zero_add]
  cases types[i] <;> rfl

end Abi

/-! ## Typed results and events -/

theorem Fields.isNumber_of_standFor : ∀ {fields : Fields} {types : List Ty},
    fields.standFor types = true → fields.all Shape.isNumber = true →
    types.all Ty.isNumber = true
  | [], types, h, _ => by cases types <;> simp_all [standFor]
  | s :: rest, types, h, hnumbers => by
    obtain ⟨type, types, rfl⟩ : ∃ type rest, types = type :: rest := by
      cases types <;> simp_all [standFor]
    rw [standFor, Bool.and_eq_true] at h
    rw [List.all_cons, Bool.and_eq_true] at hnumbers
    have htype : type.isNumber = true := by
      cases s <;> cases type <;>
        simp_all [Shape.isNumber, Shape.standsFor, Ty.isNumber]
    rw [List.all_cons, htype, isNumber_of_standFor h.2 hnumbers.2]
    rfl

/-- What a typed call makes of every output of a contract: if there is a word for each result, it
returns values whose narrow integers have the low bits of theirs, and if there is not, it fails. -/
structure Handle.ReturnsLowBits (h : Handle) (m : Method) (outputs : NamedFields) : Prop where
  long : ∀ (args : m.params.shapes.Values) (o : CallOptions) (output : Bytes),
    32 * outputs.length ≤ output.length →
    ∃ data, h.calldata m args = .ok data ∧ ∃ v : outputs.shapes.Values,
      (outputs.shapes.KeepLowBits v fun i => some (Abi.wordIn output i)) ∧
      ∀ {σ : Type} (chain : Chain σ) (s : σ), chain.Returns s h.contract o data output →
        ((h.call m outputs o args).run chain s).result = .ok v
  short : ∀ (args : m.params.shapes.Values) (o : CallOptions) (output : Bytes),
    output.length < 32 * outputs.length →
    ∃ data, h.calldata m args = .ok data ∧ ∃ cause,
      ∀ {σ : Type} (chain : Chain σ) (s : σ), chain.Returns s h.contract o data output →
        ((h.call m outputs o args).run chain s).result =
          .error (.decode (.output m.target cause))

/-- A typed method whose results are all integers returns the low bits of the words. -/
theorem Handle.returns_low_bits {h : Handle} {m : Method} {f : Function}
    (hm : m.Fits h.contract.interface f) {outputs : NamedFields} (hcall : m.result = .call outputs)
    (hnumbers : outputs.shapes.all Shape.isNumber = true) : h.ReturnsLowBits m outputs := by
  obtain ⟨hfields, -, hsome⟩ := hm.outputs hcall
  have htypes : f.outputTypes.all Ty.isNumber = true :=
    Fields.isNumber_of_standFor hfields hnumbers
  have hcount : f.outputTypes.length = outputs.length := by
    rw [Fields.length_of_standFor hfields, NamedFields.shapes, List.length_map]
  refine ⟨fun args o output hlen => ⟨_, calldata_eq hm args, ?_⟩,
    fun args o output hlen => ⟨_, calldata_eq hm args, ?_⟩⟩
  · have hempty : f.outputTypes ≠ [] := by
      rw [← List.length_pos_iff, hcount, List.length_pos_iff]
      exact hsome
    have htokens := Abi.haveTypes_numbersFrom htypes output 0
    obtain ⟨v, hv, hkept⟩ := Fields.ofTokens_of_haveTypes hfields htokens
    refine ⟨v, fun i width hshape => ?_, fun chain s hreturns => ?_⟩
    · obtain ⟨w, n, hw, hn, hlow⟩ := Fields.keepLowBits_of_kept hfields htokens hkept i width hshape
      have hi : i < f.outputTypes.length := by
        rw [hcount]
        simpa [NamedFields.shapes] using (List.getElem?_eq_some_iff.mp hshape).1
      exact ⟨w, n, (Abi.wordOf?_numbersFrom hi output).symm.trans hw, hn, hlow⟩
    · rw [call_output hm outputs args hreturns,
        Abi.decode_numbers htypes hempty (by rwa [hcount])]
      simp only [Contract.typed, hv]
  · obtain ⟨cause, hcause⟩ := Abi.decode_short htypes (by rwa [hcount])
    refine ⟨cause, fun chain s hreturns => ?_⟩
    rw [call_output hm outputs args hreturns, hcause]

/-- The log of an occurrence with whatever words is parsed as a typed event whose narrow integers
have the low bits of theirs. -/
theorem Contract.unpack_low_bits {c : Contract} {e : EventBinding} {a : Event}
    (ha : a ∈ c.interface.events) (he : e.Fits a) (hi : c.interface.TellsEvents)
    {ts : List Token} {log : Log} (hlog : a.Logged ts log) (hsize : log.data.length < 2 ^ 32) :
    ∃ v, c.unpack e.eventType log = .ok ⟨v, log⟩ ∧
      e.fields.shapes.KeepLowBits v fun i => ts[i]?.bind Shape.wordOf? := by
  obtain ⟨v, hv, hkept⟩ := Fields.ofTokens_of_haveTypes he.fields hlog.typed
  refine ⟨v, ?_, Fields.keepLowBits_of_kept he.fields hlog.typed hkept⟩
  rw [Contract.unpack_logged ha he hi hlog hsize, EventType.recordOf]
  simp only [EventBinding.eventType, hv]

end AbiBindings
