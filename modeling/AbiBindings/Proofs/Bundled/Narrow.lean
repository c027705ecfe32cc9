import AbiBindings.Proofs.Bundled
import AbiBindings.Proofs.Typed.Narrow

/-!
# Narrow integers of the bundled bindings

Some results of the bundled methods and one field of the bundled events are integers of fewer than
256 bits. The words that a contract returns or logs for them are cut to these bits; a word that does
not fit is not refused, so that the typed value is another number.

Results:
* `Bundled.narrow_low_bits`: narrow results and fields are the low bits of their words.
* `Bundled.not_exact`: they are not always the numbers in these words.
-/

namespace AbiBindings

open Abi (Token wordIn)

/-- The types of the results of a method. -/
def MethodResult.shapes : MethodResult → Fields
  | .call outputs => outputs.shapes
  | .transaction => []

namespace Bundled

/-- Where one of the results of a bundled method is narrow, all of them are integers. -/
theorem numbers_of_narrow {b : Binding} (hb : b ∈ all) {m : Method} (hm : m ∈ b.methods)
    (hnarrow : m.result.shapes.any Shape.isNarrow = true) :
    m.result.shapes.all Shape.isNumber = true := by
  have hall : (all.all fun b => b.methods.all fun m =>
      !m.result.shapes.any Shape.isNarrow || m.result.shapes.all Shape.isNumber) = true := by
    decide +kernel
  have hone := List.all_eq_true.mp (List.all_eq_true.mp hall b hb) m hm
  rw [hnarrow] at hone
  exact hone

/-- The narrow results of bundled calls and the narrow fields of bundled events are the low bits of
the words that are returned or logged for them, whatever else these words hold. -/
theorem narrow_low_bits {b : Binding} (hb : b ∈ all) (address : Address) :
    ∃ h, Handle.bind address b.metadata = .ok h ∧
      (∀ m ∈ b.methods, ∀ outputs, m.result = .call outputs →
        outputs.shapes.any Shape.isNarrow = true → h.ReturnsLowBits m outputs) ∧
      ∀ e ∈ b.events, ∃ a ∈ h.contract.interface.events, e.Fits a ∧
        ∀ (ts : List Token) (log : Log), a.Logged ts log → log.data.length < 2 ^ 32 →
          ∃ v, h.contract.unpack e.eventType log = .ok ⟨v, log⟩ ∧
            e.fields.shapes.KeepLowBits v fun i => ts[i]?.bind Shape.wordOf? := by
  obtain ⟨h, hbind, hfits⟩ := bind_of_mem hb address
  refine ⟨h, hbind, fun m hm outputs hcall hnarrow => ?_, fun e he => ?_⟩
  · obtain ⟨f, -, hmf⟩ := hfits.methods m hm
    have hnumbers := numbers_of_narrow hb hm (by rwa [hcall])
    rw [hcall] at hnumbers
    exact Handle.returns_low_bits hmf hcall hnumbers
  · obtain ⟨a, ha, hea⟩ := hfits.events e he
    exact ⟨a, ha, hea, fun ts log hlog hsize =>
      Contract.unpack_low_bits ha hea hfits.tellsEvents hlog hsize⟩

/-- The decimals of a token, as the bundled binding has them. -/
def decimals : Method := ⟨"decimals", "decimals", [], .call [("", .unsigned 8)]⟩

theorem decimals_mem : decimals ∈ LinkToken.binding.methods := by decide

/-- A word of 274 is returned as 18 decimals. -/
theorem decimals_low_bits :
    let script := { Script.empty with calls := [.ok (Word.bytes 274)] }
    ∃ h, Handle.bind Address.zero LinkToken.binding.metadata = .ok h ∧
      ((h.call decimals [("", .unsigned 8)] .default ()).run Script.chain script).result =
        .ok (18 : BitVec 8) := by
  intro script
  obtain ⟨h, hbind, hmethods, -⟩ := narrow_low_bits linkToken_mem Address.zero
  have hlow := hmethods decimals decimals_mem [("", .unsigned 8)] rfl rfl
  obtain ⟨data, -, v, hv, hcalled⟩ := hlow.long () .default (Word.bytes 274) (by decide)
  have hvalue : v = (18 : BitVec 8) := by
    obtain ⟨w, hw, hlow⟩ := hv.toNat_eq (by decide)
    obtain rfl := Option.some.inj hw
    apply BitVec.eq_of_toNat_eq
    rw [hlow]
    decide +kernel
  refine ⟨h, hbind, ?_⟩
  rw [hcalled Script.chain script ⟨rfl, fun hnil => absurd hnil (by decide)⟩, hvalue]

/-- A typed call does not always return the number in the word of its result, or fail. -/
theorem not_exact :
    ¬ ∀ b ∈ all, ∀ (address : Address) (h : Handle), Handle.bind address b.metadata = .ok h →
      ∀ m ∈ b.methods, ∀ outputs, m.result = .call outputs →
      ∀ (args : m.params.shapes.Values) (o : CallOptions) (data output : Bytes),
        h.calldata m args = .ok data →
      ∀ (σ : Type) (chain : Chain σ) (s : σ), chain.Returns s h.contract o data output →
      ∀ v, ((h.call m outputs o args).run chain s).result = .ok v →
      ∀ (i width : Nat), outputs.shapes[i]? = some (.unsigned width) →
        (outputs.shapes.toTokens v)[i]? = some (.uint (wordIn output i)) := by
  intro hexact
  obtain ⟨h, hbind, hfits⟩ := bind_of_mem linkToken_mem Address.zero
  obtain ⟨f, -, hf⟩ := hfits.methods decimals decimals_mem
  have hlow : h.ReturnsLowBits decimals [("", .unsigned 8)] :=
    Handle.returns_low_bits hf rfl rfl
  obtain ⟨data, hdata, v, hv, hcalled⟩ := hlow.long () .default (Word.bytes 274) (by decide)
  let script := { Script.empty with calls := [.ok (Word.bytes 274)] }
  have hreturns : Script.chain.Returns script h.contract .default data (Word.bytes 274) :=
    ⟨rfl, fun hnil => absurd hnil (by decide)⟩
  have hresult := hcalled Script.chain script hreturns
  have hsame := hexact _ linkToken_mem Address.zero h hbind decimals decimals_mem _ rfl () .default
    data _ hdata Script Script.chain script hreturns v hresult 0 8 rfl
  obtain ⟨w, n, hw, hn, hmod⟩ := hv 0 8 rfl
  obtain rfl := Option.some.inj hw
  rw [hn, Option.some.injEq, Token.uint.injEq] at hsame
  rw [hsame] at hmod
  exact absurd hmod (by decide +kernel)

end Bundled

end AbiBindings
