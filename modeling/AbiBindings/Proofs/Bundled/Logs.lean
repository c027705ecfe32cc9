import AbiBindings.Proofs.Bundled
import AbiBindings.Proofs.Typed.Acceptance

/-!
# Logs of the bundled bindings

Whoever wrote a log, a bundled event is read from it exactly if it has the form of a log of this
event, and no other event of the binding is; also where two events have one name, as the transfers
of a token with and without data.

Results:
* `Bundled.logs_told`: every bundled event accepts its logs, and at most one accepts a log.
-/

namespace AbiBindings.Bundled

/-- No indexed field of a bundled event is a truth value, so that every topic holds a value. -/
theorem indexesWords_of_mem {b : Binding} (hb : b ∈ all) {e : EventBinding} (he : e ∈ b.events) :
    e.indexesWords = true := by
  have hall : (all.all fun b => b.events.all EventBinding.indexesWords) = true := by
    decide +kernel
  exact List.all_eq_true.mp (List.all_eq_true.mp hall b hb) e he

/-- The events of a bundled binding have different signatures. -/
theorem signatures_nodup {b : Binding} (hb : b ∈ all) : (b.events.map (·.signature)).Nodup := by
  have hall : ∀ b ∈ all, (b.events.map (·.signature)).Nodup := by decide +kernel
  exact hall b hb

/-- Every bundled event accepts its logs and refuses all others as malformed, and at most one event
of a binding accepts a log. -/
theorem logs_told {b : Binding} (hb : b ∈ all) (address : Address) :
    ∃ h, Handle.bind address b.metadata = .ok h ∧
      (∀ e ∈ b.events, ∃ a ∈ h.contract.interface.events, e.Fits a ∧ e.TellsLogs h.contract a) ∧
      ∀ (log : Log), ∀ e ∈ b.events, ∀ e' ∈ b.events, ∀ v v',
        h.contract.unpack e.eventType log = .ok ⟨v, log⟩ →
        h.contract.unpack e'.eventType log = .ok ⟨v', log⟩ → e = e' := by
  obtain ⟨h, hbind, hfits⟩ := bind_of_mem hb address
  refine ⟨h, hbind, fun e he => ?_, fun log e he e' he' v v' hread hread' => ?_⟩
  · obtain ⟨a, ha, hea⟩ := hfits.events e he
    exact ⟨a, ha, hea,
      Contract.tellsLogs_of_fits ha hea hfits.tellsEvents (indexesWords_of_mem hb he)⟩
  · obtain ⟨a, ha, hea⟩ := hfits.events e he
    obtain ⟨a', ha', hea'⟩ := hfits.events e' he'
    have hsame := Contract.eq_of_unpack ha ha' hea hea' hfits.tellsEvents hread hread'
    exact List.inj_on_of_nodup_map (signatures_nodup hb) he he' hsame

/-- The log of a transfer without data is read as such, also with a surplus byte, and it is
malformed as a transfer with data. -/
theorem transfers_told :
    let e : EventBinding :=
      ⟨"Transfer0", "transfer0", "Transfer", "Transfer(address,address,uint256)",
        [("from", .address), ("to", .address), ("value", .word)],
        [("from", .address), ("to", .address)]⟩
    let other : EventBinding :=
      ⟨"Transfer", "transfer", "Transfer", "Transfer(address,address,uint256,bytes)",
        [("from", .address), ("to", .address), ("value", .word), ("data", .bytes)],
        [("from", .address), ("to", .address)]⟩
    let v : e.fields.shapes.Values := (Address.zero, Vector.replicate 20 1, (1000 : Word))
    let log : Log :=
      ⟨Address.zero, e.topicsFor v, e.dataFor v ++ [7], some 7, none, none, some 0, none⟩
    LinkToken.binding ∈ all ∧
      ∃ h, Handle.bind Address.zero LinkToken.binding.metadata = .ok h ∧
        (∃ v, h.contract.unpack e.eventType log = .ok ⟨v, log⟩) ∧
        ∃ fault, h.contract.unpack other.eventType log = .error (.decode fault) := by
  intro e other v log
  have he : e ∈ LinkToken.binding.events := by decide
  have hother : other ∈ LinkToken.binding.events := by decide
  obtain ⟨h, hbind, htold, hsole⟩ := logs_told linkToken_mem Address.zero
  obtain ⟨a, ha, hea, htells⟩ := htold e he
  obtain ⟨_, -, -, htellsOther⟩ := htold other hother
  -- The log is that of an occurrence, apart from the last byte.
  obtain ⟨h', hbind', hfits⟩ := bind_of_mem linkToken_mem Address.zero
  obtain rfl : h = h' := Except.ok.inj (hbind.symm.trans hbind')
  let exact : Log := { log with data := e.dataFor v }
  have hsize : exact.data.length < 2 ^ 32 := by decide +kernel
  have hexact : h.contract.unpack e.eventType exact = .ok ⟨v, exact⟩ :=
    Contract.unpack_of_fits ha hea hfits.tellsEvents v exact rfl rfl hsize
  obtain ⟨hfirst, hcount, values, hvalues⟩ := (htells.accepted exact).mp ⟨v, hexact⟩
  have hread : ∃ v, h.contract.unpack e.eventType log = .ok ⟨v, log⟩ :=
    (htells.accepted log).mpr ⟨hfirst, hcount, values, htells.trailing _ [7] values hvalues⟩
  refine ⟨linkToken_mem, h, hbind, hread, ?_⟩
  rcases htellsOther.refused log with ⟨w, hw⟩ | hrefused
  · obtain ⟨u, hu⟩ := hread
    exact absurd (hsole log e he other hother u w hu hw) (by decide)
  · exact hrefused

end AbiBindings.Bundled
