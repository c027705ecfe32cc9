import AbiBindings.Contract
import AbiBindings.Proofs.Abi.Logs

/-!
# Occurrences of events

What a bound contract makes of the log that an occurrence of one of its events leaves. The arguments
are handed to the event type in the order of their declaration, each in its place as long as its
name is not repeated; under a name that several arguments have, all get the value of one of them.

* `Abi.Event.Logged`: the log of an occurrence.
* `EventType.recordOf`: the record of an event type from the arguments of a log.

Results:
* `Contract.unpack_eq`: the record of a log of an event is read from its decoded arguments.
* `Contract.unpack_occurrence`: which arguments the event type gets from the log of an occurrence.
* `Contract.not_unpack_seen`: they are not always the arguments of the occurrence.
-/

namespace AbiBindings

open Abi (Token Ty Event)

/-- Whether a log is left by an occurrence of an event with some arguments. -/
structure Abi.Event.Logged (e : Event) (ts : List Token) (log : Log) : Prop where
  named : e.anonymous = false
  typed : Token.haveTypes ts e.inputTypes = true
  topics : log.topics = e.topicsFor ts
  data : log.data = e.dataFor ts

/-- The record of a log, from the arguments that the event type gets. -/
def EventType.recordOf (t : EventType) (values : List Token) (log : Log) :
    Except Error (Record t) :=
  match t.read values with
  | .ok event => .ok ⟨event, log⟩
  | .error cause => .error (.decode (.mismatch cause))

theorem Abi.Event.Logged.head {e : Event} {ts : List Token} {log : Log} (h : e.Logged ts log) :
    log.topics.head? = some e.topic := by
  rw [h.topics]
  rfl

theorem Abi.Event.Logged.length {e : Event} {ts : List Token} {log : Log} (h : e.Logged ts log) :
    ts.length = e.inputs.length := by
  simpa [Event.inputTypes] using Token.haveTypes_length h.typed

namespace Contract

variable {c : Contract} {e : Event} {t : EventType} {ts : List Token} {log : Log}

/-- A log of an event is read by decoding its arguments. -/
theorem unpack_eq (he : c.event t.signature = .ok e) (hlog : log.topics.head? = some e.topic) :
    c.unpack t log =
      match e.decodeLog log.topics log.data with
      | .ok values => t.recordOf values log
      | .error cause => .error (.decode (.log t.name cause)) := by
  rw [unpack, he]
  simp only [hlog, ne_eq, not_true_eq_false, if_false]
  cases e.decodeLog log.topics log.data with
  | error cause => rfl
  | ok values => rfl

/-- A log of another event is malformed. -/
theorem unpack_of_head_ne (he : c.event t.signature = .ok e)
    (hlog : log.topics.head? ≠ some e.topic) :
    c.unpack t log = .error (.decode (.otherEvent t.name)) := by
  rw [unpack, he]
  exact if_pos hlog

/-- An event that alone has its signature, and whose hash no other signature has, is found. -/
theorem event_of_unique (he : e ∈ c.interface.events)
    (hunique : ∀ a ∈ c.interface.events, a.signature = e.signature → a = e)
    (hhashes : ∀ a ∈ c.interface.events, a.topic = e.topic → a.signature = e.signature) :
    c.event e.signature = .ok e := by
  obtain ⟨a, ha, htopic, hfound⟩ := Abi.Interface.event?_signature he
  obtain rfl := hunique a ha (hhashes a ha htopic)
  rw [event, hfound]

/-- The log of an occurrence is read as what is found under the names of the arguments, or refused
for the size of its data. -/
theorem unpack_found (he : c.event t.signature = .ok e) (hs : Ty.allSolid e.inputTypes = true)
    (hlog : e.Logged ts log) (hsize : log.data.length < 2 ^ 256) :
    c.unpack t log = t.recordOf (e.found ts) log ∨
      c.unpack t log = .error (.decode (.log t.name .invalid)) ∧ 2 ^ 32 ≤ log.data.length := by
  have hread := Event.decodeLog_by_name hlog.named hlog.typed hs (hlog.data ▸ hsize)
  rw [← hlog.topics, ← hlog.data] at hread
  rw [unpack_eq he hlog.head]
  rcases hread with hread | ⟨hread, hlarge⟩
  · exact .inl (by rw [hread])
  · exact .inr ⟨by rw [hread], hlarge⟩

/-- The log of an occurrence of an event that alone has its signature hands the event type a value
for each argument. An argument whose name is not repeated is in its place; under a repeated name all
get the value of the last that is collected. -/
theorem unpack_occurrence (he : e ∈ c.interface.events)
    (hunique : ∀ a ∈ c.interface.events, a.signature = e.signature → a = e)
    (hhashes : ∀ a ∈ c.interface.events, a.topic = e.topic → a.signature = e.signature)
    (hsignature : t.signature = e.signature) (hs : Ty.allSolid e.inputTypes = true)
    (hlog : e.Logged ts log) (hsize : log.data.length < 2 ^ 256) :
    (∃ values, e.Reports ts values ∧ c.unpack t log = t.recordOf values log) ∨
      c.unpack t log = .error (.decode (.log t.name .invalid)) ∧ 2 ^ 32 ≤ log.data.length := by
  have hevent : c.event t.signature = .ok e := by
    rw [hsignature, event_of_unique he hunique hhashes]
  rcases unpack_found hevent hs hlog hsize with hread | hrefused
  · exact .inl ⟨e.found ts, Event.reports_found hlog.length, hread⟩
  · exact .inr hrefused

/-- A payment of an amount and a fee that have no names. -/
def payment : Event :=
  ⟨"Paid", [⟨"", .uint 256, false⟩, ⟨"", .uint 256, false⟩, ⟨"payer", .address, true⟩], false⟩

/-- A contract with one event. -/
def ofEvent (e : Event) : Contract := ⟨Address.zero, ⟨none, [], [e]⟩⟩

/-- The type of an event whose values are the arguments themselves. -/
def tokensOf (e : Event) : EventType := ⟨e.name, e.signature, List Token, .ok⟩

/-- The log of an occurrence. -/
def logOf (e : Event) (ts : List Token) : Log :=
  ⟨Address.zero, e.topicsFor ts, e.dataFor ts, none, none, none, none, none⟩

theorem eq_of_mem_ofEvent {a e : Event} (h : a ∈ (ofEvent e).interface.events) : a = e :=
  List.mem_singleton.mp h

theorem payment_logged (w v : Word) (a : Address) :
    payment.Logged [.uint w, .uint v, .address a] (logOf payment [.uint w, .uint v, .address a]) :=
  ⟨rfl, rfl, rfl, rfl⟩

/-- The amount of a payment is lost to the fee; the payer is kept. -/
theorem unpack_payment :
    let log := logOf payment [.uint 1, .uint 2, .address Address.zero]
    (ofEvent payment).unpack (tokensOf payment) log =
      .ok ⟨[.uint 2, .uint 2, .address Address.zero], log⟩ := by
  intro log
  have hlogged : payment.Logged [.uint 1, .uint 2, .address Address.zero] log :=
    payment_logged 1 2 Address.zero
  have hsize : log.data.length < 2 ^ 32 := by decide +kernel
  have hread := unpack_occurrence (c := ofEvent payment) (t := tokensOf payment)
    (List.mem_singleton_self payment) (fun a ha _ => eq_of_mem_ofEvent ha)
    (fun a ha _ => by rw [eq_of_mem_ofEvent ha]) rfl rfl hlogged (by omega)
  rcases hread with ⟨values, hreports, hread⟩ | ⟨-, hlarge⟩
  · rw [hread, hreports.eq_found]
    rfl
  · omega

/-- Not every occurrence is read as its own arguments, each in its place: of two arguments without a
name the second is read twice. -/
theorem not_unpack_seen :
    ¬ ∀ (c : Contract) (e : Event) (t : EventType) (ts : List Token) (log : Log),
      e ∈ c.interface.events → (∀ a ∈ c.interface.events, a.signature = e.signature → a = e) →
      (∀ a ∈ c.interface.events, a.topic = e.topic → a.signature = e.signature) →
      t.signature = e.signature → Ty.allSolid e.inputTypes = true → e.indexed.length ≤ topicLimit →
      e.Logged ts log → log.data.length < 2 ^ 32 →
      c.unpack t log = t.recordOf (e.seen ts) log := by
  intro h
  let log := logOf payment [.uint 1, .uint 2, .address Address.zero]
  have hlogged : payment.Logged [.uint 1, .uint 2, .address Address.zero] log :=
    payment_logged 1 2 Address.zero
  have hsize : log.data.length < 2 ^ 32 := by decide +kernel
  have hplaced := h (ofEvent payment) payment (tokensOf payment) _ log
    (List.mem_singleton_self payment) (fun a ha _ => eq_of_mem_ofEvent ha)
    (fun a ha _ => by rw [eq_of_mem_ofEvent ha]) rfl rfl (by decide) hlogged hsize
  have hevent := event_of_unique (c := ofEvent payment) (List.mem_singleton_self payment)
    (fun a ha _ => eq_of_mem_ofEvent ha) (fun a ha _ => by rw [eq_of_mem_ofEvent ha])
  rcases unpack_found (t := tokensOf payment) hevent rfl hlogged (by omega) with hread | ⟨-, hlarge⟩
  · rw [hread] at hplaced
    have hvalues : payment.found [.uint 1, .uint 2, .address Address.zero] =
        payment.seen [.uint 1, .uint 2, .address Address.zero] :=
      congrArg Record.event (Except.ok.inj hplaced)
    exact absurd hvalues (by decide)
  · omega

end Contract

end AbiBindings
