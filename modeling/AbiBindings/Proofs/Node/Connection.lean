import AbiBindings.Node
import AbiBindings.Proofs.Bytes.Hex
import Mathlib.Algebra.Order.Ring.Nat

/-!
# Connections to nodes

A connection is made only to a node that reports the chain of the settings. The reported number may
have 256 bits, and it is compared as a whole; but the program does not survive one with more than 64
bits.

* `Rpc.digitsValue?`: the number of hexadecimal digits behind a number.
* `reported`: what a node answers to the question for its chain.
* `Reaches`: settings with nothing wrong, which lead to an address.
* `Ends`: how connecting to an address ends.

Results:
* `Rpc.natural?_quantity`, `reported_of_quantity`: every number of 256 bits can be reported.
* `connect_eq_iff`: connecting ends in one of the ways.
* `chain_checked`: when a connection is made, fails, or ends the program.
* `not_always_answered`: connecting need not end in an answer.

**Deviation.** A node that reports a number of more than 64 bits ought to be refused with an error,
like one that reports another chain.
-/

namespace AbiBindings

/-! ## Numbers in answers -/

namespace Rpc

variable {size n : Nat} {j : Json}

/-- The number of hexadecimal digits behind those of a number. -/
def digitsValue? (start : Nat) (digits : Bytes) : Option Nat :=
  digits.foldlM (fun n d => (Hex.digitValue? d).map (16 * n + ·)) start

theorem digitsValue?_append (start : Nat) (front rest : Bytes) :
    digitsValue? start (front ++ rest) = (digitsValue? start front).bind (digitsValue? · rest) := by
  rw [digitsValue?, List.foldlM_append]
  rfl

theorem digitsValue?_singleton (start : Nat) (d : UInt8) :
    digitsValue? start [d] = (Hex.digitValue? d).map (16 * start + ·) := by
  simp [digitsValue?]

theorem digitValue?_digitChar : ∀ n < 16,
    Hex.digitValue? (Hex.byteOf n.digitChar) = some n ∧ n.digitChar.toNat < 0x80 := by
  decide

/-- The digits that are written for a number are read as the number. -/
theorem digitsValue?_hexDigits (n : Nat) :
    digitsValue? 0 ((Text.hexDigits n).map Hex.byteOf) = some n ∧
      Text.IsPlain (Text.hexDigits n) := by
  induction n using Nat.strongRecOn with
  | ind n ih =>
    rw [Text.hexDigits, Nat.toDigits_eq_if (by omega)]
    split
    case isTrue hn =>
      obtain ⟨hvalue, hplain⟩ := digitValue?_digitChar n hn
      exact ⟨by simp [digitsValue?_singleton, hvalue], by simpa [Text.IsPlain] using hplain⟩
    case isFalse =>
      obtain ⟨hfront, hfrontPlain⟩ := ih (n / 16) (by omega)
      obtain ⟨hlast, hlastPlain⟩ := digitValue?_digitChar (n % 16) (by omega)
      rw [Text.hexDigits] at hfront hfrontPlain
      refine ⟨?_, List.forall_mem_append.mpr ⟨hfrontPlain, by simpa using hlastPlain⟩⟩
      rw [List.map_append, digitsValue?_append, hfront, Option.bind_some, List.map_singleton,
        digitsValue?_singleton, hlast, Option.map_some, Nat.div_add_mod]

theorem natural?_eq_some_iff :
    natural? size j = some n ↔ ∃ text, j.text? = some text ∧
      (utf8 (Hex.stripMark text)).isEmpty = false ∧
      (utf8 (Hex.stripMark text)).length ≤ 2 * size ∧
      digitsValue? 0 (utf8 (Hex.stripMark text)) = some n := by
  rw [natural?]
  cases j.text? with
  | none => simp
  | some text =>
    simp only [Option.bind_eq_bind, Option.bind_some, Option.some.injEq, exists_eq_left']
    split_ifs with h
    · refine iff_of_false (by simp) fun ⟨hne, hlength, _⟩ => ?_
      simp [hne, Nat.not_lt_of_le hlength] at h
    · simp only [Bool.or_eq_true, decide_eq_true_eq, not_or, Nat.not_lt] at h
      simp [h.1, h.2, digitsValue?]

/-- A node can report every number that fits. -/
theorem natural?_quantity (hsize : 0 < size) (h : n < 256 ^ size) :
    natural? size (quantity n) = some n := by
  obtain ⟨hread, hplain⟩ := digitsValue?_hexDigits n
  have hstrip : Hex.stripMark (String.ofList ('0' :: 'x' :: Text.hexDigits n)) =
      String.ofList (Text.hexDigits n) := by
    simp [Hex.stripMark]
  have hbytes : utf8 (String.ofList (Text.hexDigits n)) = (Text.hexDigits n).map Hex.byteOf := by
    rw [Hex.utf8_of_isPlain (by simpa using hplain), String.toList_ofList]
  have hlength : (Text.hexDigits n).length ≤ 2 * size := by
    rw [Text.hexDigits, Nat.length_toDigits_le_iff (by omega) (by omega), pow_mul]
    exact h
  have hne : Text.hexDigits n ≠ [] := Nat.toDigits_ne_nil
  refine natural?_eq_some_iff.mpr ⟨_, rfl, ?_⟩
  rw [hstrip, hbytes]
  exact ⟨by simpa using hne, by simpa using hlength, hread⟩

end Rpc

namespace Node

open Rpc

variable {σ : Type} {reach : Url → Endpoint σ} {e : Endpoint σ} {p : Provider} {s : Session σ}
  {url : Url} {n : Nat}

/-! ## Connecting -/

/-- What a node answers to the question for its chain. -/
def reported (e : Endpoint σ) (s : Session σ) : Except Failure Nat :=
  (e.ask ⟨"eth_chainId", none⟩ (natural? 32) s.remote).1

/-- Whether nothing is wrong with the settings and they lead to an address. -/
def Reaches (p : Provider) (url : Url) : Prop :=
  p.check = .ok () ∧ Url.parse? p.rpcUrl = some url

/-- Every number of 256 bits can be reported. -/
theorem reported_of_quantity (hn : n < 2 ^ 256)
    (h : (e.answer ⟨"eth_chainId", none⟩ s.remote).1 = .ok (quantity n)) :
    reported e s = .ok n := by
  have hread : natural? 32 (quantity n) = some n := natural?_quantity (by omega) hn
  rw [reported, Endpoint.ask]
  split
  case h_1 heq =>
    rw [heq] at h
    cases h
  case h_2 j _ heq =>
    rw [heq] at h
    obtain rfl : j = quantity n := Except.ok.inj h
    rw [hread]

theorem address_eq_ok_iff (h : p.useWebsocket = false) : address p = .ok url ↔ Reaches p url := by
  rw [address, Reaches]
  cases p.check with
  | error c => simp
  | ok _ => cases Url.parse? p.rpcUrl <;> simp [h]

theorem address_eq_error_iff (h : p.useWebsocket = false) {fault : Error} :
    address p = .error fault ↔ (∃ c, p.check = .error c ∧ fault = .ofConfig c) ∨
      p.check = .ok () ∧ Url.parse? p.rpcUrl = none ∧ fault = .transport .badUrl := by
  rw [address]
  cases p.check with
  | error c => simp [eq_comm]
  | ok _ => cases Url.parse? p.rpcUrl <;> simp [h, eq_comm]

/-- The check of a reported number either passes or names both numbers. -/
theorem checkChain_cases (p : Provider) (n : Nat) :
    checkChain p n = .ok () ∧ (p.chainId = none ∨ p.chainId = some n) ∨
      ∃ pinned, p.chainId = some pinned ∧ pinned ≠ n ∧
        checkChain p n = .failed (.config (.otherChain n pinned)) := by
  rw [checkChain]
  cases p.chainId with
  | none => exact .inl ⟨rfl, .inl rfl⟩
  | some pinned =>
    by_cases heq : n = pinned
    · exact .inl ⟨if_pos heq, .inr (congrArg some heq.symm)⟩
    · exact .inr ⟨pinned, rfl, Ne.symm heq, if_neg heq⟩

/-- How connecting ends once the settings lead to an address. -/
inductive Ends (p : Provider) (e : Endpoint σ) (s : Session σ) : Ending (Endpoint σ) → Prop
  | unanswered {f : Failure} (h : reported e s = .error f) :
      Ends p e s (.failed (.transport (.chainId f.message)))
  | oversized {n : Nat} (h : reported e s = .ok n) (hn : 2 ^ 64 ≤ n) : Ends p e s .aborted
  | other {n pinned : Nat} (h : reported e s = .ok n) (hn : n < 2 ^ 64)
      (hpinned : p.chainId = some pinned) (hne : pinned ≠ n) :
      Ends p e s (.failed (.config (.otherChain n pinned)))
  | connected {n : Nat} (h : reported e s = .ok n) (hn : n < 2 ^ 64)
      (hpinned : p.chainId = none ∨ p.chainId = some n) : Ends p e s (.ok e)

theorem connect_of_error {fault : Error} (h : address p = .error fault) :
    (connect reach p s).1 = .failed fault := by
  rw [connect, h]

theorem ends_connect (reach : Url → Endpoint σ) (s : Session σ) (h : address p = .ok url) :
    Ends p (reach url) s (connect reach p s).1 := by
  have hasked : reported (reach url) s =
      (ask (reach url) "eth_chainId" none (natural? 32) s).1 := rfl
  rw [connect, h]
  simp only [chainId]
  cases hask : ask (reach url) "eth_chainId" none (natural? 32) s with
  | mk answer s' =>
    rw [hask] at hasked
    cases answer with
    | error f => exact .unanswered hasked
    | ok n =>
      by_cases hn : n < UInt64.size
      · simp only [if_pos hn]
        rcases checkChain_cases p n with ⟨hcheck, hpinned⟩ | ⟨pinned, hpinned, hne, hcheck⟩ <;>
          simp only [hcheck]
        · exact .connected hasked hn hpinned
        · exact .other hasked hn hpinned hne
      · simp only [if_neg hn]
        exact .oversized hasked (Nat.le_of_not_lt hn)

theorem Ends.unique {x y : Ending (Endpoint σ)} (hx : Ends p e s x) (hy : Ends p e s y) :
    x = y := by
  cases hx <;> cases hy <;> simp_all <;> omega

theorem connect_eq_iff {x : Ending (Endpoint σ)} :
    (connect reach p s).1 = x ↔ (∃ fault, address p = .error fault ∧ x = .failed fault) ∨
      ∃ url, address p = .ok url ∧ Ends p (reach url) s x := by
  cases haddress : address p with
  | error fault => simp [connect_of_error haddress, eq_comm]
  | ok url =>
    have hends := ends_connect reach s haddress
    simp only [reduceCtorEq, false_and, exists_false, false_or, Except.ok.injEq, exists_eq_left']
    exact ⟨fun h => h ▸ hends, fun h => hends.unique h⟩

theorem ends_ok_iff {e' : Endpoint σ} :
    Ends p e s (.ok e') ↔ ∃ n, reported e s = .ok n ∧ n < 2 ^ 64 ∧
      (p.chainId = none ∨ p.chainId = some n) ∧ e' = e := by
  constructor
  · rintro ⟨⟩
    exact ⟨_, ‹_›, ‹_›, ‹_›, rfl⟩
  · rintro ⟨n, h, hn, hpinned, rfl⟩
    exact .connected h hn hpinned

theorem ends_aborted_iff : Ends p e s .aborted ↔ ∃ n, reported e s = .ok n ∧ 2 ^ 64 ≤ n := by
  constructor
  · rintro ⟨⟩
    exact ⟨_, ‹_›, ‹_›⟩
  · rintro ⟨n, h, hn⟩
    exact .oversized h hn

theorem ends_failed_iff {fault : Error} :
    Ends p e s (.failed fault) ↔
      (∃ f, reported e s = .error f ∧ fault = .transport (.chainId f.message)) ∨
      ∃ n pinned, reported e s = .ok n ∧ n < 2 ^ 64 ∧ p.chainId = some pinned ∧ pinned ≠ n ∧
        fault = .config (.otherChain n pinned) := by
  constructor
  · intro h
    cases h with
    | unanswered h => exact .inl ⟨_, h, rfl⟩
    | other h hn hpinned hne => exact .inr ⟨_, _, h, hn, hpinned, hne, rfl⟩
  · rintro (⟨f, h, rfl⟩ | ⟨n, pinned, h, hn, hpinned, hne, rfl⟩)
    · exact .unanswered h
    · exact .other h hn hpinned hne

/-- A connection without a web socket is made exactly if nothing is wrong with the settings and the
node reports a number of at most 64 bits, which is the pinned one if there is one. It ends the
program exactly if the number has more bits, whether one is pinned or not, and fails in every other
case, for a reason that names what is wrong. -/
theorem chain_checked (reach : Url → Endpoint σ) (s : Session σ) (h : p.useWebsocket = false) :
    (∀ e, (connect reach p s).1 = .ok e ↔ ∃ url n, Reaches p url ∧ reported (reach url) s = .ok n ∧
      n < 2 ^ 64 ∧ (p.chainId = none ∨ p.chainId = some n) ∧ e = reach url) ∧
    ((connect reach p s).1 = .aborted ↔ ∃ url n, Reaches p url ∧
      reported (reach url) s = .ok n ∧ 2 ^ 64 ≤ n) ∧
    ∀ fault, (connect reach p s).1 = .failed fault ↔
      (∃ c, p.check = .error c ∧ fault = .ofConfig c) ∨
      (p.check = .ok () ∧ Url.parse? p.rpcUrl = none ∧ fault = .transport .badUrl) ∨
      ∃ url, Reaches p url ∧
        ((∃ f, reported (reach url) s = .error f ∧ fault = .transport (.chainId f.message)) ∨
        ∃ n pinned, reported (reach url) s = .ok n ∧ n < 2 ^ 64 ∧ p.chainId = some pinned ∧
          pinned ≠ n ∧ fault = .config (.otherChain n pinned)) := by
  refine ⟨fun e => ?_, ?_, fun fault => ?_⟩
  · simp [connect_eq_iff, address_eq_ok_iff h, ends_ok_iff]
  · simp [connect_eq_iff, address_eq_ok_iff h, ends_aborted_iff]
  · simp only [connect_eq_iff, address_eq_ok_iff h, ends_failed_iff, Ending.failed.injEq]
    rw [← or_assoc, ← address_eq_error_iff h]
    simp

/-- A node that reports a number for its chain. -/
def reporting (n : Nat) : Endpoint Unit := ⟨fun _ s => (.ok (quantity n), s)⟩

theorem reported_reporting (hn : n < 2 ^ 256) (s : Session Unit) :
    reported (reporting n) s = .ok n := reported_of_quantity hn rfl

/-- The settings of a node on this machine with a pinned chain. -/
def pinning (n : Nat) : Provider := { Provider.default with chainId := some n }

theorem reaches_pinning (n : Nat) : ∃ url, Reaches (pinning n) url := by
  have hurl : (Url.parse? Provider.default.rpcUrl).isSome = true := by decide
  obtain ⟨url, hurl⟩ := Option.isSome_iff_exists.mp hurl
  have hcheck : (pinning n).check = Provider.default.check := rfl
  exact ⟨url, hcheck.trans rfl, hurl⟩

/-- A node that reports the pinned chain is connected to; one that reports a number with the same
low bits and more of them is not, but ends the program. -/
theorem pinned_chain_checked :
    (connect (fun _ => reporting 1) (pinning 1) (.start ())).1 = .ok (reporting 1) ∧
      (connect (fun _ => reporting (2 ^ 64 + 1)) (pinning 1) (.start ())).1 = .aborted := by
  obtain ⟨url, hurl⟩ := reaches_pinning 1
  constructor
  · exact ((chain_checked (fun _ => reporting 1) (.start ()) rfl).1 _).mpr
      ⟨url, 1, hurl, reported_reporting (by omega) _, by omega, .inr rfl, rfl⟩
  · exact (chain_checked (fun _ => reporting (2 ^ 64 + 1)) (.start ()) rfl).2.1.mpr
      ⟨url, 2 ^ 64 + 1, hurl, reported_reporting (by omega) _, by omega⟩

/-- Connecting does not always end in a connection or an error. -/
theorem not_always_answered :
    ¬ ∀ (p : Provider) (n : Nat), p.useWebsocket = false → n < 2 ^ 256 →
      (connect (fun _ => reporting n) p (.start ())).1 ≠ .aborted := by
  intro hanswered
  obtain ⟨url, hurl⟩ := reaches_pinning 1
  refine hanswered (pinning 1) (2 ^ 64) rfl (by omega) (connect_eq_iff.mpr (.inr ⟨url, ?_, ?_⟩))
  · exact (address_eq_ok_iff rfl).mpr hurl
  · exact .oversized (reported_reporting (by omega) _) (by omega)

end Node

end AbiBindings
