import AbiBindings.Contract
import AbiBindings.Proofs.Stream.WatchDelivery

/-!
# Three ways to the same records

Logs at hand that are read with an iterator, a feed that is read with an iterator while it sends the
same logs, and a feed that is watched while it does. All three hand out the records of the longest
prefix of the logs that can be decoded, and all end in the same way.

Results:
* `deliveries_agree`: whatever the order is in which the sides act.
-/

namespace AbiBindings.Stream

/-- What a caller has seen at any time is part of what is to come of the logs, all of it once the
caller is told the end, and the end comes if every side goes on. -/
structure HandsOut (decode : Log → Except Error ρ) (logs : List Log) (goesOn : Prop)
    (seen : Nat → Seen ρ) : Prop where
  keepsTo : ∀ n, (seen n).KeepsTo decode logs
  ends : goesOn → ∃ n, (seen n).ending?.isSome = true

/-- A system that comes to its end hands out what is to come of the logs, if what is seen in each of
its states is part of that and its end is seen. -/
theorem HandsOut.of_progress {decode : Log → Except Error ρ} {logs : List Log} {step : σ → τ → σ}
    {party : τ → π} {inv ended : σ → Prop} {weight : σ → Nat}
    (h : Progress step party inv ended weight) {s : σ} (hs : inv s) {seen : σ → Seen ρ}
    (hkeeps : ∀ s, inv s → (seen s).KeepsTo decode logs)
    (hends : ∀ s, inv s → ended s → (seen s).ending?.isSome = true) (schedule : Nat → τ) :
    HandsOut decode logs (Fair party schedule) fun n => seen (after step s schedule n) := by
  constructor
  · intro n
    exact hkeeps _ (after_keeps h.keeps hs n)
  · intro hfair
    obtain ⟨n, hn⟩ := h.ends_of_fair hs hfair
    exact ⟨n, hends _ (after_keeps h.keeps hs n) hn⟩

theorem buffered_handsOut (decode : Log → Except Error ρ) (logs : List Log) (starts : Nat → Nat) :
    HandsOut decode logs True fun n =>
      (after (fun r start => r.act decode (.next start)) (Reading.buffered logs) starts
        n).seen := by
  have hfirst : Delivery.Faithful decode logs ⟨Reading.buffered logs, []⟩ ∧
      (Reading.buffered logs : Reading ρ).iterator.phase ≠ .active :=
    ⟨.buffered logs, by simp [Reading.buffered, Iterator.buffered]⟩
  have h := HandsOut.of_progress (Delivery.buffered_progress decode logs) hfirst
    (fun _ h => h.1.keepsTo) (fun _ h hover => h.1.ending_of_over hover) starts
  -- The reader is alone, so every schedule is fair.
  exact ⟨h.keepsTo, fun _ => h.ends fun _ n => ⟨n, Nat.le_refl n, rfl⟩⟩

theorem live_handsOut (decode : Log → Except Error ρ) (logs : List Log) (capacity : Nat)
    (schedule : Nat → Turn ReadingSide) :
    HandsOut decode logs (Fair Turn.side schedule) fun n =>
      (after (Delivery.step decode) (Delivery.live capacity logs) schedule n).reading.seen :=
  .of_progress (Delivery.live_progress decode logs) (.live capacity logs)
    (fun _ h => h.keepsTo) (fun _ h hover => h.ending_of_over hover) schedule

theorem watch_handsOut (decode : Log → Except Error ρ) (logs : List Log) (capacity room : Nat)
    (schedule : Nat → Turn WatchSide) :
    HandsOut decode logs (Fair Turn.side schedule) fun n =>
      (after (WatchDelivery.step decode) (WatchDelivery.start capacity (room + 1) logs)
        schedule n).watching.seen :=
  .of_progress (WatchDelivery.progress decode logs)
    (.start capacity (room + 1) logs (Nat.succ_pos room))
    (fun _ h => h.keepsTo) (fun _ h hover => h.ending_of_over hover) schedule

/-- The three sides of a watch one after the other, again and again. -/
def inTurn (n : Nat) : Turn WatchSide :=
  ⟨if n % 3 = 0 then .feed else if n % 3 = 1 then .task else .reader, 0⟩

theorem fair_inTurn : Fair Turn.side inTurn := by
  intro side n
  cases side with
  | feed => exact ⟨3 * n, by omega, by simp [inTurn]⟩
  | task => exact ⟨3 * n + 1, by omega, by simp [inTurn]⟩
  | reader => exact ⟨3 * n + 2, by omega, by simp [inTurn]⟩

/-- All three ways hand out the records of the longest prefix of the logs that can be decoded, and
end with the error of the log after it, if there is one; a sink has room for at least one record. -/
theorem deliveries_agree (c : Contract) (t : EventType) (logs : List Log) :
    let decode := c.unpack t
    ((recordsOf decode logs).map .ok = (decodable decode logs).map decode ∧
      (firstError? decode logs = none ↔ decodable decode logs = logs)) ∧
    (∀ starts : Nat → Nat, HandsOut decode logs True fun n =>
      (after (fun r start => r.act decode (.next start)) (Reading.buffered logs) starts n).seen) ∧
    (∀ (capacity : Nat) (schedule : Nat → Turn ReadingSide),
      HandsOut decode logs (Fair Turn.side schedule) fun n =>
        (after (Delivery.step decode) (Delivery.live capacity logs) schedule n).reading.seen) ∧
    ∀ (capacity room : Nat) (schedule : Nat → Turn WatchSide),
      HandsOut decode logs (Fair Turn.side schedule) fun n =>
        (after (WatchDelivery.step decode) (WatchDelivery.start capacity (room + 1) logs)
          schedule n).watching.seen := by
  intro decode
  exact ⟨⟨map_recordsOf decode logs, firstError?_eq_none_iff decode logs⟩,
    buffered_handsOut decode logs, live_handsOut decode logs, watch_handsOut decode logs⟩

/-- A watch of a contract without events ends with the first log. -/
theorem watch_of_unknown_event :
    let c : Contract := ⟨Vector.replicate 20 0, default⟩
    let t : EventType := ⟨"Ping", "Ping()", Unit, fun _ => .ok ()⟩
    let log : Log := ⟨Vector.replicate 20 0, [], [], none, none, none, none, none⟩
    ∃ n, (after (WatchDelivery.step (c.unpack t)) (WatchDelivery.start 4 1 [log, log]) inTurn
      n).watching.seen.ending? = some (some (.abi (.unknownEvent "Ping()"))) := by
  intro c t log
  have h := (deliveries_agree c t [log, log]).2.2.2 4 0 inTurn
  obtain ⟨n, hn⟩ := h.ends fair_inTurn
  obtain ⟨e, he⟩ := Option.isSome_iff_exists.mp hn
  obtain ⟨-, hfirst⟩ := (h.keepsTo n).atEnd e he
  refine ⟨n, he.trans (congrArg some (hfirst.trans ?_))⟩
  rfl

end AbiBindings.Stream
