import AbiBindings.Proofs.Stream.Requests

/-!
# Sending after a request to stop

What a feed gets to hear that sends a log after it was asked to stop. It looks at the request and at
the queue in any order, and both may be ready: if it has not seen the request, the subscriber is
still there and there is room, a send that begins at the queue is accepted.

Results:
* `Link.send_after_request`: a send after the request does not wait; it is accepted in just that
  case, and after a refused one every send is refused.
* `Link.refuses_after_drop`: once the subscriber is gone every send is refused.
-/

namespace AbiBindings.Stream

/-- A choice between two ways begins at one or the other. -/
theorem select_pair (start : Nat) (a b : Arm σ α) (s : σ) :
    select start [a, b] s =
      if start % 2 = 0 then (a s).or (b s) else (b s).or (a s) := by
  have hpair : ∀ x y : Arm σ α,
      List.findSome? (fun arm : Arm σ α => arm s) [x, y] = (x s).or (y s) := by
    intro x y
    cases hx : x s <;> cases hy : y s <;> simp [hx, hy]
  rcases Nat.mod_two_eq_zero_or_one start with h | h
  · simp [select, List.rotateLeft, h, hpair]
  · simp [select, List.rotateLeft, h, hpair]

namespace Link

variable {l l' : Link}

/-- Whether a send that begins at `start` is accepted though the feed was asked to stop. -/
def slips (start : Nat) (l : Link) : Bool :=
  l.watchesQuit && l.logs.hasReceiver && l.logs.hasRoom && start % 2 == 1

/-- Whether a send at this moment, wherever it begins, is refused and queues nothing. -/
def Refuses (l : Link) : Prop :=
  ∀ start log, (l.send start log).1 = .ready false ∧ (l.send start log).2.logs = l.logs

theorem quitArm_of_asked (h : l.Counts) (hu : l.isUnsubscribed = true)
    (hw : l.watchesQuit = true) : quitArm l = some (.ready false, l.noticeQuit) := by
  have hasked := h.asked (by simpa [isUnsubscribed] using hu)
  have hunseen := h.unseen hw
  cases hq : l.quit <;> simp_all [quitArm, OneShot.poll, OneShot.isSettled, noticeQuit]

/-- A send after the request does not wait: it comes to what the queue says at once, or else to
what the request says. -/
theorem send_eq_of_asked (h : l.Counts) (hu : l.isUnsubscribed = true) (hw : l.watchesQuit = true)
    (start : Nat) (log : Log) :
    l.send start log =
      if start % 2 = 0 then (.ready false, l.noticeQuit)
      else (sendArm log l).getD (.ready false, l.noticeQuit) := by
  have hquit := quitArm_of_asked h hu hw
  rw [send, hw, select_pair, hquit]
  rcases Nat.mod_two_eq_zero_or_one start with hs | hs
  · simp [hs]
  · cases hsend : sendArm log l <;> simp [hs]

theorem send_of_slips (h : l.Counts) (hu : l.isUnsubscribed = true) {start : Nat}
    (hs : l.slips start = true) (log : Log) : l.send start log = (.ready true, l.push log) := by
  simp only [slips, Bool.and_eq_true, beq_iff_eq] at hs
  obtain ⟨⟨⟨hw, hr⟩, hroom⟩, hodd⟩ := hs
  rw [send_eq_of_asked h hu hw, if_neg (by omega)]
  simp [sendArm, Channel.pollSend, hr, hroom, push]

theorem send_of_not_slips (h : l.Counts) (hu : l.isUnsubscribed = true) {start : Nat}
    (hs : l.slips start = false) (log : Log) :
    (l.send start log).1 = .ready false ∧ (l.send start log).2.logs = l.logs := by
  cases hw : l.watchesQuit with
  | false => simp [send, hw]
  | true =>
    rw [send_eq_of_asked h hu hw]
    rcases Nat.mod_two_eq_zero_or_one start with hodd | hodd
    · simp [hodd, noticeQuit]
    · cases hr : l.logs.hasReceiver with
      | false => simp [hodd, sendArm, Channel.pollSend, hr]
      | true =>
        have hroom : l.logs.hasRoom = false := by simpa [slips, hw, hr, hodd] using hs
        simp [hodd, sendArm, Channel.pollSend, hr, hroom, noticeQuit]

/-- A feed that knows of the request is refused for good. -/
theorem KnowsStop.refuses (hk : l.KnowsStop) (h : l.Counts) (hu : l.isUnsubscribed = true) :
    l.Refuses := by
  intro start log
  refine send_of_not_slips h hu ?_ log
  rcases hk with hw | hr
  · simp [slips, hw]
  · simp [slips, hr]

/-- A send after the request is accepted exactly if it slips through; else it is refused, and from
then on all of them are. -/
theorem send_after_request {capacity : Nat} (hl : (connect capacity).Later l)
    (hf : l.hasFeed = true) (hu : l.isUnsubscribed = true) (start : Nat) (log : Log) :
    if l.slips start then l.send start log = (.ready true, l.push log)
    else
      (l.send start log).1 = .ready false ∧ (l.send start log).2.logs = l.logs ∧
        ∀ l', (l.send start log).2.Later l' → l'.Refuses := by
  have hcounts : l.Counts := (Counts.connect capacity).later hl
  split
  · rename_i hs
    exact send_of_slips hcounts hu hs log
  · rename_i hs
    obtain ⟨hrefused, hlogs⟩ := send_of_not_slips hcounts hu (by simpa using hs) log
    refine ⟨hrefused, hlogs, fun l' hl' => ?_⟩
    have hmove : l.Change (l.send start log).2 := .feed _ _ ((l.send_move start log).feedMove hf)
    have hlater : (connect capacity).Later l' := (hl.tail hmove).trans hl'
    obtain ⟨-, hknows⟩ := hcounts.knows_of_send hf hrefused
    have hquit : l'.canQuit = false :=
      Later.canQuit_eq_false (.trans (.single hmove) hl') (by simpa [isUnsubscribed] using hu)
    exact (hknows.later hl').refuses ((Counts.connect capacity).later hlater)
      (by simp [isUnsubscribed, hquit])

/-- The log without content. -/
def blankLog : Log := ⟨Address.zero, [], [], none, none, none, none, none⟩

/-- The request is there, the queue has room, and the feed has not asked yet: a send that begins at
the request is refused, one that begins at the queue slips through. -/
theorem send_after_request_cases :
    (((connect 1).unsubscribe.send 0 blankLog).1 = .ready false ∧
        ((connect 1).unsubscribe.send 0 blankLog).2.logs = (connect 1).logs) ∧
      (connect 1).unsubscribe.send 1 blankLog =
        (.ready true, (connect 1).unsubscribe.push blankLog) := by
  have hl : (connect 1).Later (connect 1).unsubscribe := .single .unsubscribe
  have hrefused := send_after_request hl rfl rfl 0 blankLog
  have hslips := send_after_request hl rfl rfl 1 blankLog
  rw [if_neg (by decide)] at hrefused
  rw [if_pos (by decide)] at hslips
  exact ⟨⟨hrefused.1, hrefused.2.1⟩, hslips⟩

/-- A request alone does not make every send be refused. -/
theorem not_refuses_after_request :
    ¬ ∀ (capacity : Nat) (l : Link), (connect capacity).Later l → l.hasFeed = true →
      l.isUnsubscribed = true → l.Refuses := by
  intro h
  have hrefused := h 1 (connect 1).unsubscribe (.single .unsubscribe) rfl rfl 1 blankLog
  exact absurd hrefused.1 (by decide)

/-- Once the subscriber is gone every send is refused. -/
theorem refuses_after_drop {capacity : Nat} (hl : (connect capacity).Later l)
    (hl' : l.dropSubscription.Later l') : l'.Refuses := by
  have hlater : (connect capacity).Later l' := (hl.tail .drop).trans hl'
  have hquit : l'.canQuit = false :=
    Later.canQuit_eq_false hl' (by simp [dropSubscription])
  exact ((KnowsStop.drop l).later hl').refuses ((Counts.connect capacity).later hlater)
    (by simp [isUnsubscribed, hquit])

end Link

end AbiBindings.Stream
