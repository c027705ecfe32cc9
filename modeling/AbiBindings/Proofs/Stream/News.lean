import AbiBindings.Proofs.Stream.Feed

/-!
# What a subscription hears

The two ways in which a subscription goes on: a log comes, or the feed ends. While the cells of the
link tell what the feed has done, what is heard is true of the feed, and no cell is asked again
after its outcome was handed out.

Results:
* `Link.Tracks.logArm_heard`, `Link.Tracks.endingArm_heard`: all that each way can yield.
* `Link.logArm_none_iff`, `Link.endingArm_none_iff`: when it has to wait.
* `Link.Tracks.reads`: the cells go on telling what the feed has done.
-/

namespace AbiBindings.Stream

namespace Link

/-- The link when the subscription has learned how the feed ended. -/
def learn (l : Link) : Link := { l with failure := .taken, watchesFailure := false }

/-- The link with another queue of logs. -/
def withItems (l : Link) (items : List Log) : Link :=
  { l with logs := { l.logs with items := items } }

@[simp] theorem withItems_items (l : Link) (items : List Log) :
    (l.withItems items).logs.items = items := rfl

/-- Whether the subscription can learn how the feed ended. -/
def canLearn (l : Link) : Bool := l.watchesFailure && l.failure.isSettled

theorem watchesFailure_of_canLearn {l : Link} (hl : l.canLearn = true) :
    l.watchesFailure = true := by
  rw [canLearn, Bool.and_eq_true] at hl
  exact hl.1

/-- What a subscription can hear when its feed has done what the supply says. -/
inductive Heard (l : Link) (s : Supply) : News → Link → Prop
  | log (log : Log) (rest : List Log) (h : l.logs.items = log :: rest) :
      Heard l s (.log log) (l.withItems rest)
  /-- The queue is empty and its feed gone, and how the feed ended is known already. -/
  | closedKnown (h : l.logs.items = []) (hf : l.hasFeed = false)
      (hw : l.watchesFailure = false) : Heard l s (.closed none) l
  /-- The queue is empty while its feed still holds the other cells. -/
  | closedEarly (h : l.logs.items = []) (hf : l.hasFeed = false) (hs : s.failures = []) :
      Heard l s (.closed none) l
  | closed (h : l.logs.items = []) (hf : l.hasFeed = false) (hl : l.canLearn = true) :
      Heard l s (.closed s.failures.head?) l.learn
  | failed (e : Error) (hs : s.failures.head? = some e) (hl : l.canLearn = true) :
      Heard l s (.ended (some e)) l.learn
  | completed (hf : l.hasFeed = false) (hs : s.failures = []) (hl : l.canLearn = true) :
      Heard l s (.ended none) l.learn

/-- What a subscription does to its link when it hears something. -/
inductive Reads (l : Link) : Link → Prop
  | same : Reads l l
  | take (log : Log) (rest : List Log) (hi : l.logs.items = log :: rest) :
      Reads l (l.withItems rest)
  | learn (hl : l.canLearn = true) : Reads l l.learn

theorem Reads.hasFeed_eq {l l' : Link} (h : l.Reads l') : l'.hasFeed = l.hasFeed := by
  cases h <;> rfl

theorem Heard.reads {l l' : Link} {s : Supply} {news : News} (h : l.Heard s news l') :
    l.Reads l' := by
  cases h with
  | log log rest hi => exact .take log rest hi
  | closedKnown hi hf hw => exact .same
  | closedEarly hi hf hs => exact .same
  | closed hi hf hl => exact .learn hl
  | failed e hs hl => exact .learn hl
  | completed hf hs hl => exact .learn hl

/-! ## Each of the two ways -/

theorem logArm_eq (l : Link) :
    l.logArm = match l.logs.items with
      | log :: rest => some (.log log, l.withItems rest)
      | [] => if l.hasFeed then none else some (.closed l.takeFailure.1, l.takeFailure.2) := by
  unfold logArm receive Channel.pollReceive hasFeed withItems
  cases l.logs.items with
  | nil => cases hs : l.logs.hasSender <;> rfl
  | cons log rest => rfl

theorem logArm_none_iff (l : Link) :
    l.logArm = none ↔ l.logs.items = [] ∧ l.hasFeed = true := by
  rw [logArm_eq]
  cases l.logs.items <;> cases l.hasFeed <;> simp

theorem endingArm_none_iff (l : Link) : l.endingArm = none ↔ l.canLearn = false := by
  unfold endingArm ending OneShot.poll canLearn OneShot.isSettled
  cases l.watchesFailure <;> cases l.failure <;> simp

theorem tryReceive_of_cons {l : Link} {log : Log} {rest : List Log}
    (hi : l.logs.items = log :: rest) : l.tryReceive = (some log, l.withItems rest) := by
  simp [tryReceive, Channel.tryReceive, hi, withItems]

theorem tryReceive_of_nil {l : Link} (hi : l.logs.items = []) : l.tryReceive = (none, l) := by
  simp [tryReceive, Channel.tryReceive, hi]

theorem takeFailure_of_known {l : Link} (hw : l.watchesFailure = false) :
    l.takeFailure = (none, l) := by
  simp [takeFailure, ending, hw]

theorem takeFailure_of_waiting {l : Link} (hf : l.failure = .waiting) :
    l.takeFailure = (none, l) := by
  cases hw : l.watchesFailure <;> simp [takeFailure, ending, OneShot.poll, hw, hf]

theorem takeFailure_of_sent {l : Link} (hw : l.watchesFailure = true) {e : Error}
    (hf : l.failure = .sent e) : l.takeFailure = (some e, l.learn) := by
  simp [takeFailure, ending, OneShot.poll, hw, hf, learn]

theorem takeFailure_of_abandoned {l : Link} (hw : l.watchesFailure = true)
    (hf : l.failure = .abandoned) : l.takeFailure = (none, l.learn) := by
  simp [takeFailure, ending, OneShot.poll, hw, hf, learn]

end Link

namespace Link.Tracks

variable {l l' : Link} {s : Supply} {news : News}

theorem logArm_heard (ht : l.Tracks s) (h : l.logArm = some (news, l')) : l.Heard s news l' := by
  rw [logArm_eq] at h
  cases hi : l.logs.items with
  | cons log rest =>
    simp only [hi, Option.some.injEq, Prod.mk.injEq] at h
    obtain ⟨rfl, rfl⟩ := h
    exact .log log rest hi
  | nil =>
    cases hf : l.hasFeed with
    | true => simp [hi, hf] at h
    | false =>
      simp only [hi, hf, Bool.false_eq_true, if_false, Option.some.injEq, Prod.mk.injEq] at h
      obtain ⟨rfl, rfl⟩ := h
      cases hw : l.watchesFailure with
      | false =>
        rw [takeFailure_of_known hw]
        exact .closedKnown hi hf hw
      | true =>
        cases hc : l.failure with
        | waiting =>
          rw [takeFailure_of_waiting hc]
          exact .closedEarly hi hf (ht.unsent (.inl hc))
        | sent e =>
          rw [takeFailure_of_sent hw hc, ← ht.sent e hc]
          exact .closed hi hf (by simp [canLearn, OneShot.isSettled, hw, hc])
        | abandoned =>
          have hs : s.failures.head? = none := by simp [ht.unsent (.inr hc)]
          rw [takeFailure_of_abandoned hw hc, ← hs]
          exact .closed hi hf (by simp [canLearn, OneShot.isSettled, hw, hc])
        | taken => exact absurd hc (ht.watches hw)

theorem endingArm_ended (ht : l.Tracks s) (h : l.endingArm = some (news, l')) :
    (∃ e, s.failures.head? = some e ∧ l.canLearn = true ∧ news = .ended (some e) ∧ l' = l.learn) ∨
      l.hasFeed = false ∧ s.failures = [] ∧ l.canLearn = true ∧ news = .ended none ∧
        l' = l.learn := by
  unfold endingArm ending at h
  cases hw : l.watchesFailure with
  | false => simp [hw] at h
  | true =>
    cases hc : l.failure with
    | waiting => simp [hw, hc, OneShot.poll] at h
    | sent e =>
      simp only [hw, hc, OneShot.poll, Bool.not_true, Bool.false_eq_true, if_false,
        Option.some.injEq, Prod.mk.injEq] at h
      exact .inl ⟨e, ht.sent e hc, by simp [canLearn, OneShot.isSettled, hw, hc], h.1.symm,
        h.2.symm⟩
    | abandoned =>
      simp only [hw, hc, OneShot.poll, Bool.not_true, Bool.false_eq_true, if_false,
        Option.some.injEq, Prod.mk.injEq] at h
      exact .inr ⟨ht.abandoned hc, ht.unsent (.inr hc),
        by simp [canLearn, OneShot.isSettled, hw, hc], h.1.symm, h.2.symm⟩
    | taken => exact absurd hc (ht.watches hw)

theorem endingArm_heard (ht : l.Tracks s) (h : l.endingArm = some (news, l')) :
    l.Heard s news l' := by
  rcases ht.endingArm_ended h with ⟨e, hs, hl, rfl, rfl⟩ | ⟨hf, hs, hl, rfl, rfl⟩
  · exact .failed e hs hl
  · exact .completed hf hs hl

/-- Hearing something keeps the cells telling. -/
theorem reads (ht : l.Tracks s) (h : l.Reads l') : l'.Tracks s := by
  cases h with
  | same => exact ht
  | take log rest hi => exact ⟨ht.1, ht.2, ht.3, ht.4, ht.5, ht.6, ht.7, ht.8⟩
  | learn hl =>
    have hn : l.canFail ≠ true := fun h => by
      simp [canLearn, OneShot.isSettled, ht.canFail.mp h] at hl
    refine ⟨ht.1, ?_, ?_, ?_, ?_, ?_, ht.7, ht.8⟩ <;> simp [Link.learn, hn]

end Link.Tracks

end AbiBindings.Stream
