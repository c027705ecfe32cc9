import AbiBindings.Proofs.Stream.Requests

/-!
# Cells that are spent

A cell hands its outcome out once; to ask it again is a misuse. Three cells are asked: the one that
tells how the feed ended, by the subscriber; the request to stop, by the feed; and the request to
end, by the task of a watch. Whoever holds a subscription may wait for the end of the feed or take
its failure without waiting, in any order, and abandon a call that waits.

Results:
* `Link.Tracks.unspent`: no call of either side comes upon a cell that is spent.
* `Link.Tracks.abandonable`: a call that waits leaves the link as it was.
* `Link.Later.endingArm_none`: once the outcome of the feed was handed out nobody hears of it again.
* `Listening.drives_probe`: a subscription with all the calls of its holder is a system with a link.
-/

namespace AbiBindings.Stream

namespace Link

/-! ## Calls on a link -/

/-- No call of either side comes upon a cell whose outcome was handed out. -/
structure Unspent (l : Link) : Prop where
  /-- The outcome of the feed is looked for only while it has not been handed out. -/
  failure : l.watchesFailure = true → l.failure ≠ .taken
  quit : l.watchesQuit = true → l.quit ≠ .taken
  /-- Who waits for the end of the feed, and who takes its failure, for that asks in this way. -/
  ending : l.ending.1 ≠ .misused
  /-- Who waits for the request to stop, and who looks for it, for that asks in this way. -/
  closed : l.closed.1 ≠ .misused
  send : ∀ start log, (l.send start log).1 ≠ .misused
  next : ∀ start, (l.nextPass start).1 ≠ .misused

/-- A call that waits leaves the link as it was: to abandon it is to do something else. -/
structure Abandonable (l : Link) : Prop where
  receive : l.receive.1 = .pending → l.receive.2 = l
  ending : l.ending.1 = .pending → l.ending.2 = l
  closed : l.closed.1 = .pending → l.closed.2 = l
  send : ∀ start log, (l.send start log).1 = .pending → (l.send start log).2 = l
  /-- A call for the next log comes to an answer or waits; its rounds do not run out. -/
  next : ∀ start, (∃ answer, (l.next start).1 = .done answer) ∨ l.next start = (.pending, l)

variable {l l' : Link} {s : Supply}

theorem SendMove.ne_misused {log : Log} {p : Poll Bool} (hm : SendMove l log p l')
    (hq : l.watchesQuit = true → l.quit ≠ .taken) : p ≠ .misused := by
  cases hm with
  | misuse hw htaken => exact absurd htaken (hq hw)
  | wait | refuse | notice | accept => simp

theorem SendMove.eq_of_pending {log : Log} (hm : SendMove l log .pending l') : l' = l := by
  cases hm
  rfl

/-- The request to stop is seen, or it is waited for. -/
theorem closed_of_unspent (hq : l.watchesQuit = true → l.quit ≠ .taken) :
    l.closed.1 = .ready () ∨ l.closed = (.pending, l) := by
  unfold closed
  by_cases hw : l.watchesQuit = true
  · have hne := hq hw
    cases hc : l.quit with
    | waiting => simp [hw, OneShot.poll]
    | sent | abandoned => simp [hw, OneShot.poll]
    | taken => exact absurd hc hne
  · simp [hw]

namespace Tracks

/-- While the cells tell what the feed has done, no call comes upon one that is spent. -/
theorem unspent (ht : l.Tracks s) : l.Unspent where
  failure := ht.watches
  quit := ht.watchesQuit
  ending := by rcases ht.ending_cases with heq | ⟨heq, -, -⟩ <;> simp [heq]
  closed := by rcases closed_of_unspent ht.watchesQuit with heq | heq <;> simp [heq]
  send start log := (l.send_move start log).ne_misused ht.watchesQuit
  next start := (ht.next_round start).ne_misused

theorem abandonable (ht : l.Tracks s) : l.Abandonable where
  receive hp := by
    rcases l.receive_cases with ⟨log, rest, -, heq⟩ | heq | heq
    · simp [heq] at hp
    · rw [heq]
    · simp [heq] at hp
  ending hp := by
    rcases ht.ending_cases with heq | ⟨heq, -, -⟩
    · rw [heq]
    · simp [heq] at hp
  closed hp := by
    rcases closed_of_unspent ht.watchesQuit with heq | heq
    · simp [heq] at hp
    · rw [heq]
  send start log hp := by
    have hm := l.send_move start log
    rw [hp] at hm
    exact hm.eq_of_pending
  next start := ht.next_answers start

/-- Whatever the two sides do, the cells go on telling what the feed has done. -/
theorem later (ht : l.Tracks s) (hl : l.Later l') : ∃ s', l'.Tracks s' := by
  refine hl.keeps (p := fun l => ∃ s, l.Tracks s) ⟨s, ht⟩ ?_
  rintro l₁ l₂ ⟨s₁, ht₁⟩ hc
  cases hc with
  | feed o l₂ hm => exact ⟨_, ht₁.move hm⟩
  | read l₂ hr => exact ⟨s₁, ht₁.reads hr⟩
  | unsubscribe => exact ⟨s₁, ht₁.unsubscribe⟩
  | drop => exact ⟨s₁, ht₁.dropSubscription⟩

/-- The failure of the feed is not there, or it is taken and its cell is let go. -/
theorem takeFailure_cases (ht : l.Tracks s) :
    l.takeFailure = (none, l) ∨
      l.takeFailure = (s.failures.head?, l.learn) ∧ l.canLearn = true ∧
        (s.failures = [] → l.hasFeed = false) := by
  unfold takeFailure
  rcases ht.ending_cases with heq | ⟨heq, hl, hf⟩ <;> rw [heq]
  · exact .inl rfl
  · exact .inr ⟨rfl, hl, hf⟩

end Tracks

/-- Who has stopped looking for the end of the feed does not look for it again. -/
theorem Later.watchesFailure_eq_false (hl : l.Later l') (hw : l.watchesFailure = false) :
    l'.watchesFailure = false := by
  refine hl.keeps (p := fun l => l.watchesFailure = false) hw ?_
  intro l₁ l₂ hw₁ hc
  cases hc with
  | feed o l₂ hm => exact hm.watchesFailure_eq.trans hw₁
  | read l₂ hr =>
    cases hr with
    | learn => rfl
    | same | take => exact hw₁
  | unsubscribe => exact l₁.unsubscribe_watchesFailure.trans hw₁
  | drop => rfl

theorem Later.watchesFailure_le (hl : l.Later l') :
    l'.watchesFailure.toNat ≤ l.watchesFailure.toNat := by
  cases hw : l.watchesFailure with
  | false => exact Nat.le_of_eq (congrArg Bool.toNat (hl.watchesFailure_eq_false hw))
  | true => exact Bool.toNat_le _

/-- Once the outcome of the feed was handed out, the way that waits for its end waits for good. -/
theorem Later.endingArm_none (hl : l.Later l') (ht : l.Tracks s) (hf : l.failure = .taken) :
    l'.endingArm = none := by
  have hw : l.watchesFailure = false := Bool.eq_false_iff.mpr fun hw => ht.watches hw hf
  rw [endingArm_none_iff, canLearn, hl.watchesFailure_eq_false hw, Bool.false_and]

end Link

/-! ## All the calls of a holder -/

/-- An action of the feed or of the listener, who may also take a failure without waiting. -/
inductive ProbingAction where
  | listen (a : ListeningAction)
  | takeFailure

namespace Listening

/-- Does an action. -/
def probe (s : Listening) : ProbingAction → Listening
  | .listen a => s.act a
  | .takeFailure => s.tell s.link.takeFailure.1 s.link.takeFailure.2

/-- A call of the feed as an action. -/
def probeFeed (a : FeedAction) : ProbingAction := .listen (.feed a)

variable {s : Listening}

/-- Who finds no failure to take leaves everything as it was. -/
theorem takeFailure_move (ht : s.link.Tracks s.supply) : Move s (s.probe .takeFailure) := by
  rcases ht.takeFailure_cases with heq | ⟨heq, hl, hf⟩ <;> simp only [probe, heq]
  · have hrest : s.tell none s.link = s := by simp [tell]
    rw [hrest]
    exact .rest
  · exact .learn hl hf

theorem drives_probe : Drives probe link probeFeed Sound where
  keeps s a h := by
    cases a with
    | listen a => exact h.act a
    | takeFailure => exact h.move (takeFailure_move h.tracks)
  later s a h := by
    cases a with
    | listen a => exact drives.later s a h
    | takeFailure => exact (takeFailure_move h.tracks).later
  call _ _ := rfl

end Listening

end AbiBindings.Stream
