import AbiBindings.Proofs.Stream.Terminal

/-!
# Runs of an iterator

What an iterator hands out and how it ends, whatever the feed and the reader do and in which order.

Results:
* `Reading.records_of_first_accepted`: the records are those of the first logs that the feed had
  accepted, and a call that waits takes nothing.
* `Reading.end_is_truthful`: a failure is the feed's own or that of the next log, and an iterator is
  exhausted only if all was handed out.
-/

namespace AbiBindings.Stream

/-- Whether an iterator has not failed and does not look for a failure of its feed any more. -/
def Phase.isClosing : Phase → Bool
  | .draining | .exhausted => true
  | .active | .failed => false

namespace Iterator

variable {decode : Log → Except Error ρ} {s : Supply} {i i' : Iterator ρ} {p : Pass Bool}

theorem close_logs (i : Iterator ρ) : i.close.link.logs = i.link.logs := by
  rw [close_eq]
  exact i.link.unsubscribe_logs

theorem close_exhausted_iff (i : Iterator ρ) :
    i.close.phase = .exhausted ↔ i.phase = .exhausted := by
  rw [close_eq]
  cases hp : i.phase <;> simp

/-- A round that waits changes nothing. -/
theorem Round.eq_of_pending (h : Round decode s i .pending i') : i' = i := by
  cases h
  rfl

/-- A round that does not wait for the feed finishes the call. -/
theorem Round.done_of_not_active (h : Round decode s i p i') (hp : i.phase ≠ .active) :
    ∃ advanced, p = .done advanced := by
  cases h with
  | wait hp' => exact absurd hp' hp
  | completed l hp' => exact absurd hp' hp
  | _ => exact ⟨_, rfl⟩

/-- A call for the next record is a round, and another one if the feed has ended without failure. -/
theorem advance_eq (decode : Log → Except Error ρ) (start : Nat) (i : Iterator ρ) :
    i.advance decode start = match i.pass decode start with
      | (.again, i) => i.pass decode start
      | r => r := by
  simp only [advance, advanceWithin]
  rcases i.pass decode start with ⟨p, i₁⟩
  cases p with
  | again =>
    dsimp only
    rcases i₁.pass decode start with ⟨p, i₂⟩
    cases p <;> rfl
  | _ => rfl

end Iterator

namespace Reading

variable {decode : Log → Except Error ρ} {r : Reading ρ}

theorem Sound.round_of_pass (h : r.Sound decode) (start : Nat) :
    r.iterator.Round decode r.supply (r.iterator.pass decode start).1
      (r.iterator.pass decode start).2 :=
  Iterator.pass_round h.tracks h.watches start

/-! ## Calls that wait -/

/-- A round that waits leaves everything as it was. -/
theorem Sound.act_of_pending (h : r.Sound decode) {start : Nat}
    (hp : (r.iterator.pass decode start).1 = .pending) :
    r.act decode (.next start) = r ∧ r.act decode (.nextEvent start) = r := by
  have hround := h.round_of_pass start
  rw [hp] at hround
  have hpass : r.iterator.pass decode start = (.pending, r.iterator) :=
    Prod.ext hp hround.eq_of_pending
  simp only [Reading.act, hpass, note, and_self]

/-- A call that waits leaves the iterator as it was. -/
theorem Sound.advance_of_pending (h : r.Sound decode) {start : Nat}
    (hp : (r.iterator.advance decode start).1 = .pending) :
    (r.iterator.advance decode start).2 = r.iterator := by
  have hround := h.round_of_pass start
  rw [Iterator.advance_eq] at hp ⊢
  rcases hpass : r.iterator.pass decode start with ⟨p, i⟩
  rw [hpass] at hround hp
  cases p with
  | again =>
    -- The second round finds the queue without a feed, so it does not wait.
    exfalso
    have hsound := h.round hround
    cases hround with
    | completed l hact hf hs hl =>
      obtain ⟨advanced, hdone⟩ :=
        (hsound.round_of_pass start).done_of_not_active (by simp [note])
      simp only [note] at hdone
      simp [hdone] at hp
  | pending => exact hround.eq_of_pending
  | done advanced => simp at hp
  | misused => simp at hp

/-- After any actions, the records are those of the first logs that were accepted, as many as calls
have found one; a call that waits leaves the queue and the failure of the feed where they are. -/
theorem records_of_first_accepted (c : Contract) (t : EventType) (origin : Origin)
    (actions : List ReadingAction) :
    let decode := c.unpack t
    let r := (Reading.start origin).run decode actions
    let found := r.answers.count true
    found ≤ r.supply.accepted.length ∧
    (r.supply.accepted.take found).map decode = r.records.map .ok ∧
    (∀ start, (r.iterator.pass decode start).1 = .pending →
      r.act decode (.next start) = r ∧ r.act decode (.nextEvent start) = r) ∧
    ∀ start, (r.iterator.advance decode start).1 = .pending →
      (r.iterator.advance decode start).2 = r.iterator := by
  intro decode r found
  have h : r.Sound decode := (Sound.start origin).run actions
  have hfound : found = r.records.length := h.count
  refine ⟨?_, ?_, fun start => h.act_of_pending, fun start => h.advance_of_pending⟩
  · rw [hfound]
    exact h.delivers.length_le
  · rw [hfound]
    exact h.delivers

/-! ## What only grows -/

/-- Nothing that was accepted or handed out is taken back. -/
theorem Sound.act_grows (h : r.Sound decode) (a : ReadingAction) :
    r.supply.accepted <+: (r.act decode a).supply.accepted ∧
      r.records <+: (r.act decode a).records := by
  refine act_induction (motive := fun r' => r.supply.accepted <+: r'.supply.accepted ∧
    r.records <+: r'.records) h.tracks h.watches ⟨List.prefix_rfl, List.prefix_rfl⟩ ?_ ?_
    (fun _ hg => hg) a fun _ => ⟨List.prefix_rfl, List.prefix_rfl⟩
  · intro o l hm
    exact ⟨r.supply.note_accepted_prefix o, List.prefix_rfl⟩
  · intro p i hr
    cases p with
    | done advanced => exact ⟨List.prefix_rfl, List.prefix_append _ _⟩
    | again | pending | misused => exact ⟨List.prefix_rfl, List.prefix_rfl⟩

theorem Sound.run_grows (h : r.Sound decode) (actions : List ReadingAction) :
    r.supply.accepted <+: (r.run decode actions).supply.accepted ∧
      r.records <+: (r.run decode actions).records := by
  refine h.run_keeps (motive := fun r' => r.supply.accepted <+: r'.supply.accepted ∧
    r.records <+: r'.records) ⟨List.prefix_rfl, List.prefix_rfl⟩ ?_ actions
  intro r' h' hgrown a
  obtain ⟨hlogs, hrecords⟩ := h'.act_grows a
  exact ⟨hgrown.1.trans hlogs, hgrown.2.trans hrecords⟩

/-! ## Exhaustion -/

/-- An iterator that has just been exhausted has handed out every log that was accepted. -/
theorem Sound.all_of_exhausted (h : r.Sound decode) (a : ReadingAction)
    (hp : r.iterator.phase ≠ .exhausted) (hp' : (r.act decode a).iterator.phase = .exhausted) :
    (r.act decode a).records.length = (r.act decode a).supply.accepted.length := by
  refine act_induction (motive := fun r' => r'.iterator.phase = .exhausted →
    r'.records.length = r'.supply.accepted.length) h.tracks h.watches
    (fun hp' => absurd hp' hp) ?_ ?_ (fun _ hr => hr) a ?_ hp'
  · intro o l hm hp'
    exact absurd hp' hp
  · intro p i hr hp'
    cases hr with
    | finished => exact absurd hp' hp
    | wait => exact absurd hp' hp
    | record => exact absurd hp' hp
    | malformed => simp [note] at hp'
    | failed => simp [note] at hp'
    | completed => simp [note] at hp'
    | exhausted hd hi =>
      rw [note_refused]
      exact h.length_of_empty (by simp [hd]) hi
  · exact fun _ hp' => absurd (r.iterator.close_exhausted_iff.mp hp') hp

/-- Before an iterator is exhausted it hands out every log that was accepted before. -/
theorem Sound.accepted_le_of_exhausted (h : r.Sound decode) (actions : List ReadingAction)
    (hp : r.iterator.phase ≠ .exhausted)
    (hp' : (r.run decode actions).iterator.phase = .exhausted) :
    r.supply.accepted.length ≤ (r.run decode actions).records.length := by
  induction actions generalizing r with
  | nil => exact absurd hp' hp
  | cons a actions ih =>
    have hle := (h.act_grows a).1.length_le
    by_cases hnow : (r.act decode a).iterator.phase = .exhausted
    · have hall := h.all_of_exhausted a hp hnow
      have hrec := ((h.act a).run_grows actions).2.length_le
      simp only [Reading.run, List.foldl_cons] at hrec ⊢
      omega
    · exact Nat.le_trans hle (ih (h.act a) hnow hp')

/-- Before an iterator is exhausted it hands out the records of all logs accepted before. -/
theorem Sound.prefix_of_exhausted (h : r.Sound decode) (actions : List ReadingAction)
    (hp : r.iterator.phase ≠ .exhausted)
    (hp' : (r.run decode actions).iterator.phase = .exhausted) :
    r.supply.accepted.map decode <+: (r.run decode actions).records.map .ok := by
  obtain ⟨more, hmore⟩ := (h.run_grows actions).1
  have hle := h.accepted_le_of_exhausted actions hp hp'
  rw [← (h.run actions).delivers, ← hmore, List.take_append, List.take_of_length_le hle,
    List.map_append]
  exact List.prefix_append _ _

/-! ## A feed that ends without failure -/

/-- The feed was finished without failure; if the iterator is exhausted it has handed out all. -/
structure Completed (r : Reading ρ) : Prop where
  hasFeed : r.iterator.link.hasFeed = false
  failures : r.supply.failures = []
  all : r.iterator.phase = .exhausted → r.records.length = r.supply.accepted.length

theorem Completed.act (hc : r.Completed) (h : r.Sound decode) (a : ReadingAction) :
    (r.act decode a).Completed := by
  refine act_induction h.tracks h.watches hc ?_ ?_ (fun _ hc => ⟨hc.1, hc.2, hc.3⟩) a ?_
  · intro o l hm
    have hnote := hm.note_of_finished hc.hasFeed r.supply
    refine ⟨hm.hasFeed_eq_false hc.hasFeed, ?_, fun hp => ?_⟩
    · simpa only [fed, hnote] using hc.failures
    · simpa only [fed, hnote] using hc.all hp
  · intro p i hr
    cases hr with
    | finished =>
      rw [note_refused]
      exact ⟨hc.1, hc.2, hc.3⟩
    | wait => exact hc
    | record log rest record hp =>
      exact ⟨hc.1, hc.2, fun hp' => absurd hp' (Phase.ne_exhausted hp)⟩
    | malformed => exact ⟨hc.1, hc.2, by simp [note]⟩
    | failed => exact ⟨hc.1, hc.2, by simp [note]⟩
    | completed l hp hf hs hl =>
      refine ⟨?_, hc.2, by simp [note]⟩
      rcases hl with rfl | ⟨-, rfl⟩ <;> exact hc.1
    | exhausted hp hi =>
      rw [note_refused]
      exact ⟨hc.1, hc.2, fun _ => h.length_of_empty (by simp [hp]) hi⟩
  · intro _
    have hfeed : r.iterator.close.link.hasFeed = false := by
      simp only [Link.hasFeed, r.iterator.close_logs]
      exact hc.hasFeed
    exact ⟨hfeed, hc.2, fun hp => hc.all (r.iterator.close_exhausted_iff.mp hp)⟩

/-- Only a request to stop and the end of the feed without failure make an iterator stop waiting
for its feed and not fail. -/
theorem Sound.completed_of_closing (h : r.Sound decode) {a : ReadingAction} (ha : a ≠ .close)
    (hp : r.iterator.phase.isClosing = false)
    (hp' : (r.act decode a).iterator.phase.isClosing = true) : (r.act decode a).Completed := by
  refine act_induction (motive := fun r' => r'.iterator.phase.isClosing = true → r'.Completed)
    h.tracks h.watches (fun hp' => by simp [hp] at hp') ?_ ?_ ?_ a (fun hc => absurd hc ha) hp'
  · intro o l hm hp'
    exact absurd (hp.symm.trans hp') (by simp)
  · intro p i hr hp'
    cases hr with
    | completed l hact hf hs hl =>
      refine ⟨?_, hs, by simp [note]⟩
      rcases hl with rfl | ⟨-, rfl⟩ <;> exact hf
    | exhausted hd => simp [hd, Phase.isClosing] at hp
    | malformed => simp [note, Phase.isClosing] at hp'
    | failed => simp [note, Phase.isClosing] at hp'
    | finished | wait | record => exact absurd (hp.symm.trans hp') (by simp)
  · intro r' hr hp'
    have hc := hr hp'
    exact ⟨hc.1, hc.2, hc.3⟩

/-- The reader asked to stop before the iterator was exhausted. -/
def ClosedEarly (decode : Log → Except Error ρ) (r : Reading ρ) (actions : List ReadingAction) :
    Prop :=
  ∃ first rest, actions = first ++ .close :: rest ∧
    (r.run decode first).iterator.phase ≠ .exhausted

theorem ClosedEarly.cons {a : ReadingAction} {actions : List ReadingAction}
    (h : ClosedEarly decode (r.act decode a) actions) : ClosedEarly decode r (a :: actions) := by
  obtain ⟨first, rest, rfl, hp⟩ := h
  exact ⟨a :: first, rest, rfl, hp⟩

theorem Sound.closed_or_completed (h : r.Sound decode) (actions : List ReadingAction)
    (hc : r.iterator.phase.isClosing = true → r.Completed)
    (hp : (r.run decode actions).iterator.phase.isClosing = true) :
    ClosedEarly decode r actions ∨ (r.run decode actions).Completed := by
  induction actions generalizing r with
  | nil => exact .inr (hc hp)
  | cons a actions ih =>
    by_cases hclose : a = .close ∧ r.iterator.phase ≠ .exhausted
    · exact .inl ⟨[], actions, by rw [hclose.1]; rfl, hclose.2⟩
    · have hnext : (r.act decode a).iterator.phase.isClosing = true →
          (r.act decode a).Completed := by
        intro hp'
        cases hnow : r.iterator.phase.isClosing with
        | true => exact (hc hnow).act h a
        | false =>
          have hne : r.iterator.phase ≠ .exhausted := by
            intro he
            simp [he, Phase.isClosing] at hnow
          exact h.completed_of_closing (fun ha => hclose ⟨ha, hne⟩) hnow hp'
      exact (ih (h.act a) hnext hp).imp ClosedEarly.cons id

/-! ## After a request to stop -/

/-- If the iterator has failed, it was because of the log after those of the records. -/
def FailedByLog (decode : Log → Except Error ρ) (r : Reading ρ) : Prop :=
  r.iterator.phase = .failed → ∃ e log, r.iterator.error? = some e ∧
    r.supply.accepted[r.records.length]? = some log ∧ decode log = .error e

/-- An iterator that does not wait for its feed never will, and only a log makes it fail. -/
structure Drains (decode : Log → Except Error ρ) (r : Reading ρ) : Prop where
  not_active : r.iterator.phase ≠ .active
  failed : r.FailedByLog decode

theorem Drains.act_failed (hd : r.Drains decode) (h : r.Sound decode) (a : ReadingAction) :
    (r.act decode a).FailedByLog decode := by
  refine act_induction h.tracks h.watches hd.failed ?_ ?_ (fun _ hf => hf) a ?_
  · intro o l hm hp
    obtain ⟨e, log, he, hl, hlog⟩ := hd.failed hp
    exact ⟨e, log, he, getElem?_of_prefix (r.supply.note_accepted_prefix o) hl, hlog⟩
  · intro p i hr
    cases hr with
    | finished =>
      rw [note_refused]
      exact hd.failed
    | wait => exact hd.failed
    | record log rest record hp hi hlog => exact fun hp' => absurd hp' (Phase.ne_failed hp)
    | malformed log rest e hp hi hlog =>
      rw [note_refused]
      exact fun _ => ⟨e, log, rfl, (h.next_log (Phase.ne_failed hp) hi).1, hlog⟩
    | failed e hp => exact absurd hp hd.not_active
    | completed l hp => exact absurd hp hd.not_active
    | exhausted => simp [FailedByLog, note]
  · intro _
    rw [Iterator.close_eq, if_neg hd.not_active]
    exact hd.failed

theorem Drains.run (hd : r.Drains decode) (h : r.Sound decode) (actions : List ReadingAction) :
    (r.run decode actions).Drains decode :=
  h.run_keeps (motive := Drains decode) hd
    (fun _ h hd a => ⟨h.act_not_active hd.not_active a, hd.act_failed h a⟩) actions

/-- An iterator that is asked to stop while it goes on does not wait for its feed any more. -/
theorem drains_close (decode : Log → Except Error ρ) (hp : r.iterator.phase.isTerminal = false) :
    (r.act decode .close).Drains decode := by
  have hphase : (r.act decode .close).iterator.phase = .draining := by
    simp only [act, Iterator.close_eq]
    cases hr : r.iterator.phase <;> simp_all [Phase.isTerminal]
  exact ⟨by simp [hphase], by simp [FailedByLog, hphase]⟩

/-! ## The end of an iterator -/

/-- How an iterator ends that begins as it does here, after some actions. -/
structure TruthfulEnd (decode : Log → Except Error ρ) (origin : Reading ρ)
    (actions : List ReadingAction) (r : Reading ρ) : Prop where
  /-- It fails with the first failure of its feed, or because of the log after those handed out. -/
  failed : r.iterator.phase = .failed →
    ∃ e, r.iterator.error? = some e ∧ r.supply.Explains decode r.records e
  /-- It is exhausted if it was asked to stop before, or if its feed was finished without failure
  and all was handed out. -/
  exhausted : r.iterator.phase = .exhausted → r.iterator.error? = none ∧
    (ClosedEarly decode origin actions ∨
      r.iterator.link.hasFeed = false ∧ r.supply.failures = [] ∧
        r.supply.accepted.map decode = r.records.map .ok)
  /-- Once asked to stop it never waits; it hands out all that was accepted before it is exhausted,
  and nothing but a log makes it fail. -/
  closed : ∀ first rest, actions = first ++ .close :: rest →
    (origin.run decode first).iterator.phase.isTerminal = false →
    (∀ start, ∃ advanced, (r.iterator.pass decode start).1 = .done advanced) ∧
    (r.iterator.phase = .exhausted →
      (origin.run decode first).supply.accepted.map decode <+: r.records.map .ok) ∧
    r.FailedByLog decode
  /-- If it was not asked to stop, a failure of its feed is never turned into exhaustion. -/
  notSilenced : .close ∉ actions → r.supply.failures ≠ [] → r.iterator.phase ≠ .exhausted

/-- The end of an iterator over a subscription always tells the truth. -/
theorem end_is_truthful (c : Contract) (t : EventType) (capacity : Nat)
    (actions : List ReadingAction) :
    TruthfulEnd (c.unpack t) (Reading.live capacity) actions
      ((Reading.live capacity).run (c.unpack t) actions) := by
  have h₀ : (Reading.live capacity).Sound (c.unpack t) := .live capacity
  have h := h₀.run actions
  have hexhausted : ∀ r : Reading (Record t), r.iterator.phase = .exhausted →
      r.iterator.phase.isClosing = true := by
    intro r hp
    rw [hp]
    rfl
  refine ⟨fun hp => (h.failed hp).2, fun hp => ⟨h.noError (by simp [hp]), ?_⟩, ?_, ?_⟩
  · refine (h₀.closed_or_completed actions (by simp [live, Iterator.live, Phase.isClosing])
      (hexhausted _ hp)).imp id fun hc => ⟨hc.hasFeed, hc.failures, ?_⟩
    have hd := h.delivers
    rwa [Delivers, hc.all hp, List.take_length] at hd
  · rintro first rest rfl hp
    have hfirst := h₀.run first
    have hdrains := (drains_close (c.unpack t) hp).run (hfirst.act .close) rest
    have hrun : ((Reading.live capacity).run (c.unpack t) first).run (c.unpack t) (.close :: rest) =
        (Reading.live capacity).run (c.unpack t) (first ++ .close :: rest) :=
      (run_append _ _ _ _).symm
    refine ⟨fun start => ?_, fun hp' => ?_, ?_⟩
    · rw [← hrun] at h ⊢
      exact (h.round_of_pass start).done_of_not_active hdrains.not_active
    · rw [← hrun] at hp' ⊢
      exact hfirst.prefix_of_exhausted _ (Phase.ne_exhausted hp) hp'
    · rw [← hrun]
      exact hdrains.failed
  · intro hclose hs hp
    rcases h₀.closed_or_completed actions (by simp [live, Iterator.live, Phase.isClosing])
      (hexhausted _ hp) with ⟨first, rest, rfl, -⟩ | hc
    · exact hclose (by simp)
    · exact hs hc.failures

end Reading

end AbiBindings.Stream
