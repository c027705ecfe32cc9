import AbiBindings.Proofs.Stream.Reading

/-!
# Listening to a subscription

A subscription that is read without an iterator, together with its feed, as both go on. The feed
makes its calls and the listener its own, in any order: it may wait for the next log, for a log or
for the end of the feed, take a log that is there, and ask the feed to stop. A call for the next log
goes round at most twice; each round is an action of its own. A call that waits leaves everything as
it was: to abandon it is to do something else.

Results:
* `Link.Tracks.next_round`: all that one round of waiting for the next log can do.
* `Listening.Sound.run`: in every state that is reached, the logs that were handed out come before
  those in the queue, and the failure of the feed was told exactly if it is not looked for any more.
* `Listening.failure_told_once`: what the listener is told, whatever the order is.
-/

namespace AbiBindings.Stream

/-! ## The system -/

/-- An action of the feed or of the listener. -/
inductive ListeningAction where
  | feed (a : FeedAction)
  /-- One round of waiting for the next log. -/
  | next (start : Nat)
  | receive
  | tryReceive
  /-- Waiting for the end of the feed. -/
  | ending
  | unsubscribe

/-- A subscription with what its feed has done and what the listener was told. -/
structure Listening where
  link : Link
  supply : Supply
  /-- The logs that were handed out, in order. -/
  heard : List Log
  /-- The failures that were told, in order. -/
  told : List Error

namespace Listening

/-- Notes a log that was handed out. -/
def hear (s : Listening) (log? : Option Log) (l : Link) : Listening :=
  { s with link := l, heard := s.heard ++ log?.toList }

/-- Notes a failure that was told. -/
def tell (s : Listening) (e? : Option Error) (l : Link) : Listening :=
  { s with link := l, told := s.told ++ e?.toList }

/-- Notes what a round of waiting for the next log has come to. -/
def note (s : Listening) : Pass (Except Error (Option Log)) × Link → Listening
  | (.done (.ok log?), l) => s.hear log? l
  | (.done (.error e), l) => s.tell (some e) l
  | (.again, l) | (.pending, l) | (.misused, l) => { s with link := l }

/-- Does an action. -/
def act (s : Listening) : ListeningAction → Listening
  | .feed a =>
    { s with link := (a.act s.link).2, supply := s.supply.note (a.act s.link).1 }
  | .next start => s.note (s.link.nextPass start)
  | .receive =>
    match s.link.receive with
    | (.ready log?, l) => s.hear log? l
    | (.pending, l) | (.misused, l) => { s with link := l }
  | .tryReceive => s.hear s.link.tryReceive.1 s.link.tryReceive.2
  | .ending =>
    match s.link.ending with
    | (.ready e?, l) => s.tell e? l
    | (.pending, l) | (.misused, l) => { s with link := l }
  | .unsubscribe => { s with link := s.link.unsubscribe }

/-- Does some actions one after the other. -/
def run (s : Listening) (actions : List ListeningAction) : Listening := actions.foldl act s

/-- A subscription whose feed has done nothing, or to logs at hand, all of which its feed has
sent. -/
def start : Reading.Origin → Listening
  | .live capacity => ⟨.connect capacity, .empty, [], []⟩
  | .buffered logs => ⟨.ofLogs logs, ⟨logs, []⟩, [], []⟩

end Listening

/-! ## One round of waiting for the next log -/

namespace Link

/-- What one round of waiting for the next log can come to and do, when the feed has done what the
supply says. -/
inductive NextRound (l : Link) (s : Supply) : Pass (Except Error (Option Log)) → Link → Prop
  | wait (hi : l.logs.items = []) (hf : l.hasFeed = true) : NextRound l s .pending l
  | log (log : Log) (rest : List Log) (hi : l.logs.items = log :: rest) :
      NextRound l s (.done (.ok (some log))) (l.withItems rest)
  /-- There is no more, and if the feed has failed this is known already. -/
  | gone (l' : Link) (hi : l.logs.items = []) (hf : l.hasFeed = false)
      (hs : l.watchesFailure = true → s.failures = [])
      (hl : l' = l ∨ l.canLearn = true ∧ l' = l.learn) : NextRound l s (.done (.ok none)) l'
  | failed (e : Error) (hs : s.failures.head? = some e) (hl : l.canLearn = true) :
      NextRound l s (.done (.error e)) l.learn
  | completed (hf : l.hasFeed = false) (hs : s.failures = []) (hl : l.canLearn = true) :
      NextRound l s .again l.learn

/-- A round comes to what is heard. -/
theorem nextPass_of_heard {l l' : Link} {s : Supply} {start : Nat} {news : News}
    (hsel : select start [logArm, endingArm] l = some (news, l')) (heard : l.Heard s news l') :
    NextRound l s (l.nextPass start).1 (l.nextPass start).2 := by
  simp only [nextPass, hsel]
  cases heard with
  | log log rest hi => exact .log log rest hi
  | closedKnown hi hf hw =>
    exact .gone _ hi hf (fun hw' => absurd (hw.symm.trans hw') (by simp)) (.inl rfl)
  | closedEarly hi hf hs => exact .gone _ hi hf (fun _ => hs) (.inl rfl)
  | closed hi hf hl =>
    cases hh : s.failures.head? with
    | none => exact .gone _ hi hf (fun _ => List.head?_eq_none_iff.mp hh) (.inr ⟨hl, rfl⟩)
    | some e => exact .failed e hh hl
  | failed e hs hl => exact .failed e hs hl
  | completed hf hs hl => exact .completed hf hs hl

theorem Tracks.next_round {l : Link} {s : Supply} (ht : l.Tracks s) (start : Nat) :
    NextRound l s (l.nextPass start).1 (l.nextPass start).2 := by
  cases hsel : select start [logArm, endingArm] l with
  | none =>
    have harms := select_none_iff.mp hsel
    obtain ⟨hi, hf⟩ := (logArm_none_iff l).mp (harms _ (by simp))
    simp only [nextPass, hsel]
    exact .wait hi hf
  | some r =>
    obtain ⟨news, l'⟩ := r
    obtain ⟨arm, hmem, harm⟩ := select_some_mem hsel
    simp only [List.mem_cons, List.not_mem_nil, or_false] at hmem
    rcases hmem with rfl | rfl
    · exact nextPass_of_heard hsel (ht.logArm_heard harm)
    · exact nextPass_of_heard hsel (ht.endingArm_heard harm)

/-- A round that waits changes nothing. -/
theorem NextRound.eq_of_pending {l l' : Link} {s : Supply} (h : NextRound l s .pending l') :
    l' = l := by
  cases h
  rfl

/-- A round that says that there is no more has found the feed gone and the queue empty. -/
theorem NextRound.of_over {l l' : Link} {s : Supply} (h : NextRound l s (.done (.ok none)) l') :
    l.logs.items = [] ∧ l.hasFeed = false ∧ (l.watchesFailure = true → s.failures = []) := by
  cases h with
  | gone l' hi hf hs hl => exact ⟨hi, hf, hs⟩

/-- A round only reads. -/
theorem NextRound.reads {l l' : Link} {s : Supply} {p : Pass (Except Error (Option Log))}
    (h : NextRound l s p l') : l.Reads l' := by
  cases h with
  | wait => exact .same
  | log log rest hi => exact .take log rest hi
  | gone l' hi hf hs hl =>
    rcases hl with rfl | ⟨hl, rfl⟩
    · exact .same
    · exact .learn hl
  | failed e hs hl => exact .learn hl
  | completed hf hs hl => exact .learn hl

/-- A round never misuses a cell. -/
theorem NextRound.ne_misused {l l' : Link} {s : Supply} {p : Pass (Except Error (Option Log))}
    (h : NextRound l s p l') : p ≠ .misused := by
  cases h <;> simp

/-- Once the end of the feed is known, a round comes to an answer. -/
theorem NextRound.done_of_known {l l' : Link} {s : Supply} {p : Pass (Except Error (Option Log))}
    (h : NextRound l s p l') (hf : l.hasFeed = false) (hw : l.watchesFailure = false) :
    ∃ answer, p = .done answer := by
  cases h with
  | wait hi hf' => simp [hf] at hf'
  | completed hf' hs hl => simp [watchesFailure_of_canLearn hl] at hw
  | log | gone | failed => exact ⟨_, rfl⟩

/-- A call for the next log is a round, and another one if the feed has ended without failure. -/
theorem next_eq (start : Nat) (l : Link) :
    l.next start = match l.nextPass start with
      | (.again, l) => l.nextPass start
      | r => r := by
  simp only [next, nextWithin]
  rcases l.nextPass start with ⟨p, l₁⟩
  cases p with
  | again =>
    dsimp only
    rcases l₁.nextPass start with ⟨p, l₂⟩
    cases p <;> rfl
  | _ => rfl

/-- A call for the next log is its first round, or a second one that does not wait, because the feed
is known to have ended. -/
theorem Tracks.next_cases {l : Link} {s : Supply} (ht : l.Tracks s) (start : Nat) :
    (l.next start = l.nextPass start ∧ (l.nextPass start).1 ≠ .again) ∨
      l.nextPass start = (.again, l.learn) ∧ l.next start = l.learn.nextPass start ∧
        l.hasFeed = false ∧ l.canLearn = true := by
  have hr := ht.next_round start
  rw [next_eq]
  rcases hp : l.nextPass start with ⟨p, l'⟩
  rw [hp] at hr
  cases hr with
  | completed hf hs hl => exact .inr ⟨rfl, rfl, hf, hl⟩
  | wait | log | gone | failed => exact .inl ⟨rfl, by simp⟩

/-- A call for the next log comes to an answer, or it waits and leaves everything as it was. -/
theorem Tracks.next_answers {l : Link} {s : Supply} (ht : l.Tracks s) (start : Nat) :
    (∃ answer, (l.next start).1 = .done answer) ∨ l.next start = (.pending, l) := by
  rcases ht.next_cases start with ⟨heq, hne⟩ | ⟨hp, heq, hf, hl⟩ <;> rw [heq]
  · have hr := ht.next_round start
    have hnm := hr.ne_misused
    rcases hpass : l.nextPass start with ⟨p, l'⟩
    rw [hpass] at hr hne hnm
    cases p with
    | done answer => exact .inl ⟨answer, rfl⟩
    | pending =>
      obtain rfl : l' = l := hr.eq_of_pending
      exact .inr rfl
    | again => exact absurd rfl hne
    | misused => exact absurd rfl hnm
  · left
    exact ((ht.reads (.learn hl)).next_round start).done_of_known hf rfl

/-- A log comes at once, or it is waited for, or there is no more. -/
theorem receive_cases (l : Link) :
    (∃ log rest, l.logs.items = log :: rest ∧ l.receive = (.ready (some log), l.withItems rest)) ∨
      l.receive = (.pending, l) ∨ l.receive = (.ready none, l) := by
  unfold receive Channel.pollReceive
  cases hi : l.logs.items with
  | cons log rest => exact .inl ⟨log, rest, rfl, rfl⟩
  | nil =>
    cases hs : l.logs.hasSender with
    | true => exact .inr (.inl rfl)
    | false => exact .inr (.inr rfl)

/-- The end of the feed is waited for, or what is learned is its first failure, if it has failed. -/
theorem Tracks.ending_cases {l : Link} {s : Supply} (ht : l.Tracks s) :
    l.ending = (.pending, l) ∨
      l.ending = (.ready s.failures.head?, l.learn) ∧ l.canLearn = true ∧
        (s.failures = [] → l.hasFeed = false) := by
  unfold ending
  cases hw : l.watchesFailure with
  | false => exact .inl rfl
  | true =>
    have hl : l.canLearn = l.failure.isSettled := by simp [canLearn, hw]
    cases hc : l.failure with
    | waiting => exact .inl rfl
    | sent e =>
      have hs := ht.sent e hc
      exact .inr ⟨by rw [hs]; rfl, by rw [hl, hc]; rfl, fun hnil => by simp [hnil] at hs⟩
    | abandoned =>
      have hs := ht.unsent (.inr hc)
      exact .inr ⟨by rw [hs]; rfl, by rw [hl, hc]; rfl, fun _ => ht.abandoned hc⟩
    | taken => exact absurd hc (ht.watches hw)

end Link

theorem Link.Tracks.ofLogs (logs : List Log) : (Link.ofLogs logs).Tracks ⟨logs, []⟩ := by
  have ht := (Tracks.connect logs.length).run (FeedAction.fill logs)
  rwa [Link.run_fill] at ht

/-! ## All that an action can do -/

namespace Listening

variable {s s' : Listening}

/-- What an action can do that is not the request to stop. -/
inductive Move (s : Listening) : Listening → Prop
  | rest : Move s s
  | feed (o : FeedOutcome) (l : Link) (hm : FeedMove s.link o l) :
      Move s { s with link := l, supply := s.supply.note o }
  | hear (log : Log) (rest : List Log) (hi : s.link.logs.items = log :: rest) :
      Move s (s.hear (some log) (s.link.withItems rest))
  /-- How the feed ended is learned, and told if it was a failure. -/
  | learn (hl : s.link.canLearn = true) (hf : s.supply.failures = [] → s.link.hasFeed = false) :
      Move s (s.tell s.supply.failures.head? s.link.learn)

/-- To note what a round has come to is to go on with its link. -/
theorem note_link (s : Listening) (r : Pass (Except Error (Option Log)) × Link) :
    (s.note r).link = r.2 ∧ (s.note r).supply = s.supply := by
  rcases r with ⟨(_ | _) | _ | _ | _, l⟩ <;> exact ⟨rfl, rfl⟩

/-- If there is no log, none is noted. -/
@[simp] theorem hear_none (s : Listening) (l : Link) : s.hear none l = { s with link := l } := by
  simp [Listening.hear]

/-- If the feed has not failed, no failure is told. -/
theorem Move.learn_nothing (hl : s.link.canLearn = true) (hs : s.supply.failures = [])
    (hf : s.link.hasFeed = false) : Move s { s with link := s.link.learn } := by
  have hm := Move.learn hl fun _ => hf
  simpa [hs, tell] using hm

theorem note_move {p : Pass (Except Error (Option Log))} {l : Link}
    (h : s.link.NextRound s.supply p l) : Move s (s.note (p, l)) := by
  cases h with
  | wait hi hf => exact .rest
  | log log rest hi => exact .hear log rest hi
  | gone l hi hf hs hl =>
    rw [note, hear_none]
    rcases hl with rfl | ⟨hl, rfl⟩
    · exact .rest
    · exact .learn_nothing hl (hs (Link.watchesFailure_of_canLearn hl)) hf
  | failed e hs hl =>
    have hm := Move.learn hl fun h => by simp [h] at hs
    rwa [hs] at hm
  | completed hf hs hl => exact .learn_nothing hl hs hf

theorem receive_move (s : Listening) : Move s (s.act .receive) := by
  rcases s.link.receive_cases with ⟨log, rest, hi, heq⟩ | heq | heq <;> simp only [act, heq]
  · exact .hear log rest hi
  · exact .rest
  · simpa using Move.rest

theorem tryReceive_move (s : Listening) : Move s (s.act .tryReceive) := by
  rw [act]
  cases hi : s.link.logs.items with
  | cons log rest =>
    rw [Link.tryReceive_of_cons hi]
    exact .hear log rest hi
  | nil =>
    rw [Link.tryReceive_of_nil hi, hear_none]
    exact .rest

theorem act_move (ht : s.link.Tracks s.supply) {a : ListeningAction} (ha : a ≠ .unsubscribe) :
    Move s (s.act a) := by
  cases a with
  | feed a => exact .feed _ _ (a.act_move _)
  | next start => exact note_move (ht.next_round start)
  | receive => exact receive_move s
  | tryReceive => exact tryReceive_move s
  | ending =>
    rcases ht.ending_cases with h | ⟨h, hl, hf⟩
    · simp only [act, h]
      exact .rest
    · simp only [act, h]
      exact .learn hl hf
  | unsubscribe => exact absurd rfl ha

/-! ## What holds in every state -/

/-- What holds in every state of a subscription that is listened to. -/
structure Sound (s : Listening) : Prop where
  tracks : s.link.Tracks s.supply
  queue : s.heard ++ s.link.logs.items = s.supply.accepted
  untold : s.link.watchesFailure = true → s.told = []
  /-- The failure is not looked for any more only after it was told, or if there will be none. -/
  known : s.link.watchesFailure = false → s.told = s.supply.failures.head?.toList ∧
    (s.supply.failures = [] → s.link.hasFeed = false)

namespace Sound

theorem start (origin : Reading.Origin) : (Listening.start origin).Sound := by
  cases origin with
  | live capacity => exact ⟨.connect capacity, rfl, fun _ => rfl, fun h => by cases h⟩
  | buffered logs =>
    have hlink := Link.ofLogs_eq logs
    refine ⟨.ofLogs logs, ?_, fun _ => rfl, fun h => ?_⟩ <;> simp only [Listening.start, hlink] at *
    · rfl
    · cases h

theorem feed (h : s.Sound) {o : FeedOutcome} {l : Link} (hm : FeedMove s.link o l) :
    Sound { s with link := l, supply := s.supply.note o } := by
  refine ⟨h.tracks.move hm, hm.append_items_eq h.queue,
    fun hw => h.untold (hm.watchesFailure_eq.symm.trans hw), fun hw => ?_⟩
  obtain ⟨htold, hgone⟩ := h.known (hm.watchesFailure_eq.symm.trans hw)
  cases hs : s.supply.failures with
  | nil =>
    have hf := hgone hs
    rw [hm.note_of_finished hf]
    exact ⟨htold, fun _ => hm.hasFeed_eq_false hf⟩
  | cons e failures =>
    obtain ⟨more, hmore⟩ := s.supply.note_failures_prefix o
    rw [hs] at hmore htold
    refine ⟨?_, ?_⟩ <;> simp only [← hmore]
    · exact htold
    · simp

theorem move (h : s.Sound) (hm : Move s s') : s'.Sound := by
  cases hm with
  | rest => exact h
  | feed o l hm => exact h.feed hm
  | hear log rest hi =>
    refine ⟨h.tracks.reads (.take log rest hi), ?_, h.untold, h.known⟩
    show s.heard ++ [log] ++ rest = s.supply.accepted
    rw [← h.queue, hi, List.append_assoc, List.singleton_append]
  | learn hl hf =>
    have htold := h.untold (Link.watchesFailure_of_canLearn hl)
    refine ⟨h.tracks.reads (.learn hl), h.queue, fun hw => (by cases hw), fun _ => ⟨?_, hf⟩⟩
    rw [tell, htold, List.nil_append]

theorem unsubscribe (h : s.Sound) : Sound { s with link := s.link.unsubscribe } := by
  refine ⟨h.tracks.unsubscribe, ?_, fun hw => ?_, fun hw => ?_⟩
  · rw [Link.unsubscribe_logs]
    exact h.queue
  · exact h.untold (s.link.unsubscribe_watchesFailure.symm.trans hw)
  · rw [Link.unsubscribe_hasFeed]
    exact h.known (s.link.unsubscribe_watchesFailure.symm.trans hw)

theorem act (h : s.Sound) (a : ListeningAction) : (s.act a).Sound := by
  by_cases ha : a = .unsubscribe
  · subst ha
    exact h.unsubscribe
  · exact h.move (act_move h.tracks ha)

theorem run (h : s.Sound) (actions : List ListeningAction) : (s.run actions).Sound := by
  induction actions generalizing s with
  | nil => exact h
  | cons a actions ih => exact ih (h.act a)

/-- Who is told that there is no more was told everything. -/
theorem of_over (h : s.Sound) {start : Nat}
    (hover : (s.link.nextPass start).1 = .done (.ok none)) :
    s.link.hasFeed = false ∧ s.heard = s.supply.accepted ∧
      s.told = s.supply.failures.head?.toList := by
  have hr := h.tracks.next_round start
  rw [hover] at hr
  obtain ⟨hi, hf, hs⟩ := hr.of_over
  have hq := h.queue
  rw [hi, List.append_nil] at hq
  refine ⟨hf, hq, ?_⟩
  cases hw : s.link.watchesFailure with
  | false => exact (h.known hw).1
  | true => rw [h.untold hw, hs hw, List.head?_nil, Option.toList_none]

end Sound

/-! ## Whole calls -/

/-- A call for the next log is one round or two. -/
theorem note_next (s : Listening) (start : Nat) :
    ∃ rounds, s.note (s.link.next start) = s.run (List.replicate rounds (.next start)) := by
  rw [Link.next_eq]
  rcases hp : s.link.nextPass start with ⟨p, l⟩
  cases p with
  | again =>
    refine ⟨2, ?_⟩
    have hfirst : s.act (.next start) = { s with link := l } := by simp only [act, hp, note]
    show _ = (s.act (.next start)).act (.next start)
    rw [hfirst, act]
    dsimp only
    rcases l.nextPass start with ⟨_ | _, _⟩ <;> rfl
  | done value => exact ⟨1, by simp [Listening.run, act, hp]⟩
  | pending => exact ⟨1, by simp [Listening.run, act, hp]⟩
  | misused => exact ⟨1, by simp [Listening.run, act, hp]⟩

namespace Sound

/-- A first round that has learned that the feed is done leaves a sound state. -/
theorem of_again (h : s.Sound) {start : Nat} (hp : s.link.nextPass start = (.again, s.link.learn)) :
    Sound { s with link := s.link.learn } := by
  have h₁ := h.act (.next start)
  simpa only [Listening.act, hp, note] using h₁

theorem next_of_over (h : s.Sound) {start : Nat}
    (hover : (s.link.next start).1 = .done (.ok none)) :
    s.link.hasFeed = false ∧ s.heard = s.supply.accepted ∧
      s.told = s.supply.failures.head?.toList := by
  rcases h.tracks.next_cases start with ⟨heq, -⟩ | ⟨hp, heq, -, -⟩ <;> rw [heq] at hover
  · exact h.of_over hover
  · exact (h.of_again hp).of_over hover

end Sound

/-! ## What the listener is told -/

/-- What the listener was told is what the feed has done. -/
structure ToldOnce (s : Listening) : Prop where
  /-- The logs that were handed out come before those in the queue: none is left out, repeated or
  out of order. -/
  inOrder : s.heard ++ s.link.logs.items = s.supply.accepted
  /-- At most one failure was told, and it is the first of the feed. -/
  once : s.told = [] ∨ ∃ e, s.told = [e] ∧ s.supply.failures.head? = some e
  /-- A call for the next log, or one round of it, says that there is no more only when the feed is
  gone, every log was handed out and its failure was told. -/
  atEnd : ∀ start, (s.link.nextPass start).1 = .done (.ok none) ∨
      (s.link.next start).1 = .done (.ok none) →
    s.link.hasFeed = false ∧ s.heard = s.supply.accepted ∧
      s.told = s.supply.failures.head?.toList
  /-- A call that waits, and may be abandoned, leaves everything as it was. -/
  waits : (∀ start, (s.link.nextPass start).1 = .pending → s.act (.next start) = s) ∧
    (s.link.receive.1 = .pending → s.act .receive = s) ∧
    (s.link.ending.1 = .pending → s.act .ending = s)
  /-- A call for the next log is one round or two; it comes to an answer or waits. -/
  calls : ∀ start,
    (∃ rounds, s.note (s.link.next start) = s.run (.replicate rounds (.next start))) ∧
    ((∃ answer, (s.link.next start).1 = .done answer) ∨ s.link.next start = (.pending, s.link))

/-- The first failure of the feed was told, or none was. -/
theorem Sound.told_cases (h : s.Sound) :
    s.told = [] ∨ ∃ e, s.told = [e] ∧ s.supply.failures.head? = some e := by
  cases hw : s.link.watchesFailure with
  | true => exact .inl (h.untold hw)
  | false =>
    have htold := (h.known hw).1
    cases hs : s.supply.failures.head? with
    | none => exact .inl (by rw [htold, hs, Option.toList_none])
    | some e => exact .inr ⟨e, by rw [htold, hs, Option.toList_some], rfl⟩

theorem Sound.act_of_waiting (h : s.Sound) :
    (∀ start, (s.link.nextPass start).1 = .pending → s.act (.next start) = s) ∧
      (s.link.receive.1 = .pending → s.act .receive = s) ∧
      (s.link.ending.1 = .pending → s.act .ending = s) := by
  refine ⟨fun start hp => ?_, fun hp => ?_, fun hp => ?_⟩
  · have hr := h.tracks.next_round start
    rw [hp] at hr
    have hpass : s.link.nextPass start = (.pending, s.link) := Prod.ext hp hr.eq_of_pending
    simp only [Listening.act, hpass, note]
  · rcases s.link.receive_cases with ⟨log, rest, -, heq⟩ | heq | heq
    · simp [heq] at hp
    · simp only [Listening.act, heq]
    · simp [heq] at hp
  · rcases h.tracks.ending_cases with heq | ⟨heq, -, -⟩
    · simp only [Listening.act, heq]
    · simp [heq] at hp

/-- In every state that is reached, the logs were handed out in order and each once, at most one
failure was told, the first of the feed, and the listener is told that there is no more only when
that is so and the failure was told. -/
theorem failure_told_once (origin : Reading.Origin) (actions : List ListeningAction) :
    ((Listening.start origin).run actions).ToldOnce := by
  have h := (Sound.start origin).run actions
  refine ⟨h.queue, h.told_cases, fun start hover => ?_, h.act_of_waiting,
    fun start => ⟨note_next _ start, h.tracks.next_answers start⟩⟩
  rcases hover with hround | hcall
  · exact h.of_over hround
  · exact h.next_of_over hcall

/-- A feed that fails twice and goes away is heard of once, and then there is no more. -/
example (e e' : Error) :
    let s := (Listening.start (.live 1)).run
      [.feed (.fail e), .feed (.fail e'), .feed .dropLogs, .feed .dropFailure, .next 0, .ending]
    s.told = [e] ∧ (s.link.next 0).1 = .done (.ok none) :=
  ⟨rfl, rfl⟩

end Listening

end AbiBindings.Stream
