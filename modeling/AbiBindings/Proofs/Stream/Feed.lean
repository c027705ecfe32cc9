import AbiBindings.Proofs.Stream.Channel
import AbiBindings.Stream.Link

/-!
# What a feed does

The calls of a feed as data, with a record of what they have come to: the logs that were accepted
and the failures that were reported. A feed ends in two steps, and after the first of them no other
call is possible.

Results:
* `FeedAction.act_move`: all that one call of a feed can do to its link.
* `Link.Tracks.move`: the cells of a link go on telling what the feed has done.
* `Supply.note_accepted_prefix`: what was accepted stays accepted.
* `Link.run_fill`: a link to logs at hand is one whose feed has sent them and was finished.
-/

namespace AbiBindings.Stream

/-! ## Calls of a feed -/

/-- A call of a feed. Its end is the first step of letting go, then the second. -/
inductive FeedAction where
  | send (start : Nat) (log : Log)
  | trySend (log : Log)
  | fail (e : Error)
  | closed
  | isClosed
  | dropLogs
  | dropFailure

/-- What a call of a feed has come to. -/
inductive FeedOutcome where
  | accepted (log : Log)
  /-- The log was not accepted. -/
  | refused
  | failed (e : Error)
  /-- The call waits, or there is nothing to tell. -/
  | nothing

/-- Whether the feed has not been finished. -/
def Link.hasFeed (l : Link) : Bool := l.logs.hasSender

/-- What a send has come to. -/
def FeedOutcome.ofSend (log : Log) : Poll Bool → FeedOutcome
  | .ready true => .accepted log
  | .ready false => .refused
  | .pending | .misused => .nothing

/-- Makes a call. A feed that is being finished only lets go of its cells. -/
def FeedAction.act (a : FeedAction) (l : Link) : FeedOutcome × Link :=
  if l.hasFeed then
    match a with
    | .send start log => (.ofSend log (l.send start log).1, (l.send start log).2)
    | .trySend log => (.ofSend log (.ready (l.trySend log).1), (l.trySend log).2)
    | .fail e => (.failed e, l.fail e)
    | .closed => (.nothing, l.closed.2)
    | .isClosed => (.nothing, l.isClosed.2)
    | .dropLogs => (.nothing, l.dropLogs)
    | .dropFailure => (.nothing, l)
  else
    match a with
    | .dropFailure => (.nothing, l.dropFailure)
    | _ => (.nothing, l)

/-- What a feed has done, in order. -/
structure Supply where
  /-- The logs that were accepted. -/
  accepted : List Log
  /-- The failures that were reported. -/
  failures : List Error

/-- A feed that has done nothing. -/
def Supply.empty : Supply := ⟨[], []⟩

/-- Notes what a call has come to. -/
def Supply.note (s : Supply) : FeedOutcome → Supply
  | .accepted log => { s with accepted := s.accepted ++ [log] }
  | .failed e => { s with failures := s.failures ++ [e] }
  | .refused | .nothing => s

/-- Makes calls one after the other and notes what they come to. -/
def FeedAction.run (actions : List FeedAction) (p : Link × Supply) : Link × Supply :=
  actions.foldl (fun p a => ((a.act p.1).2, p.2.note (a.act p.1).1)) p

/-- The calls of a feed that sends logs at hand and is finished. -/
def FeedAction.fill (logs : List Log) : List FeedAction :=
  logs.map .trySend ++ [.dropLogs, .dropFailure]

theorem Supply.note_accepted_prefix (s : Supply) (o : FeedOutcome) :
    s.accepted <+: (s.note o).accepted := by
  cases o <;> simp [note]

theorem Supply.note_failures_prefix (s : Supply) (o : FeedOutcome) :
    s.failures <+: (s.note o).failures := by
  cases o <;> simp [note]

/-! ## All that a call can do -/

/-- The link when the feed has seen that it is to stop. -/
def Link.noticeQuit (l : Link) : Link := { l with quit := .taken, watchesQuit := false }

/-- The link with one more log in its queue. -/
def Link.push (l : Link) (log : Log) : Link := { l with logs := l.logs.push log }

/-- What a call can do to a link, and what it comes to. -/
inductive FeedMove (l : Link) : FeedOutcome → Link → Prop
  | rest : FeedMove l .nothing l
  | refuse : FeedMove l .refused l
  | notice (h : l.quit.isSettled = true) : FeedMove l .nothing l.noticeQuit
  | noticeRefuse (h : l.quit.isSettled = true) : FeedMove l .refused l.noticeQuit
  | accept (log : Log) (hf : l.hasFeed = true) (hr : l.logs.hasReceiver = true) :
      FeedMove l (.accepted log) (l.push log)
  | fail (e : Error) (hf : l.hasFeed = true) : FeedMove l (.failed e) (l.fail e)
  | dropLogs (hf : l.hasFeed = true) : FeedMove l .nothing l.dropLogs
  | dropFailure (hf : l.hasFeed = false) : FeedMove l .nothing l.dropFailure

namespace FeedMove

variable {l l' : Link} {o : FeedOutcome}

theorem watchesFailure_eq (h : FeedMove l o l') : l'.watchesFailure = l.watchesFailure := by
  cases h with
  | fail e hf => unfold Link.fail; split <;> rfl
  | _ => rfl

/-- Only the subscriber asks the feed to stop, and only it goes away. -/
theorem kept (h : FeedMove l o l') :
    l'.canQuit = l.canQuit ∧ l'.logs.hasReceiver = l.logs.hasReceiver := by
  cases h with
  | fail e hf => unfold Link.fail; split <;> exact ⟨rfl, rfl⟩
  | _ => exact ⟨rfl, rfl⟩

/-- What a feed has seen it does not forget. -/
theorem watchesQuit_eq_false (h : FeedMove l o l') (hw : l.watchesQuit = false) :
    l'.watchesQuit = false := by
  cases h with
  | fail e hf => unfold Link.fail; split <;> exact hw
  | notice | noticeRefuse | dropFailure => rfl
  | rest | refuse | accept | dropLogs => exact hw

/-- A feed that is finished stays so. -/
theorem hasFeed_eq_false (h : FeedMove l o l') (hf : l.hasFeed = false) : l'.hasFeed = false := by
  cases h with
  | fail e hf' => simp [hf] at hf'
  | dropLogs hf' => rfl
  | _ => exact hf

/-- A feed that is finished accepts and reports nothing more. -/
theorem note_of_finished (h : FeedMove l o l') (hf : l.hasFeed = false) (s : Supply) :
    s.note o = s := by
  cases h with
  | accept log hf' _ => simp [hf] at hf'
  | fail e hf' => simp [hf] at hf'
  | _ => rfl

/-- What is in the queue goes on being what was accepted after the first logs. -/
theorem items_eq_drop (h : FeedMove l o l') {s : Supply} {n : Nat} (hn : n ≤ s.accepted.length)
    (hi : l.logs.items = s.accepted.drop n) : l'.logs.items = (s.note o).accepted.drop n := by
  cases h with
  | accept log hf hr =>
    simp only [Link.push, Channel.push, Supply.note, hi]
    rw [List.drop_append_of_le_length hn]
  | fail e hf => unfold Link.fail; split <;> exact hi
  | _ => exact hi

/-- What was taken from the queue goes on coming before what is there. -/
theorem append_items_eq (h : FeedMove l o l') {s : Supply} {taken : List Log}
    (hi : taken ++ l.logs.items = s.accepted) : taken ++ l'.logs.items = (s.note o).accepted := by
  cases h with
  | accept log hf hr =>
    simp only [Link.push, Channel.push_items, Supply.note, ← hi, List.append_assoc]
  | fail e hf => unfold Link.fail; split <;> exact hi
  | _ => exact hi

end FeedMove

namespace Link

/-- What a send can do, and what it comes to. -/
inductive SendMove (l : Link) (log : Log) : Poll Bool → Link → Prop
  | wait (hr : l.logs.hasReceiver = true) (hm : l.logs.hasRoom = false) : SendMove l log .pending l
  | misuse (hw : l.watchesQuit = true) (hq : l.quit = .taken) : SendMove l log .misused l
  | refuse (h : l.watchesQuit = false ∨ l.logs.hasReceiver = false) :
      SendMove l log (.ready false) l
  | notice (hq : l.quit.isSettled = true) : SendMove l log (.ready false) l.noticeQuit
  | accept (hr : l.logs.hasReceiver = true) : SendMove l log (.ready true) (l.push log)

theorem quitArm_move {l l' : Link} {log : Log} {p : Poll Bool} (hw : l.watchesQuit = true)
    (h : l.quitArm = some (p, l')) : SendMove l log p l' := by
  unfold quitArm OneShot.poll at h
  cases hq : l.quit with
  | waiting => simp [hq] at h
  | taken =>
    simp only [hq, Option.some.injEq, Prod.mk.injEq] at h
    obtain ⟨rfl, rfl⟩ := h
    exact .misuse hw hq
  | sent | abandoned =>
    simp only [hq, Option.some.injEq, Prod.mk.injEq] at h
    obtain ⟨rfl, rfl⟩ := h
    exact .notice (by simp [hq, OneShot.isSettled])

theorem sendArm_move {l l' : Link} {log : Log} {p : Poll Bool}
    (h : l.sendArm log = some (p, l')) : SendMove l log p l' := by
  unfold sendArm Channel.pollSend at h
  cases hr : l.logs.hasReceiver with
  | false =>
    simp only [hr, Bool.not_false, if_true, Option.some.injEq, Prod.mk.injEq] at h
    obtain ⟨rfl, rfl⟩ := h
    exact .refuse (.inr hr)
  | true =>
    cases hm : l.logs.hasRoom with
    | false => simp [hr, hm] at h
    | true =>
      simp only [hr, hm, Bool.not_true, Bool.false_eq_true, if_false, if_true, Option.some.injEq,
        Prod.mk.injEq] at h
      obtain ⟨rfl, rfl⟩ := h
      exact .accept hr

theorem sendArm_none_iff (l : Link) (log : Log) :
    l.sendArm log = none ↔ l.logs.hasReceiver = true ∧ l.logs.hasRoom = false := by
  unfold sendArm Channel.pollSend
  cases l.logs.hasReceiver <;> cases l.logs.hasRoom <;> simp

theorem send_move (l : Link) (start : Nat) (log : Log) :
    SendMove l log (l.send start log).1 (l.send start log).2 := by
  unfold send
  cases hw : l.watchesQuit with
  | false => exact .refuse (.inl hw)
  | true =>
    simp only [Bool.not_true, Bool.false_eq_true, if_false]
    cases hs : select start [quitArm, sendArm log] l with
    | none =>
      obtain ⟨hr, hm⟩ := (sendArm_none_iff l log).mp (select_none_iff.mp hs _ (by simp))
      exact .wait hr hm
    | some r =>
      obtain ⟨p, l'⟩ := r
      obtain ⟨arm, hmem, harm⟩ := select_some_mem hs
      simp only [List.mem_cons, List.not_mem_nil, or_false] at hmem
      rcases hmem with rfl | rfl
      · exact quitArm_move hw harm
      · exact sendArm_move harm

theorem SendMove.feedMove {l l' : Link} {log : Log} {p : Poll Bool} (h : SendMove l log p l')
    (hf : l.hasFeed = true) : FeedMove l (.ofSend log p) l' := by
  cases h with
  | wait => exact .rest
  | misuse => exact .rest
  | refuse => exact .refuse
  | notice hq => exact .noticeRefuse hq
  | accept hr => exact .accept log hf hr

theorem trySend_cases (l : Link) (log : Log) :
    l.trySend log = (false, l) ∨
      l.trySend log = (true, l.push log) ∧ l.logs.hasReceiver = true := by
  unfold trySend Channel.trySend
  by_cases hr : l.logs.hasReceiver = true <;> by_cases hm : l.logs.hasRoom = true <;>
    simp [hr, hm, push]

theorem closed_cases (l : Link) :
    l.closed.2 = l ∨ l.closed.2 = l.noticeQuit ∧ l.quit.isSettled = true := by
  unfold closed OneShot.poll
  cases hq : l.quit <;> cases hw : l.watchesQuit <;> simp [noticeQuit, OneShot.isSettled]

theorem isClosed_snd (l : Link) : l.isClosed.2 = l.closed.2 ∨ l.isClosed.2 = l := by
  unfold isClosed
  split <;> simp [*]

end Link

theorem FeedAction.act_move (a : FeedAction) (l : Link) :
    FeedMove l (a.act l).1 (a.act l).2 := by
  unfold FeedAction.act
  split
  case isTrue hf =>
    cases a with
    | send start log => exact (l.send_move start log).feedMove hf
    | trySend log =>
      rcases l.trySend_cases log with h | ⟨h, hr⟩ <;> simp only [h, FeedOutcome.ofSend]
      · exact .refuse
      · exact .accept log hf hr
    | fail e => exact .fail e hf
    | closed =>
      rcases l.closed_cases with h | ⟨h, hq⟩ <;> simp only [h]
      · exact .rest
      · exact .notice hq
    | isClosed =>
      rcases l.isClosed_snd with h | h <;> simp only [h]
      · rcases l.closed_cases with h | ⟨h, hq⟩ <;> simp only [h]
        · exact .rest
        · exact .notice hq
      · exact .rest
    | dropLogs => exact .dropLogs hf
    | dropFailure => exact .rest
  case isFalse hf =>
    cases a with
    | dropFailure => exact .dropFailure (by simpa using hf)
    | _ => exact .rest

@[simp] theorem Link.unsubscribe_logs (l : Link) : l.unsubscribe.logs = l.logs := by
  unfold Link.unsubscribe
  split <;> rfl

@[simp] theorem Link.unsubscribe_hasFeed (l : Link) : l.unsubscribe.hasFeed = l.hasFeed := by
  simp [Link.hasFeed]

@[simp] theorem Link.unsubscribe_watchesFailure (l : Link) :
    l.unsubscribe.watchesFailure = l.watchesFailure := by
  unfold Link.unsubscribe
  split <;> rfl

@[simp] theorem Link.dropSubscription_hasFeed (l : Link) :
    l.dropSubscription.hasFeed = l.hasFeed := by
  simp [Link.dropSubscription, Link.hasFeed]

/-! ## What the cells of a link tell -/

/-- The cells of a link tell what its feed has done. -/
structure Link.Tracks (l : Link) (s : Supply) : Prop where
  capacity : 0 < l.logs.capacity
  sent : ∀ e, l.failure = .sent e → s.failures.head? = some e
  unsent : l.failure = .waiting ∨ l.failure = .abandoned → s.failures = []
  canFail : l.canFail = true ↔ l.failure = .waiting
  abandoned : l.failure = .abandoned → l.hasFeed = false
  /-- The outcome is asked for only while it has not been handed out. -/
  watches : l.watchesFailure = true → l.failure ≠ .taken
  canQuit : l.canQuit = true → l.quit = .waiting
  watchesQuit : l.watchesQuit = true → l.quit ≠ .taken

namespace Link.Tracks

theorem connect (capacity : Nat) : (Link.connect capacity).Tracks .empty := by
  have hc : 0 < max capacity 1 := by omega
  refine ⟨hc, ?_, ?_, ?_, ?_, ?_, ?_, ?_⟩ <;> simp [Link.connect, Supply.empty]

theorem fail {l : Link} {s : Supply} (h : l.Tracks s) (hf : l.hasFeed = true) (e : Error) :
    (l.fail e).Tracks (s.note (.failed e)) := by
  obtain ⟨h1, h2, h3, h4, h5, h6, h7, h8⟩ := h
  unfold Link.fail
  split
  case isTrue hc =>
    have hw := h4.mp hc
    have hs : s.failures = [] := h3 (.inl hw)
    constructor <;> simp_all [Supply.note, OneShot.send]
  case isFalse hc =>
    have hw : l.failure ≠ .waiting := fun hw => hc (h4.mpr hw)
    have ha : l.failure ≠ .abandoned := fun ha => by simp [h5 ha] at hf
    refine ⟨h1, fun e' he => ?_, by simp [hw, ha], h4, h5, h6, h7, h8⟩
    simp [Supply.note, List.head?_append, h2 e' he]

theorem dropFailure {l : Link} {s : Supply} (h : l.Tracks s) (hf : l.hasFeed = false) :
    l.dropFailure.Tracks s := by
  obtain ⟨h1, h2, h3, h4, h5, h6, h7, h8⟩ := h
  cases hc : l.failure <;> constructor <;>
    simp_all [Link.dropFailure, OneShot.abandon, Link.hasFeed]

theorem noticeQuit {l : Link} {s : Supply} (h : l.Tracks s) (hq : l.quit.isSettled = true) :
    l.noticeQuit.Tracks s := by
  obtain ⟨h1, h2, h3, h4, h5, h6, h7, h8⟩ := h
  refine ⟨h1, h2, h3, h4, h5, h6, fun hc => ?_, by simp [Link.noticeQuit]⟩
  rw [h7 hc] at hq
  simp [OneShot.isSettled] at hq

theorem unsubscribe {l : Link} {s : Supply} (h : l.Tracks s) : l.unsubscribe.Tracks s := by
  obtain ⟨h1, h2, h3, h4, h5, h6, h7, h8⟩ := h
  unfold Link.unsubscribe
  split
  · exact ⟨h1, h2, h3, h4, h5, h6, by simp, fun hw => OneShot.send_ne_taken (h8 hw) ()⟩
  · exact ⟨h1, h2, h3, h4, h5, h6, h7, h8⟩

theorem dropSubscription {l : Link} {s : Supply} (h : l.Tracks s) :
    l.dropSubscription.Tracks s := by
  obtain ⟨h1, h2, h3, h4, h5, h6, h7, h8⟩ := h.unsubscribe
  exact ⟨h1, h2, h3, h4, h5, by simp [Link.dropSubscription], h7, h8⟩

/-- A call of the feed keeps the cells telling. -/
theorem move {l l' : Link} {s : Supply} {o : FeedOutcome} (h : l.Tracks s)
    (hm : FeedMove l o l') : l'.Tracks (s.note o) := by
  cases hm with
  | rest => exact h
  | refuse => exact h
  | notice hq => exact h.noticeQuit hq
  | noticeRefuse hq => exact h.noticeQuit hq
  | accept log hf hr => exact ⟨h.1, h.2, h.3, h.4, h.5, h.6, h.7, h.8⟩
  | fail e hf => exact h.fail hf e
  | dropLogs hf => exact ⟨h.1, h.2, h.3, h.4, fun _ => rfl, h.6, h.7, h.8⟩
  | dropFailure hf => exact h.dropFailure hf

/-- Any calls of the feed keep the cells telling. -/
theorem run {l : Link} {s : Supply} (h : l.Tracks s) (actions : List FeedAction) :
    (FeedAction.run actions (l, s)).1.Tracks (FeedAction.run actions (l, s)).2 := by
  induction actions generalizing l s with
  | nil => exact h
  | cons a actions ih => exact ih (h.move (a.act_move l))

end Link.Tracks

/-! ## Logs at hand -/

namespace Link

theorem trySend_of_hasRoom {l : Link} (hr : l.logs.hasReceiver = true)
    (hm : l.logs.hasRoom = true) (log : Log) : l.trySend log = (true, l.push log) := by
  simp [trySend, Channel.trySend, hr, hm, push]

/-- A feed whose queue has room for all logs sends them all. -/
theorem run_trySend (logs : List Log) :
    ∀ (l : Link) (s : Supply), l.hasFeed = true → l.logs.hasReceiver = true →
      l.logs.items.length + logs.length ≤ l.logs.capacity →
      FeedAction.run (logs.map .trySend) (l, s) =
        (logs.foldl (fun l log => (l.trySend log).2) l, { s with accepted := s.accepted ++ logs }) ∧
      logs.foldl (fun l log => (l.trySend log).2) l =
        { l with logs := { l.logs with items := l.logs.items ++ logs } } := by
  induction logs with
  | nil => intro l s _ _ _; simp [FeedAction.run]
  | cons log logs ih =>
    intro l s hf hr hc
    rw [List.length_cons] at hc
    have hm : l.logs.hasRoom = true := by simp [Channel.hasRoom]; omega
    have hsend := trySend_of_hasRoom hr hm log
    have hact : (FeedAction.trySend log).act l = (.accepted log, l.push log) := by
      simp [FeedAction.act, hf, hsend, FeedOutcome.ofSend]
    obtain ⟨h1, h2⟩ := ih (l.push log) (s.note (.accepted log)) hf hr (by simp [push]; omega)
    simp only [FeedAction.run, List.map_cons, List.foldl_cons, hact, hsend] at h1 ⊢
    rw [h1, h2]
    simp [push, Channel.push, Supply.note]

/-- A new link has room for as many logs as it was made for. -/
theorem items_connect_le (n : Nat) :
    (connect n).logs.items.length + n ≤ (connect n).logs.capacity := by
  simp only [connect, Channel.empty, List.length_nil]
  omega

/-- The link of logs at hand is what a feed leaves that has sent them and was finished. -/
theorem run_fill (logs : List Log) :
    FeedAction.run (FeedAction.fill logs) (.connect logs.length, .empty) =
      (.ofLogs logs, ⟨logs, []⟩) := by
  obtain ⟨h1, h2⟩ := run_trySend logs (.connect logs.length) .empty rfl rfl (items_connect_le _)
  rw [FeedAction.run] at h1
  rw [FeedAction.run, FeedAction.fill, List.foldl_append, h1, ofLogs, h2]
  rfl

theorem ofLogs_eq (logs : List Log) :
    ofLogs logs = { (connect logs.length).finish with
      logs := ⟨max logs.length 1, logs, false, true⟩ } := by
  obtain ⟨-, h⟩ := run_trySend logs (.connect logs.length) .empty rfl rfl (items_connect_le _)
  rw [ofLogs, h]
  rfl

end Link

end AbiBindings.Stream
