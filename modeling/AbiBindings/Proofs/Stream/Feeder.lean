import AbiBindings.Proofs.Stream.News

/-!
# A feed with logs to send

A feed that sends the logs it is offered one after the other, waiting for room, and is then
finished.

Results:
* `Feeder.turn_move`: all that one of its calls can do.
* `Feeder.turn_nearer`: a call changes nothing, or less is left to be done.
* `Feeder.Clean.turn`, `Feeder.Clean.turn_lt`: while nobody asks it to stop, no log is refused, and
  a call that finds room leaves less to be done.
-/

namespace AbiBindings.Stream

namespace Link

/-- What is left to be done about the logs in the queue, what the feed has not let go of, and
whether its end is still to be learned. -/
def weight (l : Link) : Nat :=
  3 * l.logs.items.length + l.hasFeed.toNat + l.watchesQuit.toNat + l.canFail.toNat +
    l.watchesFailure.toNat

theorem weight_learn {l : Link} (hl : l.canLearn = true) : l.learn.weight < l.weight := by
  have hw : l.watchesFailure = true := by
    rw [canLearn, Bool.and_eq_true] at hl
    exact hl.1
  simp only [weight, learn, hasFeed, hw, Bool.toNat_true, Bool.toNat_false]
  omega

/-- Each log that is taken from the queue leaves less to be done. -/
theorem weight_withItems {l : Link} {log : Log} {rest : List Log}
    (hi : l.logs.items = log :: rest) :
    (l.withItems rest).weight + 3 = l.weight := by
  simp only [weight, withItems, Link.hasFeed, hi, List.length_cons]
  omega

theorem Reads.weight_le {l l' : Link} (h : l.Reads l') : l'.weight ≤ l.weight := by
  cases h with
  | same => exact Nat.le_refl _
  | take log rest hi =>
    have hw := weight_withItems hi
    omega
  | learn hl => exact Nat.le_of_lt (weight_learn hl)

theorem weight_push (l : Link) (log : Log) : (l.push log).weight = l.weight + 3 := by
  simp only [weight, push, Link.hasFeed, Channel.push_items, Channel.push_hasSender,
    List.length_append, List.length_singleton]
  omega

theorem weight_noticeQuit_le (l : Link) : l.noticeQuit.weight ≤ l.weight := by
  simp only [weight, noticeQuit, Link.hasFeed, Bool.toNat_false]
  omega

theorem weight_dropLogs {l : Link} (hf : l.hasFeed = true) : l.dropLogs.weight + 1 = l.weight := by
  rw [hasFeed] at hf
  simp only [weight, dropLogs, hasFeed, hf, Channel.dropSender_items, Channel.dropSender_hasSender,
    Bool.toNat_true, Bool.toNat_false]
  omega

/-- A feed that has let go of its cells has nothing left to let go of. -/
theorem dropFailure_eq {l : Link} {s : Supply} (ht : l.Tracks s) (hw : l.watchesQuit = false)
    (hc : l.canFail = false) : l.dropFailure = l := by
  have hn : l.failure ≠ .waiting := fun h => by simp [ht.canFail.mpr h] at hc
  have ha : l.failure.abandon = l.failure := by
    cases hf : l.failure <;> simp_all [OneShot.abandon]
  obtain ⟨logs, failure, canFail, watchesFailure, quit, canQuit, watchesQuit, unsubscribes⟩ := l
  simp_all [dropFailure]

theorem weight_dropFailure {l : Link} (h : l.watchesQuit = true ∨ l.canFail = true) :
    l.dropFailure.weight < l.weight := by
  have hpos : 0 < l.watchesQuit.toNat + l.canFail.toNat := by
    rcases h with h | h <;> rw [h, Bool.toNat_true] <;> omega
  simp only [weight, dropFailure, hasFeed, Bool.toNat_false]
  omega

/-- A subscription that goes away leaves nothing to be done about the logs in the queue. -/
theorem weight_dropSubscription_le (l : Link) : l.dropSubscription.weight ≤ l.weight := by
  have hq : l.unsubscribe.watchesQuit = l.watchesQuit ∧ l.unsubscribe.canFail = l.canFail := by
    unfold unsubscribe
    split <;> exact ⟨rfl, rfl⟩
  simp only [weight, dropSubscription, hasFeed, unsubscribe_logs, hq.1, hq.2,
    Channel.dropReceiver_items, Channel.dropReceiver_hasSender, List.length_nil, Bool.toNat_false]
  omega

end Link

/-- A feed that sends the logs it is offered and is then finished. -/
structure Feeder where
  link : Link
  /-- What it has done so far. -/
  supply : Supply
  /-- The logs that are still to be sent. -/
  offers : List Log

namespace Feeder

/-- Its next call. -/
def call (f : Feeder) (start : Nat) : FeedAction :=
  match f.offers with
  | log :: _ => .send start log
  | [] => if f.link.hasFeed then .dropLogs else .dropFailure

/-- The logs that are still to be sent after a call. -/
def left (offers : List Log) : FeedOutcome → List Log
  | .accepted _ | .refused => offers.tail
  | .failed _ | .nothing => offers

/-- Makes the next call. -/
def turn (f : Feeder) (start : Nat) : Feeder :=
  let (outcome, l) := (f.call start).act f.link
  ⟨l, f.supply.note outcome, left f.offers outcome⟩

/-! ## What a call can do -/

/-- What the next call of a feed can do. -/
inductive Move (f : Feeder) : Feeder → Prop
  | wait (log : Log) (offers : List Log) (ho : f.offers = log :: offers)
      (hm : f.link.logs.hasRoom = false) : Move f f
  | refuse (log : Log) (offers : List Log) (ho : f.offers = log :: offers)
      (h : f.link.watchesQuit = false ∨ f.link.logs.hasReceiver = false) :
      Move f { f with offers := offers }
  | notice (log : Log) (offers : List Log) (ho : f.offers = log :: offers)
      (hq : f.link.quit.isSettled = true) : Move f ⟨f.link.noticeQuit, f.supply, offers⟩
  | accept (log : Log) (offers : List Log) (ho : f.offers = log :: offers) :
      Move f ⟨f.link.push log, f.supply.note (.accepted log), offers⟩
  | dropLogs (ho : f.offers = []) (hf : f.link.hasFeed = true) :
      Move f { f with link := f.link.dropLogs }
  | dropFailure (ho : f.offers = []) (hf : f.link.hasFeed = false) :
      Move f { f with link := f.link.dropFailure }

variable {f : Feeder}

theorem turn_move (ht : f.link.Tracks f.supply) (hoffers : f.link.hasFeed = false → f.offers = [])
    (start : Nat) : Move f (f.turn start) := by
  obtain ⟨l, s, offers⟩ := f
  cases hf : l.hasFeed with
  | false =>
    have ho : offers = [] := hoffers hf
    subst ho
    simp only [turn, call, FeedAction.act, hf, Bool.false_eq_true, if_false]
    exact .dropFailure rfl hf
  | true =>
    cases offers with
    | nil =>
      simp only [turn, call, FeedAction.act, hf, if_true]
      exact .dropLogs rfl hf
    | cons log offers =>
      simp only [turn, call, FeedAction.act, hf, if_true]
      have hmove := l.send_move start log
      generalize (l.send start log).1 = p at hmove ⊢
      generalize (l.send start log).2 = l' at hmove ⊢
      cases hmove with
      | wait hr hm => exact .wait log offers rfl hm
      | misuse hw hq => exact absurd hq (ht.watchesQuit hw)
      | refuse h => exact .refuse log offers rfl h
      | notice hq => exact .notice log offers rfl hq
      | accept hr => exact .accept log offers rfl

/-! ## What is left to be done -/

/-- What is left to be done: a log that is still to be sent is farther from its end than one in the
queue. -/
def weight (f : Feeder) : Nat := 4 * f.offers.length + f.link.weight

/-- A call leaves less to be done, or it finds no room or nothing to do and changes nothing. -/
theorem Move.nearer {f' : Feeder} (h : Move f f') (ht : f.link.Tracks f.supply) :
    f'.weight < f.weight ∨
      f' = f ∧ (f.link.logs.hasRoom = false ∨ f.link.hasFeed = false) := by
  cases h with
  | wait log offers ho hm => exact .inr ⟨rfl, .inl hm⟩
  | refuse log offers ho h =>
    left
    simp only [weight, ho, List.length_cons]
    omega
  | notice log offers ho hq =>
    left
    have hle := f.link.weight_noticeQuit_le
    simp only [weight, ho, List.length_cons]
    omega
  | accept log offers ho =>
    left
    simp only [weight, ho, List.length_cons, Link.weight_push]
    omega
  | dropLogs ho hf =>
    left
    have hlt := Link.weight_dropLogs hf
    simp only [weight]
    omega
  | dropFailure ho hf =>
    by_cases hkept : f.link.watchesQuit = true ∨ f.link.canFail = true
    · left
      have hlt := Link.weight_dropFailure hkept
      simp only [weight]
      omega
    · right
      simp only [not_or, Bool.not_eq_true] at hkept
      rw [Link.dropFailure_eq ht hkept.1 hkept.2]
      exact ⟨rfl, .inr hf⟩

/-- A feed that is finished has no logs to send. -/
theorem turn_finished (ht : f.link.Tracks f.supply)
    (hoffers : f.link.hasFeed = false → f.offers = []) (start : Nat) :
    (f.turn start).link.hasFeed = false → (f.turn start).offers = [] := by
  have hmove := turn_move ht hoffers start
  generalize f.turn start = f' at hmove ⊢
  cases hmove with
  | wait => exact hoffers
  | refuse log offers ho h => exact fun hf => absurd (ho.symm.trans (hoffers hf)) (by simp)
  | notice log offers ho hq => exact fun hf => absurd (ho.symm.trans (hoffers hf)) (by simp)
  | accept log offers ho => exact fun hf => absurd (ho.symm.trans (hoffers hf)) (by simp)
  | dropLogs ho hf => exact fun _ => ho
  | dropFailure ho hf => exact fun _ => ho

/-- A call changes nothing, or less is left to be done. -/
theorem turn_nearer (ht : f.link.Tracks f.supply)
    (hoffers : f.link.hasFeed = false → f.offers = []) (start : Nat) :
    f.turn start = f ∨ (f.turn start).weight < f.weight := by
  rcases (turn_move ht hoffers start).nearer ht with hlt | ⟨heq, -⟩
  · exact .inr hlt
  · exact .inl heq

/-! ## A feed that nobody asks to stop -/

/-- What holds while nobody has asked the feed to stop. -/
structure Clean (logs : List Log) (f : Feeder) : Prop where
  tracks : f.link.Tracks f.supply
  all : f.supply.accepted ++ f.offers = logs
  noFailure : f.supply.failures = []
  wanted : f.link.canQuit = true
  heeds : f.link.hasFeed = true → f.link.watchesQuit = true
  receiver : f.link.logs.hasReceiver = true
  finished : f.link.hasFeed = false → f.offers = []

namespace Clean

variable {logs : List Log}

theorem connect (capacity : Nat) (logs : List Log) :
    Clean logs ⟨.connect capacity, .empty, logs⟩ where
  tracks := .connect capacity
  all := rfl
  noFailure := rfl
  wanted := rfl
  heeds _ := rfl
  receiver := rfl
  finished h := by simp [Link.hasFeed, Link.connect, Channel.empty] at h

/-- The subscription may read meanwhile. -/
theorem reads (h : Clean logs f) {l : Link} (hl : f.link.Reads l) :
    Clean logs { f with link := l } := by
  have ht : l.Tracks f.supply := h.tracks.reads hl
  cases hl <;> exact ⟨ht, h.all, h.noFailure, h.wanted, h.heeds, h.receiver, h.finished⟩

/-- A finished feed has sent all logs. -/
theorem accepted_eq (h : Clean logs f) (hf : f.link.hasFeed = false) :
    f.supply.accepted = logs := by
  rw [← h.all, h.finished hf, List.append_nil]

theorem quit_not_settled (h : Clean logs f) : f.link.quit.isSettled = false := by
  rw [h.tracks.canQuit h.wanted]
  rfl

/-- No log is refused. -/
theorem not_refused (h : Clean logs f) (ho : f.offers ≠ []) :
    ¬ (f.link.watchesQuit = false ∨ f.link.logs.hasReceiver = false) := by
  have hf : f.link.hasFeed = true := by
    cases hf : f.link.hasFeed with
    | false => exact absurd (h.finished hf) ho
    | true => rfl
  simp [h.heeds hf, h.receiver]

theorem turn (h : Clean logs f) (start : Nat) : Clean logs (f.turn start) := by
  have hmove := turn_move h.tracks h.finished start
  generalize f.turn start = f' at hmove ⊢
  cases hmove with
  | wait => exact h
  | refuse log offers ho hn => exact absurd hn (h.not_refused (by simp [ho]))
  | notice log offers ho hq => exact absurd hq (by simp [h.quit_not_settled])
  | accept log offers ho =>
    have hf : f.link.hasFeed = true := by
      cases hf : f.link.hasFeed with
      | false => simp [h.finished hf] at ho
      | true => rfl
    refine ⟨h.tracks.move (.accept log hf h.receiver), ?_, h.noFailure, h.wanted, h.heeds,
      h.receiver, fun hf' => absurd (hf.symm.trans hf') (by simp)⟩
    rw [← h.all, ho, Supply.note, List.append_assoc]
    rfl
  | dropLogs ho hf =>
    exact ⟨h.tracks.move (.dropLogs hf), h.all, h.noFailure, h.wanted,
      fun hf' => by simp [Link.dropLogs, Link.hasFeed] at hf', h.receiver, fun _ => ho⟩
  | dropFailure ho hf =>
    exact ⟨h.tracks.move (.dropFailure hf), h.all, h.noFailure, h.wanted,
      fun hf' => absurd (hf.symm.trans hf') (by simp), h.receiver, fun _ => ho⟩

/-- A call that finds room leaves less to be done. -/
theorem turn_lt (h : Clean logs f) (hf : f.link.hasFeed = true) (hm : f.link.logs.hasRoom = true)
    (start : Nat) : (f.turn start).weight < f.weight := by
  rcases (turn_move h.tracks h.finished start).nearer h.tracks with hlt | ⟨-, hm' | hf'⟩
  · exact hlt
  · exact absurd (hm.symm.trans hm') (by simp)
  · exact absurd (hf.symm.trans hf') (by simp)

end Clean

end Feeder

end AbiBindings.Stream
