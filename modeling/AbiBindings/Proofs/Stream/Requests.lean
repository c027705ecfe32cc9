import AbiBindings.Contract
import AbiBindings.Proofs.Stream.Listening
import AbiBindings.Proofs.Stream.WatchRuns
import Mathlib.Logic.Relation

/-!
# Requests to stop

A feed is asked to stop by its subscriber, whoever that is and for whatever reason. It is asked at
most once, and once it has seen the request it sees it for good.

Results:
* `Link.Counts.later`: the count of requests, the request and what the feed has seen of it agree
  whatever the two sides do.
* `Link.Counts.tells`: a feed that knows of the request is told so by each of its calls that ask.
* `Drives.asksOnce`: whatever has a link and does to it only what the two sides can do asks once.
* `one_request`: a subscription, an iterator and the task of a watch.
-/

namespace AbiBindings.Stream

/-! ## What a feed is told -/

namespace FeedAction

/-- Whether a call tells the feed that it is to stop. -/
def TellsStop (a : FeedAction) (l : Link) : Prop :=
  match a with
  | .send start log => (l.send start log).1 = .ready false
  | .closed => l.closed.1 = .ready ()
  | .isClosed => l.isClosed.1 = true
  | .trySend _ | .fail _ | .dropLogs | .dropFailure => False

/-- Whether a call can tell the feed that it is to stop. -/
def asksStop : FeedAction → Bool
  | .send _ _ | .closed | .isClosed => true
  | .trySend _ | .fail _ | .dropLogs | .dropFailure => false

end FeedAction

namespace Link

/-- Whether the feed has seen that it is to stop, or has nobody to send to. -/
def KnowsStop (l : Link) : Prop := l.watchesQuit = false ∨ l.logs.hasReceiver = false

/-- The count of requests, the request and what the feed has seen of it agree. -/
structure Counts (l : Link) : Prop where
  count : l.unsubscribes = (!l.canQuit).toNat
  unasked : l.canQuit = true → l.quit = .waiting
  asked : l.canQuit = false → l.quit.isSettled = true
  /-- A feed sees no request that was not made. -/
  heeds : l.hasFeed = true → l.watchesQuit = false → l.canQuit = false
  /-- The request is looked at only while it was not seen. -/
  unseen : l.watchesQuit = true → l.quit ≠ .taken
  /-- A subscription that goes away asks first. -/
  receiver : l.logs.hasReceiver = false → l.canQuit = false

/-- What the feed or the subscriber can do to a link. -/
inductive Change (l : Link) : Link → Prop
  | feed (o : FeedOutcome) (l' : Link) (hm : FeedMove l o l') : Change l l'
  | read (l' : Link) (hr : l.Reads l') : Change l l'
  | unsubscribe : Change l l.unsubscribe
  | drop : Change l l.dropSubscription

/-- What a link can become. -/
abbrev Later : Link → Link → Prop := Relation.ReflTransGen Change

/-- What every change keeps holds of all that a link can become. -/
theorem Later.keeps {l l' : Link} (hl : l.Later l') {p : Link → Prop} (here : p l)
    (change : ∀ l l', p l → l.Change l' → p l') : p l' := by
  induction hl with
  | refl => exact here
  | tail _ hc ih => exact change _ _ ih hc

@[simp] theorem unsubscribe_canQuit (l : Link) : l.unsubscribe.canQuit = false := by
  cases hc : l.canQuit <;> simp [Link.unsubscribe, hc]

namespace Counts

variable {l l' : Link}

theorem connect (capacity : Nat) : (Link.connect capacity).Counts where
  count := rfl
  unasked _ := rfl
  asked hc := by cases hc
  heeds _ hw := by cases hw
  unseen _ hq := by cases hq
  receiver hr := by cases hr

/-- A request that is there was made. -/
theorem canQuit_of_settled (h : l.Counts) (hq : l.quit.isSettled = true) : l.canQuit = false := by
  cases hc : l.canQuit with
  | false => rfl
  | true => simp [h.unasked hc, OneShot.isSettled] at hq

/-- Who touches neither the request nor what was seen of it leaves the count right. -/
theorem untouched (h : l.Counts) (hu : l'.unsubscribes = l.unsubscribes)
    (hc : l'.canQuit = l.canQuit) (hq : l'.quit = l.quit) (hw : l'.watchesQuit = l.watchesQuit)
    (hr : l'.logs.hasReceiver = l.logs.hasReceiver)
    (hf : l'.hasFeed = true → l.hasFeed = true) : l'.Counts where
  count := by rw [hu, hc, h.count]
  unasked hc' := hq.trans (h.unasked (hc.symm.trans hc'))
  asked hc' := (congrArg OneShot.isSettled hq).trans (h.asked (hc.symm.trans hc'))
  heeds hf' hw' := hc.trans (h.heeds (hf hf') (hw.symm.trans hw'))
  unseen hw' := hq ▸ h.unseen (hw.symm.trans hw')
  receiver hr' := hc.trans (h.receiver (hr.symm.trans hr'))

theorem noticeQuit (h : l.Counts) (hq : l.quit.isSettled = true) : l.noticeQuit.Counts where
  count := h.count
  unasked hc := absurd ((h.canQuit_of_settled hq).symm.trans hc) (by simp)
  asked _ := rfl
  heeds _ _ := h.canQuit_of_settled hq
  unseen hw := by cases hw
  receiver _ := h.canQuit_of_settled hq

theorem feed (h : l.Counts) {o : FeedOutcome} (hm : FeedMove l o l') : l'.Counts := by
  cases hm with
  | rest => exact h
  | refuse => exact h
  | notice hq => exact h.noticeQuit hq
  | noticeRefuse hq => exact h.noticeQuit hq
  | accept log hf hr => exact h.untouched rfl rfl rfl rfl rfl id
  | fail e hf => unfold Link.fail; split <;> exact h.untouched rfl rfl rfl rfl rfl id
  | dropLogs hf => exact h.untouched rfl rfl rfl rfl rfl fun hf' => (by cases hf')
  | dropFailure hf =>
    refine ⟨h.1, h.2, h.3, fun hf' => ?_, fun hw => (by cases hw), h.6⟩
    exact absurd (hf.symm.trans hf') (by simp)

theorem unsubscribe (h : l.Counts) : l.unsubscribe.Counts := by
  unfold Link.unsubscribe
  split
  case isTrue hc =>
    have hq := h.unasked hc
    refine ⟨?_, by simp, fun _ => ?_, fun _ _ => rfl, fun _ => ?_, fun _ => rfl⟩
    · simp [h.count, hc]
    · simp [hq, OneShot.send, OneShot.isSettled]
    · simp [hq, OneShot.send]
  case isFalse => exact h

theorem drop (h : l.Counts) : l.dropSubscription.Counts := by
  have hu := h.unsubscribe
  exact ⟨hu.1, hu.2, hu.3, hu.4, hu.5, fun _ => unsubscribe_canQuit l⟩

theorem change (h : l.Counts) (hc : l.Change l') : l'.Counts := by
  cases hc with
  | feed o l' hm => exact h.feed hm
  | read l' hr => cases hr <;> exact h.untouched rfl rfl rfl rfl rfl id
  | unsubscribe => exact h.unsubscribe
  | drop => exact h.drop

/-- Whatever the two sides do, count, request and what was seen of it agree. -/
theorem later (h : l.Counts) (hl : l.Later l') : l'.Counts :=
  hl.keeps h fun _ _ h hc => h.change hc

/-- The feed was asked to stop once or not at all. -/
theorem unsubscribes_eq_one_iff (h : l.Counts) : l.unsubscribes = 1 ↔ l.canQuit = false := by
  rw [h.count]
  cases l.canQuit <;> simp

theorem unsubscribes_le (h : l.Counts) : l.unsubscribes ≤ 1 := by
  rw [h.count]
  exact Bool.toNat_le _

end Counts

/-! ## What the feed knows -/

namespace KnowsStop

variable {l l' : Link}

theorem drop (l : Link) : l.dropSubscription.KnowsStop := .inr rfl

theorem change (h : l.KnowsStop) (hc : l.Change l') : l'.KnowsStop := by
  cases hc with
  | feed o l' hm => exact h.imp hm.watchesQuit_eq_false hm.kept.2.trans
  | read l' hr => cases hr <;> exact h
  | unsubscribe =>
    unfold Link.unsubscribe
    split <;> exact h
  | drop => exact .drop l

/-- Whatever the two sides do, a feed that knows of the request goes on knowing of it. -/
theorem later (h : l.KnowsStop) (hl : l.Later l') : l'.KnowsStop :=
  hl.keeps h fun _ _ h hc => h.change hc

end KnowsStop

namespace Counts

variable {l : Link}

theorem closed_of_knows (h : l.Counts) (hk : l.KnowsStop) : l.closed.1 = .ready () := by
  unfold closed
  cases hw : l.watchesQuit with
  | false => rfl
  | true =>
    have hr : l.logs.hasReceiver = false := by simpa [KnowsStop, hw] using hk
    have hset := h.asked (h.receiver hr)
    have hseen := h.unseen hw
    cases hq : l.quit <;> simp_all [OneShot.poll, OneShot.isSettled]

theorem send_of_knows (h : l.Counts) (hk : l.KnowsStop) (start : Nat) (log : Log) :
    (l.send start log).1 = .ready false := by
  cases hw : l.watchesQuit with
  | false => simp [send, hw]
  | true =>
    have hr : l.logs.hasReceiver = false := by simpa [KnowsStop, hw] using hk
    have hm := l.send_move start log
    generalize (l.send start log).1 = p, (l.send start log).2 = l' at hm ⊢
    cases hm with
    | wait hr' => simp [hr] at hr'
    | misuse _ hq => exact absurd hq (h.unseen hw)
    | accept hr' => simp [hr] at hr'
    | refuse | notice => rfl

/-- A feed that knows of the request is told so by each of its calls that ask. -/
theorem tells (h : l.Counts) (hk : l.KnowsStop) {a : FeedAction} (ha : a.asksStop = true) :
    a.TellsStop l := by
  cases a with
  | send start log => exact h.send_of_knows hk start log
  | closed => exact h.closed_of_knows hk
  | isClosed =>
    have hc := h.closed_of_knows hk
    show l.isClosed.1 = true
    unfold isClosed
    rcases hp : l.closed with ⟨p, l'⟩
    rw [hp] at hc
    obtain rfl : p = .ready () := hc
    rfl
  | trySend | fail | dropLogs | dropFailure => cases ha

/-- A feed that knows of a request before it is finished knows of one that was made. -/
theorem canQuit_of_knows (h : l.Counts) (hf : l.hasFeed = true) (hk : l.KnowsStop) :
    l.canQuit = false :=
  hk.elim (h.heeds hf) h.receiver

end Counts

/-- A call that waits for the request and comes back has seen it, now or before. -/
theorem closed_of_ready {l : Link} (h : l.closed.1 = .ready ()) :
    (l.watchesQuit = false ∧ l.closed.2 = l) ∨
      (l.quit.isSettled = true ∧ l.closed.2 = l.noticeQuit) := by
  unfold closed at h ⊢
  cases hw : l.watchesQuit with
  | false => exact .inl ⟨rfl, rfl⟩
  | true =>
    right
    cases hq : l.quit <;> simp_all [OneShot.poll, OneShot.isSettled, noticeQuit]

theorem isClosed_of_true {l : Link} (h : l.isClosed.1 = true) :
    l.closed.1 = .ready () ∧ l.isClosed.2 = l.closed.2 := by
  unfold isClosed at h ⊢
  rcases hp : l.closed with ⟨p, l'⟩
  rw [hp] at h
  cases p with
  | ready value => exact ⟨rfl, rfl⟩
  | pending | misused => cases h

namespace Counts

variable {l : Link}

theorem knows_of_closed (h : l.Counts) (hf : l.hasFeed = true) (hc : l.closed.1 = .ready ()) :
    l.canQuit = false ∧ l.closed.2.KnowsStop := by
  rcases closed_of_ready hc with ⟨hw, heq⟩ | ⟨hq, heq⟩ <;> rw [heq]
  · exact ⟨h.heeds hf hw, .inl hw⟩
  · exact ⟨h.canQuit_of_settled hq, .inl rfl⟩

theorem knows_of_send (h : l.Counts) (hf : l.hasFeed = true) {start : Nat} {log : Log}
    (hs : (l.send start log).1 = .ready false) :
    l.canQuit = false ∧ (l.send start log).2.KnowsStop := by
  have hm := l.send_move start log
  rw [hs] at hm
  generalize (l.send start log).2 = l' at hm ⊢
  cases hm with
  | refuse hk => exact ⟨h.canQuit_of_knows hf hk, hk⟩
  | notice hq => exact ⟨h.canQuit_of_settled hq, .inl rfl⟩

/-- A feed that is told to stop was asked to, and knows it from then on. -/
theorem knows_of_tells (h : l.Counts) (hf : l.hasFeed = true) {a : FeedAction}
    (ht : a.TellsStop l) : l.canQuit = false ∧ (a.act l).2.KnowsStop := by
  cases a with
  | send start log =>
    simp only [FeedAction.act, hf, if_true]
    exact h.knows_of_send hf ht
  | closed =>
    simp only [FeedAction.act, hf, if_true]
    exact h.knows_of_closed hf ht
  | isClosed =>
    obtain ⟨hc, heq⟩ := isClosed_of_true ht
    simp only [FeedAction.act, hf, if_true, heq]
    exact h.knows_of_closed hf hc
  | trySend | fail | dropLogs | dropFailure => exact ht.elim

end Counts

/-- A request that was made stays made. -/
theorem Later.canQuit_eq_false {l l' : Link} (hl : l.Later l') (hq : l.canQuit = false) :
    l'.canQuit = false := by
  refine hl.keeps (p := fun l => l.canQuit = false) hq ?_
  intro l₁ l₂ hq₁ hc
  cases hc with
  | feed o l' hm => exact hm.kept.1.trans hq₁
  | read l' hr => cases hr <;> exact hq₁
  | unsubscribe => exact unsubscribe_canQuit l₁
  | drop => exact unsubscribe_canQuit l₁

theorem Reads.canQuit_eq {l l' : Link} (h : l.Reads l') : l'.canQuit = l.canQuit := by
  cases h <;> rfl

/-- Calls of the feed alone. -/
theorem later_run (l : Link) (s : Supply) (actions : List FeedAction) :
    l.Later (FeedAction.run actions (l, s)).1 := by
  induction actions generalizing l s with
  | nil => exact .refl
  | cons a actions ih => exact .head (.feed _ _ (a.act_move l)) (ih _ _)

end Link

/-! ## Requests of a subscriber -/

/-- A feed is asked to stop at most once, and what it has seen of that it sees for good. The link is
that of a system after some actions, of which some are calls of the feed; whether it was asked to
stop is told by the actions. -/
structure AsksOnce (link : List α → Link) (feed : FeedAction → α) (asked : List α → Prop) :
    Prop where
  atMostOnce : ∀ actions, (link actions).unsubscribes ≤ 1
  count_iff : ∀ actions, (link actions).unsubscribes = 1 ↔ asked actions
  unsubscribed_iff : ∀ actions,
    (link actions).isUnsubscribed = true ↔ (link actions).unsubscribes = 1
  /-- A feed that is told to stop was asked to, and is told so again by every later call that
  asks. -/
  seen : ∀ (first : List α) (a : FeedAction), (link first).hasFeed = true →
    a.TellsStop (link first) → (link first).unsubscribes = 1 ∧
      ∀ (rest : List α) (b : FeedAction), b.asksStop = true →
        b.TellsStop (link (first ++ feed a :: rest))

/-- The subscriber is gone: the feed was asked to stop, and every call that asks tells it so,
whatever it has done since. -/
def Link.LeftAsked (l : Link) : Prop :=
  ∀ (more : List FeedAction) (s : Supply), (FeedAction.run more (l, s)).1.unsubscribes = 1 ∧
    ∀ a : FeedAction, a.asksStop = true → a.TellsStop (FeedAction.run more (l, s)).1

theorem Link.Counts.leftAsked {l : Link} (h : l.Counts) (hr : l.logs.hasReceiver = false) :
    l.LeftAsked := by
  intro more s
  have hl := l.later_run s more
  have hc := h.later hl
  have hk : l.KnowsStop := .inr hr
  refine ⟨hc.unsubscribes_eq_one_iff.mpr ?_, fun a ha => hc.tells (hk.later hl) ha⟩
  exact Link.Later.canQuit_eq_false hl (h.receiver hr)

theorem Link.Counts.ofLogs (logs : List Log) : (Link.ofLogs logs).Counts := by
  have hl := (Link.connect logs.length).later_run .empty (FeedAction.fill logs)
  rw [Link.run_fill] at hl
  exact (Link.Counts.connect logs.length).later hl

/-! ## Systems with a link -/

/-- A system that does to its link only what a feed and a subscriber can do. -/
structure Drives (step : σ → α → σ) (link : σ → Link) (feed : FeedAction → α) (inv : σ → Prop) :
    Prop where
  keeps : ∀ s a, inv s → inv (step s a)
  later : ∀ s a, inv s → (link s).Later (link (step s a))
  call : ∀ s a, link (step s (feed a)) = (a.act (link s)).2

namespace Drives

variable {step : σ → α → σ} {link : σ → Link} {feed : FeedAction → α} {inv : σ → Prop} {s : σ}

theorem run (h : Drives step link feed inv) (hs : inv s) (actions : List α) :
    inv (actions.foldl step s) ∧ (link s).Later (link (actions.foldl step s)) := by
  induction actions generalizing s with
  | nil => exact ⟨hs, .refl⟩
  | cons a actions ih => exact (ih (h.keeps s a hs)).imp id (h.later s a hs).trans

theorem counts (h : Drives step link feed inv) (hs : inv s) (hc : (link s).Counts)
    (actions : List α) : (link (actions.foldl step s)).Counts :=
  hc.later (h.run hs actions).2

/-- If one action is the request, and no other, it was made if that action was done. -/
theorem asked_iff (h : Drives step link feed inv) {request : α}
    (hstep : ∀ s a, inv s →
      ((link (step s a)).canQuit = false ↔ (link s).canQuit = false ∨ request = a))
    (hs : inv s) (actions : List α) :
    (link (actions.foldl step s)).canQuit = false ↔
      (link s).canQuit = false ∨ request ∈ actions := by
  induction actions generalizing s with
  | nil => simp
  | cons a actions ih =>
    rw [List.foldl_cons, ih (h.keeps s a hs), hstep s a hs, List.mem_cons, or_assoc]

/-- A call that told the feed to stop is followed only by calls that do, if they ask. -/
theorem tells_after (h : Drives step link feed inv) (hs : inv s) (hc : (link s).Counts)
    {a : FeedAction} (hf : (link s).hasFeed = true) (ht : a.TellsStop (link s)) (rest : List α)
    {b : FeedAction} (hb : b.asksStop = true) :
    b.TellsStop (link (rest.foldl step (step s (feed a)))) := by
  have hafter := (h.run (h.keeps s (feed a) hs) rest).2
  have hcounts := (hc.later (h.later s (feed a) hs)).later hafter
  rw [h.call] at hafter
  exact hcounts.tells ((hc.knows_of_tells hf ht).2.later hafter) hb

theorem asksOnce (h : Drives step link feed inv) (hs : inv s) (hc : (link s).Counts)
    {asked : List α → Prop}
    (hasked : ∀ actions : List α, (link (actions.foldl step s)).canQuit = false ↔ asked actions) :
    AsksOnce (fun actions => link (actions.foldl step s)) feed asked where
  atMostOnce actions := (h.counts hs hc actions).unsubscribes_le
  count_iff actions := (h.counts hs hc actions).unsubscribes_eq_one_iff.trans (hasked actions)
  unsubscribed_iff actions := by
    rw [(h.counts hs hc actions).unsubscribes_eq_one_iff, Link.isUnsubscribed, Bool.not_eq_true']
  seen first a hf ht := by
    have hfirst := h.counts hs hc first
    refine ⟨hfirst.unsubscribes_eq_one_iff.mpr (hfirst.knows_of_tells hf ht).1, fun rest b hb => ?_⟩
    rw [List.foldl_append]
    exact h.tells_after (h.run hs first).1 hfirst hf ht rest hb

end Drives

/-! ## Subscriptions -/

namespace Listening

variable {s s' : Listening}

theorem Move.later (hm : Move s s') : s.link.Later s'.link := by
  cases hm with
  | rest => exact .refl
  | feed o l hm => exact .single (.feed o l hm)
  | hear log rest hi => exact .single (.read _ (.take log rest hi))
  | learn hl hf => exact .single (.read _ (.learn hl))

theorem Move.canQuit_eq (hm : Move s s') : s'.link.canQuit = s.link.canQuit := by
  cases hm with
  | feed o l hm => exact hm.kept.1
  | rest | hear | learn => rfl

theorem drives : Drives act link .feed Sound where
  keeps s a h := h.act a
  later s a h := by
    by_cases ha : a = .unsubscribe
    · subst ha
      exact .single .unsubscribe
    · exact (act_move h.tracks ha).later
  call _ _ := rfl

theorem Sound.asked_iff (h : s.Sound) (a : ListeningAction) :
    (s.act a).link.canQuit = false ↔ s.link.canQuit = false ∨ .unsubscribe = a := by
  by_cases ha : a = .unsubscribe
  · subst ha
    simp [Listening.act]
  · rw [(act_move h.tracks ha).canQuit_eq]
    simp [Ne.symm ha]

end Listening

/-- A new subscription has not asked its feed to stop. -/
theorem Link.Counts.start (origin : Reading.Origin) :
    (Listening.start origin).link.Counts ∧ (Listening.start origin).link.canQuit = true := by
  cases origin with
  | live capacity => exact ⟨.connect capacity, rfl⟩
  | buffered logs =>
    refine ⟨.ofLogs logs, ?_⟩
    show (Link.ofLogs logs).canQuit = true
    rw [Link.ofLogs_eq]
    rfl

namespace Listening

/-- A subscription asks its feed to stop if it is unsubscribed. -/
theorem asksOnce (origin : Reading.Origin) :
    AsksOnce (fun actions => ((Listening.start origin).run actions).link) .feed
      (.unsubscribe ∈ ·) := by
  obtain ⟨hc, hcan⟩ := Link.Counts.start origin
  refine drives.asksOnce (.start origin) hc fun actions => ?_
  rw [drives.asked_iff (fun _ a h => h.asked_iff a) (.start origin), hcan]
  simp

theorem leftAsked (origin : Reading.Origin) (actions : List ListeningAction) :
    ((Listening.start origin).run actions).link.dropSubscription.LeftAsked :=
  (drives.counts (.start origin) (Link.Counts.start origin).1 actions).drop.leftAsked rfl

end Listening

/-! ## Iterators -/

namespace Reading

variable {decode : Log → Except Error ρ} {r : Reading ρ}

theorem drives (decode : Log → Except Error ρ) :
    Drives (act decode) (fun r => r.iterator.link) .feed (Sound decode) where
  keeps _ a h := h.act a
  later r a h := by
    refine act_induction (motive := fun r' => r.iterator.link.Later r'.iterator.link) h.tracks
      h.watches .refl (fun o l hm => .single (.feed o l hm)) ?_ (fun _ hl => hl) a fun _ => ?_
    · intro p i hr
      rw [note_iterator]
      exact .single (.read _ hr.reads)
    · rw [Iterator.close_eq]
      exact .single .unsubscribe
  call _ _ := rfl

theorem Sound.asked_iff (h : r.Sound decode) (a : ReadingAction) :
    (r.act decode a).iterator.link.canQuit = false ↔
      r.iterator.link.canQuit = false ∨ .close = a := by
  by_cases ha : a = .close
  · subst ha
    simp [Reading.act, Iterator.close_eq]
  · have hsame : (r.act decode a).iterator.link.canQuit = r.iterator.link.canQuit := by
      refine act_induction (motive := fun r' => r'.iterator.link.canQuit = r.iterator.link.canQuit)
        h.tracks h.watches rfl (fun o l hm => hm.kept.1) ?_ (fun _ hq => hq) a
        fun hc => absurd hc ha
      intro p i hr
      rw [note_iterator]
      exact hr.reads.canQuit_eq
    rw [hsame]
    simp [Ne.symm ha]

theorem start_link (origin : Origin) :
    (Reading.start origin : Reading ρ).iterator.link = (Listening.start origin).link := by
  cases origin <;> rfl

/-- An iterator asks its feed to stop if it is closed. -/
theorem asksOnce (decode : Log → Except Error ρ) (origin : Origin) :
    AsksOnce (fun actions => ((Reading.start origin).run decode actions).iterator.link) .feed
      (.close ∈ ·) := by
  obtain ⟨hc, hcan⟩ := Link.Counts.start origin
  rw [← start_link (ρ := ρ)] at hc hcan
  refine (drives decode).asksOnce (.start origin) hc fun actions => ?_
  rw [(drives decode).asked_iff (fun _ a h => h.asked_iff a) (.start origin), hcan]
  simp

theorem leftAsked (decode : Log → Except Error ρ) (origin : Origin)
    (actions : List ReadingAction) :
    ((Reading.start origin).run decode actions).iterator.drop.LeftAsked := by
  have hc := (Link.Counts.start origin).1
  rw [← start_link (ρ := ρ)] at hc
  exact ((drives decode).counts (.start origin) hc actions).drop.leftAsked rfl

end Reading

/-! ## Watches -/

namespace Watching

variable {decode : Log → Except Error ρ} {w w' : Watching ρ}

/-- The task of a watch asks its feed to stop and lets go of the subscription when it ends, and not
before. -/
structure AsksAtEnd (w : Watching ρ) : Prop where
  asked : w.watch.link.canQuit = !w.watch.isFinished
  gone : w.watch.isFinished = true → w.watch.link.logs.hasReceiver = false

theorem Move.later (hm : Move decode w w') : w.watch.link.Later w'.watch.link := by
  cases hm with
  | feed o l hm => exact .single (.feed o l hm)
  | round logs records p watch hr =>
    obtain ⟨l, hl, ⟨hlink, -⟩ | ⟨hlink, -⟩⟩ := hr.reads
    · rw [hlink]
      exact .single (.read l hl)
    · rw [hlink]
      exact .tail (.single (.read l hl)) .drop
  | stop =>
    rw [w.watch.stop_kept.1]
  | rest | receive | told | dropSink => exact .refl

theorem AsksAtEnd.move (h : w.AsksAtEnd) (hm : Move decode w w') : w'.AsksAtEnd := by
  cases hm with
  | feed o l hm =>
    exact ⟨hm.kept.1.trans h.asked, fun hover => hm.kept.2.trans (h.gone hover)⟩
  | round logs records p watch hr =>
    obtain ⟨l, hl, ⟨hlink, hover⟩ | ⟨hlink, hover⟩⟩ := hr.reads
    · refine ⟨?_, fun hover' => ?_⟩
      · show watch.link.canQuit = !watch.isFinished
        rw [hlink, hl.canQuit_eq, hover, h.asked]
      · show watch.link.logs.hasReceiver = false
        rw [hlink]
        cases hl <;> exact h.gone (hover.symm.trans hover')
    · refine ⟨?_, fun _ => ?_⟩
      · show watch.link.canQuit = !watch.isFinished
        rw [hlink, hover]
        exact Link.unsubscribe_canQuit l
      · show watch.link.logs.hasReceiver = false
        rw [hlink]
        rfl
  | stop =>
    obtain ⟨hlink, -, htask⟩ := w.watch.stop_kept
    have hover : w.watch.stop.isFinished = w.watch.isFinished := by
      rw [Watch.isFinished, htask, Watch.isFinished]
    exact ⟨by simp only [hlink, hover, h.asked], by simpa only [hlink, hover] using h.gone⟩
  | rest | receive | told | dropSink => exact ⟨h.asked, h.gone⟩

theorem AsksAtEnd.start (capacity room : Nat) :
    (Watching.start capacity room : Watching ρ).AsksAtEnd :=
  ⟨rfl, fun h => by cases h⟩

theorem drives (decode : Log → Except Error ρ) :
    Drives (act decode) (fun w => w.watch.link) .feed fun w => w.Sound decode ∧ w.AsksAtEnd where
  keeps _ a h := ⟨h.1.act a, h.2.move (act_move h.1.wired a)⟩
  later _ a h := (act_move h.1.wired a).later
  call _ _ := rfl

theorem start_sound (decode : Log → Except Error ρ) (capacity room : Nat) :
    (Watching.start capacity room : Watching ρ).Sound decode ∧
      (Watching.start capacity room : Watching ρ).AsksAtEnd :=
  ⟨.start capacity room, .start capacity room⟩

/-- A watch asks its feed to stop if its task has ended. -/
theorem asksOnce (decode : Log → Except Error ρ) (capacity room : Nat) :
    AsksOnce (fun actions => ((Watching.start capacity room).run decode actions).watch.link)
      .feed fun actions =>
        ((Watching.start capacity room).run decode actions).watch.isFinished = true := by
  have hs := start_sound decode capacity room
  refine (drives decode).asksOnce hs (.connect capacity) fun actions => ?_
  have hasked := ((drives decode).run hs actions).1.2.asked
  rw [hasked, Bool.not_eq_false']
  rfl

theorem leftAsked (decode : Log → Except Error ρ) (capacity room : Nat)
    (actions : List WatchAction)
    (hover : ((Watching.start capacity room).run decode actions).watch.isFinished = true) :
    ((Watching.start capacity room).run decode actions).watch.link.LeftAsked := by
  have hs := start_sound decode capacity room
  have hc := (drives decode).counts hs (.connect capacity) actions
  exact hc.leftAsked (((drives decode).run hs actions).1.2.gone hover)

end Watching

/-! ## The three of them -/

/-- A subscription, an iterator and the task of a watch each ask their feed to stop at most once: a
subscription if it is unsubscribed, an iterator if it is closed, a task if it has ended, and a
subscription or an iterator at the latest when it goes away. A feed that has seen the request goes
on seeing it. -/
theorem one_request (c : Contract) (t : EventType) :
    (∀ origin : Reading.Origin,
      AsksOnce (fun actions => ((Listening.start origin).run actions).link) .feed
        (.unsubscribe ∈ ·) ∧
      ∀ actions, ((Listening.start origin).run actions).link.dropSubscription.LeftAsked) ∧
    (∀ origin : Reading.Origin,
      AsksOnce (fun actions => ((Reading.start origin).run (c.unpack t) actions).iterator.link)
        .feed (.close ∈ ·) ∧
      ∀ actions, ((Reading.start origin).run (c.unpack t) actions).iterator.drop.LeftAsked) ∧
    ∀ capacity room : Nat,
      AsksOnce (fun actions => ((Watching.start capacity room).run (c.unpack t) actions).watch.link)
        .feed (fun actions =>
          ((Watching.start capacity room).run (c.unpack t) actions).watch.isFinished = true) ∧
      ∀ actions, ((Watching.start capacity room).run (c.unpack t) actions).watch.isFinished = true →
        ((Watching.start capacity room).run (c.unpack t) actions).watch.link.LeftAsked := by
  refine ⟨fun origin => ?subscription, fun origin => ?iterator, fun capacity room => ?watch⟩
  case subscription => exact ⟨Listening.asksOnce origin, Listening.leftAsked origin⟩
  case iterator => exact ⟨Reading.asksOnce _ origin, Reading.leftAsked _ origin⟩
  case watch =>
    exact ⟨Watching.asksOnce _ capacity room, Watching.leftAsked _ capacity room⟩

/-- A subscription that is unsubscribed twice and then goes away has asked once, and the feed sees
it. -/
example :
    let s := (Listening.start (.live 1)).run [.unsubscribe, .unsubscribe]
    s.link.dropSubscription.unsubscribes = 1 ∧ FeedAction.closed.TellsStop s.link :=
  ⟨rfl, rfl⟩

end AbiBindings.Stream
