import AbiBindings.Proofs.Stream.IteratorRuns
import AbiBindings.Proofs.Stream.Unspent

/-!
# Rounds that go on

A call that goes round in a loop goes on if a round has neither come to an answer nor has to wait.
The end of the feed makes a round go on, for it brings nothing to hand out; that it does so once is
what bounds the rounds. Rounds are counted along a run, whatever the others do between them.

Results:
* `Drives.calm`: a system with a link does not spin and asks no cell that is spent, if each round
  that goes on is paid for.
* `Listening.Sound.calm`, `Reading.calm_of_tracks`: a subscription, and an iterator that may have
  taken over a subscription in use.
-/

namespace AbiBindings.Stream

/-- Whether a call goes on to another round. -/
def Pass.goesOn : Pass α → Bool
  | .again => true
  | .done _ | .pending | .misused => false

/-! ## Counting along a run -/

/-- How often a system does something in a run. -/
def tally (does : σ → α → Bool) (step : σ → α → σ) (s : σ) : List α → Nat
  | [] => 0
  | a :: actions => (does s a).toNat + tally does step (step s a) actions

/-- From a state on, a system that holds a subscription does not spin, and nobody asks a cell of its
link again whose outcome was handed out. -/
structure Calm (step : σ → α → σ) (link : σ → Link) (goesOn : σ → α → Bool) (delivered : σ → Nat)
    (bound : Nat) (s : σ) : Prop where
  unspent : (link s).Unspent
  abandonable : (link s).Abandonable
  /-- The feed may go on when the holder of the subscription is gone. -/
  left : ∀ (more : List FeedAction) (supply : Supply),
    (FeedAction.run more ((link s).dropSubscription, supply)).1.Unspent
  /-- Once the outcome of the feed was handed out, the way that waits for its end waits for good. -/
  silent : (link s).failure = .taken →
    ∀ actions : List α, (link (actions.foldl step s)).endingArm = none
  /-- Between two deliveries at most so many rounds go on. -/
  rounds : ∀ actions : List α,
    tally goesOn step s actions + delivered s ≤ bound + delivered (actions.foldl step s)

namespace Drives

variable {step : σ → α → σ} {link : σ → Link} {feed : FeedAction → α} {inv : σ → Prop} {s : σ}
  {goesOn : σ → α → Bool} {delivered : σ → Nat} {bound : Nat}

/-- If each round that goes on is paid for, by work that is left or by a delivery, so are all of
them. -/
theorem tally_le (h : Drives step link feed inv) (work : σ → Nat)
    (pays : ∀ s a, inv s →
      (goesOn s a).toNat + work (step s a) + delivered s ≤ work s + delivered (step s a))
    (hs : inv s) (actions : List α) :
    tally goesOn step s actions + work (actions.foldl step s) + delivered s ≤
      work s + delivered (actions.foldl step s) := by
  induction actions generalizing s with
  | nil => simp [tally]
  | cons a actions ih =>
    have hfirst := pays s a hs
    have hrest := ih (h.keeps s a hs)
    rw [tally, List.foldl_cons]
    omega

/-- A system with a link is calm if the cells tell what the feed has done and each round that goes
on is paid for. -/
theorem calm (h : Drives step link feed inv) (work : σ → Nat) (hs : inv s) {supply : Supply}
    (ht : (link s).Tracks supply)
    (pays : ∀ s a, inv s →
      (goesOn s a).toNat + work (step s a) + delivered s ≤ work s + delivered (step s a))
    (hw : work s ≤ bound) : Calm step link goesOn delivered bound s where
  unspent := ht.unspent
  abandonable := ht.abandonable
  left more supply := by
    have hl := (link s).dropSubscription.later_run supply more
    obtain ⟨supply', ht'⟩ := ht.dropSubscription.later hl
    exact ht'.unspent
  silent hf actions := (h.run hs actions).2.endingArm_none ht hf
  rounds actions := by
    have hle := h.tally_le work pays hs actions
    omega

end Drives

/-! ## Subscriptions -/

/-- A round goes on only to leave the end of the feed behind it. -/
theorem Link.NextRound.pays {l l' : Link} {s : Supply} {p : Pass (Except Error (Option Log))}
    (h : l.NextRound s p l') :
    p.goesOn.toNat + l'.watchesFailure.toNat ≤ l.watchesFailure.toNat := by
  cases h with
  | completed hf hs hl =>
    rw [Link.watchesFailure_of_canLearn hl]
    exact Nat.le_refl _
  | failed => exact Nat.zero_le _
  | wait | log => exact Nat.le_of_eq (Nat.zero_add _)
  | gone l' hi hf hs hl =>
    rcases hl with rfl | ⟨-, rfl⟩
    · exact Nat.le_of_eq (Nat.zero_add _)
    · exact Nat.zero_le _

namespace Listening

variable {s : Listening}

/-- Whether an action is a round that goes on. -/
def goesOn (s : Listening) : ProbingAction → Bool
  | .listen (.next start) => (s.link.nextPass start).1.goesOn
  | _ => false

/-- A round that goes on is paid for: the end of the feed is behind it. -/
theorem probe_pays (h : s.Sound) (a : ProbingAction) :
    (s.goesOn a).toNat + (s.probe a).link.watchesFailure.toNat ≤
      s.link.watchesFailure.toNat := by
  have hle := (drives_probe.later s a h).watchesFailure_le
  match a with
  | .listen (.next start) =>
    have hlink := (s.note_link (s.link.nextPass start)).1
    rw [goesOn, probe, act, hlink]
    exact (h.tracks.next_round start).pays
  | .listen (.feed _) | .listen .receive | .listen .tryReceive | .listen .ending
  | .listen .unsubscribe | .takeFailure => exact Nat.le_trans (Nat.le_of_eq (Nat.zero_add _)) hle

/-- A call for the next log has one round that goes on. -/
theorem Sound.calm (h : s.Sound) : Calm probe link goesOn (fun _ => 0) 1 s :=
  drives_probe.calm (fun s => s.link.watchesFailure.toNat) h h.tracks
    (fun _ a h => probe_pays h a) (Bool.toNat_le _)

/-- A call that hears of the end of the feed before it looks into the queue goes on. -/
example :
    tally goesOn probe (Listening.start (.live 1))
      [.listen (.feed .dropLogs), .listen (.feed .dropFailure), .listen (.next 1),
        .listen (.next 1)] = 1 :=
  rfl

end Listening

/-! ## Iterators -/

/-- What one round can do to an iterator whose link is in any state. -/
inductive Iterator.Lap (i : Iterator ρ) : Pass Bool → Iterator ρ → Prop
  | wait (hp : i.phase = .active) : Lap i .pending i
  | answer (advanced : Bool) (i' : Iterator ρ) (hl : i.link.Reads i'.link)
      (hp : i'.phase = .active → i.phase = .active) : Lap i (.done advanced) i'
  /-- The end of the feed was heard of; from now on nothing is waited for. -/
  | goOn (l : Link) (hp : i.phase = .active) (hl : i.link.Reads l) :
      Lap i .again { i with link := l, phase := .draining }

namespace Iterator

variable {decode : Log → Except Error ρ} {s : Supply} {i i' : Iterator ρ} {p : Pass Bool}
  {start : Nat}

theorem Lap.reads (h : Lap i p i') : i.link.Reads i'.link := by
  cases h with
  | wait => exact .same
  | answer advanced i' hl hp => exact hl
  | goOn l hp hl => exact hl

theorem Lap.ne_misused (h : Lap i p i') : p ≠ .misused := by
  cases h <;> simp

theorem Lap.eq_of_pending (h : Lap i .pending i') : i' = i := by
  cases h
  rfl

theorem Lap.done_of_not_active (h : Lap i p i') (hp : i.phase ≠ .active) :
    ∃ advanced, p = .done advanced := by
  cases h with
  | wait hp' | goOn l hp' => exact absurd hp' hp
  | answer advanced => exact ⟨advanced, rfl⟩

/-- A log that has come out of the queue finishes the call. -/
theorem lap_of_log (hp : i.phase.isTerminal = false) {log : Log} {l : Link}
    (hl : i.link.Reads l) (h : i.signal start = (.ready (.log log), { i with link := l })) :
    Lap i (i.pass decode start).1 (i.pass decode start).2 := by
  rw [pass_of_signal hp h]
  cases hd : decode log with
  | ok record =>
    rw [apply_of_ok (by exact hp) hd]
    exact .answer true _ hl id
  | error e =>
    rw [apply_of_error (by exact hp) hd]
    exact .answer false _ hl fun hactive => (by cases hactive)

/-- What an iterator that waits for its feed does when it hears something. -/
theorem lap_of_heard (hp : i.phase = .active) {news : Link.News} {l : Link}
    (hsel : select start [Link.logArm, Link.endingArm] i.link = some (news, l))
    (heard : i.link.Heard s news l) :
    Lap i (i.pass decode start).1 (i.pass decode start).2 := by
  have hterm : i.phase.isTerminal = false := by rw [hp]; rfl
  have hsig : ∀ {sig}, signalOf? news = some sig →
      i.signal start = (.ready sig, { i with link := l }) := signal_active hp hsel
  have hcompleted : signalOf? news = some .completed →
      Lap i (i.pass decode start).1 (i.pass decode start).2 := by
    intro hs
    rw [pass_of_signal hterm (hsig hs)]
    simp only [apply, hp, Phase.on]
    exact .goOn l hp heard.reads
  have hfailed : ∀ {e}, signalOf? news = some (.failed e) →
      Lap i (i.pass decode start).1 (i.pass decode start).2 := by
    intro e hs
    rw [pass_of_signal hterm (hsig hs)]
    simp only [apply, hp, Phase.on]
    exact .answer false _ heard.reads fun hactive => (by cases hactive)
  cases news with
  | log log => exact lap_of_log hterm heard.reads (hsig rfl)
  | closed failure | ended failure =>
    cases failure with
    | none => exact hcompleted rfl
    | some e => exact hfailed rfl
  | quit | misused => cases heard

/-- While the cells tell what the feed has done, this is all that a round can do, whether the end of
the feed is known by then or not. -/
theorem pass_lap (decode : Log → Except Error ρ) (ht : i.link.Tracks s) (start : Nat) :
    Lap i (i.pass decode start).1 (i.pass decode start).2 := by
  cases hp : i.phase with
  | active =>
    cases hsel : select start [Link.logArm, Link.endingArm] i.link with
    | none =>
      simp only [pass, signal, hp, hsel]
      exact .wait hp
    | some r =>
      obtain ⟨news, l⟩ := r
      obtain ⟨arm, hmem, harm⟩ := select_some_mem hsel
      simp only [List.mem_cons, List.not_mem_nil, or_false] at hmem
      rcases hmem with rfl | rfl
      · exact lap_of_heard hp hsel (ht.logArm_heard harm)
      · exact lap_of_heard hp hsel (ht.endingArm_heard harm)
  | draining =>
    have hterm : i.phase.isTerminal = false := by rw [hp]; rfl
    cases hi : i.link.logs.items with
    | cons log rest => exact lap_of_log hterm (.take log rest hi) (signal_of_cons hp hi start)
    | nil =>
      rw [pass_of_signal hterm (signal_of_nil hp hi start)]
      simp only [apply, hp, Phase.on]
      exact .answer false _ .same fun hactive => (by cases hactive)
  | failed | exhausted =>
    have hterm : i.phase.isTerminal = true := by rw [hp]; rfl
    simp only [pass, hterm, if_true]
    exact .answer false i .same id

/-- A call for the next record comes to an answer, or it waits and leaves the iterator as it was. -/
theorem advance_answers (decode : Log → Except Error ρ) (ht : i.link.Tracks s) (start : Nat) :
    (∃ advanced, (i.advance decode start).1 = .done advanced) ∨
      i.advance decode start = (.pending, i) := by
  have hlap := pass_lap decode ht start
  rw [advance_eq]
  rcases hpass : i.pass decode start with ⟨p, i'⟩
  rw [hpass] at hlap
  cases hlap with
  | wait => exact .inr rfl
  | answer advanced => exact .inl ⟨advanced, rfl⟩
  | goOn l hp hl =>
    -- The second round takes what is in the queue, so it does not wait.
    left
    have hsecond :=
      pass_lap (i := { i with link := l, phase := .draining }) decode (ht.reads hl) start
    exact hsecond.done_of_not_active (by simp)

end Iterator

namespace Reading

variable {decode : Log → Except Error ρ} {r : Reading ρ}

/-- Whether an action is a round that goes on. -/
def goesOn (decode : Log → Except Error ρ) (r : Reading ρ) : ReadingAction → Bool
  | .next start | .nextEvent start => (r.iterator.pass decode start).1.goesOn
  | .feed _ | .take | .close => false

/-- To hand out the record at once changes neither the link nor the phase. -/
theorem act_nextEvent_kept (decode : Log → Except Error ρ) (r : Reading ρ) (start : Nat) :
    (r.act decode (.nextEvent start)).iterator.link = (r.iterator.pass decode start).2.link ∧
      (r.act decode (.nextEvent start)).iterator.phase = (r.iterator.pass decode start).2.phase ∧
      (r.act decode (.nextEvent start)).supply = r.supply := by
  simp only [act]
  split
  case h_1 i hpass => simp [hpass, take, Iterator.take]
  case h_2 => simp

/-- While the cells tell what the feed has done, they go on doing so, and no action does more to the
link than the two sides can. -/
theorem act_tracks (ht : r.iterator.link.Tracks r.supply) (a : ReadingAction) :
    (r.act decode a).iterator.link.Tracks (r.act decode a).supply ∧
      r.iterator.link.Later (r.act decode a).iterator.link := by
  cases a with
  | feed a =>
    have hm := a.act_move r.iterator.link
    exact ⟨ht.move hm, .single (.feed _ _ hm)⟩
  | next start =>
    have hr := (Iterator.pass_lap decode ht start).reads
    rw [act, note_iterator, note_supply]
    exact ⟨ht.reads hr, .single (.read _ hr)⟩
  | nextEvent start =>
    have hr := (Iterator.pass_lap decode ht start).reads
    obtain ⟨hlink, -, hsupply⟩ := act_nextEvent_kept decode r start
    rw [hlink, hsupply]
    exact ⟨ht.reads hr, .single (.read _ hr)⟩
  | take => exact ⟨ht, .refl⟩
  | close =>
    rw [act, Iterator.close_eq]
    exact ⟨ht.unsubscribe, .single .unsubscribe⟩

theorem drives_tracks (decode : Log → Except Error ρ) :
    Drives (act decode) (fun r => r.iterator.link) .feed
      fun r => r.iterator.link.Tracks r.supply where
  keeps _ a ht := (act_tracks ht a).1
  later _ a ht := (act_tracks ht a).2
  call _ _ := rfl

/-- Whether an iterator waits for its feed. -/
def isActive (r : Reading ρ) : Bool := r.iterator.phase = .active

/-- A round goes on only to stop waiting for the feed, and no action begins to wait for it. -/
theorem act_pays (ht : r.iterator.link.Tracks r.supply) (a : ReadingAction) :
    (r.goesOn decode a).toNat + (r.act decode a).isActive.toNat ≤ r.isActive.toNat := by
  -- What a round pays, whichever of the two actions it is.
  have hround : ∀ {p : Pass Bool} {i : Iterator ρ}, r.iterator.Lap p i →
      p.goesOn.toNat + (decide (i.phase = .active)).toNat ≤ r.isActive.toNat := by
    intro p i hlap
    cases hlap with
    | wait hp => simp [isActive, hp, Pass.goesOn]
    | goOn l hp => simp [isActive, hp, Pass.goesOn]
    | answer advanced i hl hp =>
      by_cases hactive : i.phase = .active
      · simp [isActive, hp hactive, hactive, Pass.goesOn]
      · simp [hactive, Pass.goesOn]
  cases a with
  | feed a => exact Nat.le_of_eq (Nat.zero_add _)
  | next start =>
    rw [goesOn, isActive, act, note_iterator]
    exact hround (Iterator.pass_lap decode ht start)
  | nextEvent start =>
    rw [goesOn, isActive, (act_nextEvent_kept decode r start).2.1]
    exact hround (Iterator.pass_lap decode ht start)
  | take => exact Nat.le_of_eq (Nat.zero_add _)
  | close =>
    rw [goesOn, isActive, act, Iterator.close_eq]
    by_cases hactive : r.iterator.phase = .active <;> simp [hactive]

/-- An iterator does not spin and asks no cell that is spent. -/
structure Calm (decode : Log → Except Error ρ) (r : Reading ρ) : Prop where
  system : Stream.Calm (act decode) (fun r => r.iterator.link) (goesOn decode) (fun _ => 0) 1 r
  round : ∀ start, (r.iterator.pass decode start).1 ≠ .misused
  /-- A round that waits leaves the iterator as it was: it may be abandoned. -/
  waits : ∀ start, (r.iterator.pass decode start).1 = .pending →
    (r.iterator.pass decode start).2 = r.iterator
  /-- A call for the next record comes to an answer or waits; its rounds do not run out. -/
  call : ∀ start, (∃ advanced, (r.iterator.advance decode start).1 = .done advanced) ∨
    r.iterator.advance decode start = (.pending, r.iterator)

theorem calm_of_tracks (ht : r.iterator.link.Tracks r.supply) : r.Calm decode where
  system := (drives_tracks decode).calm (fun r => r.isActive.toNat) ht ht
    (fun _ a ht => act_pays ht a) (Bool.toNat_le _)
  round start := (Iterator.pass_lap decode ht start).ne_misused
  waits start hp := by
    have hlap := Iterator.pass_lap decode ht start
    rw [hp] at hlap
    exact hlap.eq_of_pending
  call start := r.iterator.advance_answers decode ht start

end Reading

end AbiBindings.Stream
