import AbiBindings.Proofs.Stream.Decoding
import AbiBindings.Proofs.Stream.News
import AbiBindings.Stream.Iterator

/-!
# Reading an iterator

An iterator together with its feed, as both go on. The feed makes its calls and the reader its own,
in any order. A call for the next record goes round at most twice; each round is an action of its
own, so that the feed can act between them, and it begins its choice at any of the ways to go on. A
call that waits leaves everything as it was: to abandon it is to do something else.

Results:
* `Iterator.pass_round`: all that one round can do.
* `Reading.Sound.run`: in every state that is reached, the records are those of the first logs that
  the feed had accepted, and what the iterator has stored fits its phase.
-/

namespace AbiBindings.Stream

/-! ## The system -/

/-- An action of the feed or of the reader. -/
inductive ReadingAction where
  | feed (a : FeedAction)
  /-- One round of going on to the next record. -/
  | next (start : Nat)
  /-- One round of going on to the next record and handing it out. -/
  | nextEvent (start : Nat)
  | take
  | close

/-- An iterator with what its feed and its reader have done so far. -/
structure Reading (ρ : Type) where
  iterator : Iterator ρ
  supply : Supply
  /-- The answers to the calls for the next record, in order. -/
  answers : List Bool
  /-- The records that were current after the calls that found one, in order. -/
  records : List ρ

namespace Reading

/-- The records that a finished call for the next record adds. -/
def found (advanced : Bool) (i : Iterator ρ) : List ρ := if advanced then i.current?.toList else []

/-- Notes what a round has come to. -/
def note (r : Reading ρ) : Pass Bool × Iterator ρ → Reading ρ
  | (.done advanced, i) =>
    { r with
      iterator := i
      answers := r.answers ++ [advanced]
      records := r.records ++ found advanced i }
  | (_, i) => { r with iterator := i }

/-- Hands out the current record. -/
def take (r : Reading ρ) : Reading ρ := { r with iterator := r.iterator.take.2 }

/-- Does an action. -/
def act (decode : Log → Except Error ρ) (r : Reading ρ) : ReadingAction → Reading ρ
  | .feed a =>
    { r with
      iterator := { r.iterator with link := (a.act r.iterator.link).2 }
      supply := r.supply.note (a.act r.iterator.link).1 }
  | .next start => r.note (r.iterator.pass decode start)
  | .nextEvent start =>
    match r.iterator.pass decode start with
    | (.done true, i) => (r.note (.done true, i)).take
    | p => r.note p
  | .take => r.take
  | .close => { r with iterator := r.iterator.close }

/-- Does some actions one after the other. -/
def run (decode : Log → Except Error ρ) (r : Reading ρ) (actions : List ReadingAction) :
    Reading ρ :=
  actions.foldl (act decode) r

/-- An iterator over a subscription whose feed has done nothing. -/
def live (capacity : Nat) : Reading ρ := ⟨.live (.connect capacity), .empty, [], []⟩

/-- An iterator over logs at hand, all of which its feed has sent. -/
def buffered (logs : List Log) : Reading ρ :=
  ⟨.buffered logs, (FeedAction.run (FeedAction.fill logs) (.connect logs.length, .empty)).2, [], []⟩

/-- What an iterator is made over. -/
inductive Origin where
  | live (capacity : Nat)
  | buffered (logs : List Log)

/-- An iterator that has just been made. -/
def start : Origin → Reading ρ
  | .live capacity => live capacity
  | .buffered logs => buffered logs

@[simp] theorem note_iterator (r : Reading ρ) (p : Pass Bool × Iterator ρ) :
    (r.note p).iterator = p.2 := by
  rcases p with ⟨_ | _, _⟩ <;> rfl

@[simp] theorem note_supply (r : Reading ρ) (p : Pass Bool × Iterator ρ) :
    (r.note p).supply = r.supply := by
  rcases p with ⟨_ | _, _⟩ <;> rfl

/-- A call that finds no record adds none. -/
theorem note_refused (r : Reading ρ) (i : Iterator ρ) :
    r.note (.done false, i) = { r with iterator := i, answers := r.answers ++ [false] } := by
  simp [note, found]

theorem run_append (decode : Log → Except Error ρ) (r : Reading ρ)
    (first second : List ReadingAction) :
    r.run decode (first ++ second) = (r.run decode first).run decode second :=
  List.foldl_append

end Reading

theorem Phase.ne_failed {p : Phase} (hp : p.isTerminal = false) : p ≠ .failed := by
  rintro rfl
  simp [isTerminal] at hp

theorem Phase.ne_exhausted {p : Phase} (hp : p.isTerminal = false) : p ≠ .exhausted := by
  rintro rfl
  simp [isTerminal] at hp

/-! ## One round of an iterator -/

/-- What one round can do to an iterator, when its feed has done what the supply says. -/
inductive Iterator.Round (decode : Log → Except Error ρ) (s : Supply) (i : Iterator ρ) :
    Pass Bool → Iterator ρ → Prop
  | finished (hp : i.phase.isTerminal = true) : Round decode s i (.done false) i
  | wait (hp : i.phase = .active) (hi : i.link.logs.items = []) (hf : i.link.hasFeed = true)
      (hl : i.link.canLearn = false) : Round decode s i .pending i
  | record (log : Log) (rest : List Log) (record : ρ) (hp : i.phase.isTerminal = false)
      (hi : i.link.logs.items = log :: rest) (hd : decode log = .ok record) :
      Round decode s i (.done true)
        { i with link := i.link.withItems rest, current? := some record }
  | malformed (log : Log) (rest : List Log) (e : Error) (hp : i.phase.isTerminal = false)
      (hi : i.link.logs.items = log :: rest) (hd : decode log = .error e) :
      Round decode s i (.done false) ⟨i.link.withItems rest, .failed, none, some e⟩
  | failed (e : Error) (hp : i.phase = .active) (hs : s.failures.head? = some e)
      (hl : i.link.canLearn = true) :
      Round decode s i (.done false) ⟨i.link.learn, .failed, none, some e⟩
  | completed (l : Link) (hp : i.phase = .active) (hf : i.link.hasFeed = false)
      (hs : s.failures = []) (hl : l = i.link ∨ i.link.canLearn = true ∧ l = i.link.learn) :
      Round decode s i .again { i with link := l, phase := .draining }
  | exhausted (hp : i.phase = .draining) (hi : i.link.logs.items = []) :
      Round decode s i (.done false) { i with phase := .exhausted }

namespace Iterator

variable {decode : Log → Except Error ρ} {s : Supply} {i : Iterator ρ}

/-- What a round does to the link. -/
theorem Round.reads {i' : Iterator ρ} {p : Pass Bool} (h : Round decode s i p i') :
    i.link.Reads i'.link := by
  cases h with
  | finished | wait | exhausted => exact .same
  | record log rest record hp hi hd => exact .take log rest hi
  | malformed log rest e hp hi hd => exact .take log rest hi
  | failed e hp hs hl => exact .learn hl
  | completed l hp hf hs hl =>
    rcases hl with rfl | ⟨hl, rfl⟩
    · exact .same
    · exact .learn hl

/-- What a round comes to when its signal has been dealt with. -/
def finish : Option Bool × Iterator ρ → Pass Bool × Iterator ρ
  | (some advanced, i) => (.done advanced, i)
  | (none, i) => (.again, i)

theorem pass_of_signal {start : Nat} (hp : i.phase.isTerminal = false) {sig : Signal}
    {i' : Iterator ρ} (h : i.signal start = (.ready sig, i')) :
    i.pass decode start = finish (i'.apply decode sig) := by
  rw [pass, if_neg (by simp [hp]), h]
  rfl

theorem apply_of_ok (hp : i.phase.isTerminal = false) {log : Log} {record : ρ}
    (hd : decode log = .ok record) :
    i.apply decode (.log log) = (some true, { i with current? := some record }) := by
  obtain ⟨l, p, c, err⟩ := i
  cases p <;> simp_all [apply, Phase.on, Phase.isTerminal]

theorem apply_of_error (hp : i.phase.isTerminal = false) {log : Log} {e : Error}
    (hd : decode log = .error e) :
    i.apply decode (.log log) = (some false, ⟨i.link, .failed, none, some e⟩) := by
  obtain ⟨l, p, c, err⟩ := i
  cases p <;> simp_all [apply, Phase.on, Phase.isTerminal, stopWith]

/-- A log that has come out of the queue is decoded. -/
theorem round_of_log {start : Nat} (hp : i.phase.isTerminal = false) {log : Log}
    {rest : List Log} (hi : i.link.logs.items = log :: rest)
    (h : i.signal start = (.ready (.log log), { i with link := i.link.withItems rest })) :
    Round decode s i (i.pass decode start).1 (i.pass decode start).2 := by
  rw [pass_of_signal hp h]
  cases hd : decode log with
  | ok record =>
    rw [apply_of_ok (by exact hp) hd]
    exact .record log rest record hp hi hd
  | error e =>
    rw [apply_of_error (by exact hp) hd]
    exact .malformed log rest e hp hi hd

theorem round_of_failed {start : Nat} (hp : i.phase = .active) {e : Error}
    (hs : s.failures.head? = some e) (hl : i.link.canLearn = true)
    (h : i.signal start = (.ready (.failed e), { i with link := i.link.learn })) :
    Round decode s i (i.pass decode start).1 (i.pass decode start).2 := by
  rw [pass_of_signal (by simp [hp, Phase.isTerminal]) h]
  simp only [apply, hp, Phase.on, stopWith]
  exact .failed e hp hs hl

theorem round_of_completed {start : Nat} (hp : i.phase = .active) (hf : i.link.hasFeed = false)
    (hs : s.failures = []) {l : Link}
    (hl : l = i.link ∨ i.link.canLearn = true ∧ l = i.link.learn)
    (h : i.signal start = (.ready .completed, { i with link := l })) :
    Round decode s i (i.pass decode start).1 (i.pass decode start).2 := by
  rw [pass_of_signal (by simp [hp, Phase.isTerminal]) h]
  simp only [apply, hp, Phase.on]
  exact .completed l hp hf hs hl

/-- The signal of an iterator that waits for its feed is what its subscription hears. -/
theorem signal_active {start : Nat} (hp : i.phase = .active) {news : Link.News} {l : Link}
    (h : select start [Link.logArm, Link.endingArm] i.link = some (news, l)) {sig : Signal}
    (hsig : signalOf? news = some sig) : i.signal start = (.ready sig, { i with link := l }) := by
  simp only [signal, hp, h, hsig]

theorem signal_of_cons (hp : i.phase = .draining) {log : Log} {rest : List Log}
    (hi : i.link.logs.items = log :: rest) (start : Nat) :
    i.signal start = (.ready (.log log), { i with link := i.link.withItems rest }) := by
  simp only [signal, hp, Link.tryReceive_of_cons hi]

theorem signal_of_nil (hp : i.phase = .draining) (hi : i.link.logs.items = []) (start : Nat) :
    i.signal start = (.ready .empty, i) := by
  obtain ⟨l, p, c, err⟩ := i
  obtain rfl : p = .draining := hp
  simp only [signal, Link.tryReceive_of_nil hi]

theorem close_eq (i : Iterator ρ) :
    i.close = { i with
      link := i.link.unsubscribe
      phase := if i.phase = .active then .draining else i.phase } := by
  cases hp : i.phase <;> simp [close, hp, Phase.on]

/-- A round of an iterator that waits for its feed and hears something. -/
theorem round_of_heard {start : Nat} (hp : i.phase = .active) (hw : i.link.watchesFailure = true)
    {news : Link.News} {l : Link}
    (hsel : select start [Link.logArm, Link.endingArm] i.link = some (news, l))
    (heard : i.link.Heard s news l) :
    Round decode s i (i.pass decode start).1 (i.pass decode start).2 := by
  have hsig : ∀ {sig}, signalOf? news = some sig →
      i.signal start = (.ready sig, { i with link := l }) := signal_active hp hsel
  cases heard with
  | log log rest hi => exact round_of_log (by simp [hp, Phase.isTerminal]) hi (hsig rfl)
  | closedKnown hi hf hknown => exact absurd hw (by simp [hknown])
  | closedEarly hi hf hs => exact round_of_completed hp hf hs (.inl rfl) (hsig rfl)
  | closed hi hf hl =>
    cases hh : s.failures.head? with
    | none =>
      have hs : s.failures = [] := List.head?_eq_none_iff.mp hh
      exact round_of_completed hp hf hs (.inr ⟨hl, rfl⟩) (hsig (by rw [hh]; rfl))
    | some e => exact round_of_failed hp hh hl (hsig (by rw [hh]; rfl))
  | failed e hs hl => exact round_of_failed hp hs hl (hsig rfl)
  | completed hf hs hl => exact round_of_completed hp hf hs (.inr ⟨hl, rfl⟩) (hsig rfl)

theorem active_round (ht : i.link.Tracks s) (hw : i.link.watchesFailure = true)
    (hp : i.phase = .active) (start : Nat) :
    Round decode s i (i.pass decode start).1 (i.pass decode start).2 := by
  cases hsel : select start [Link.logArm, Link.endingArm] i.link with
  | none =>
    have harms := select_none_iff.mp hsel
    obtain ⟨hi, hf⟩ := (Link.logArm_none_iff _).mp (harms _ (by simp))
    have hl := (Link.endingArm_none_iff _).mp (harms _ (by simp))
    simp only [pass, signal, hp, hsel]
    exact .wait hp hi hf hl
  | some r =>
    obtain ⟨news, l⟩ := r
    obtain ⟨arm, hmem, harm⟩ := select_some_mem hsel
    simp only [List.mem_cons, List.not_mem_nil, or_false] at hmem
    rcases hmem with rfl | rfl
    · exact round_of_heard hp hw hsel (ht.logArm_heard harm)
    · exact round_of_heard hp hw hsel (ht.endingArm_heard harm)

theorem pass_round (ht : i.link.Tracks s)
    (hw : i.phase = .active → i.link.watchesFailure = true) (start : Nat) :
    Round decode s i (i.pass decode start).1 (i.pass decode start).2 := by
  cases hp : i.phase with
  | active => exact active_round ht (hw hp) hp start
  | draining =>
    have hterm : i.phase.isTerminal = false := by simp [hp, Phase.isTerminal]
    cases hi : i.link.logs.items with
    | cons log rest => exact round_of_log hterm hi (signal_of_cons hp hi start)
    | nil =>
      rw [pass_of_signal hterm (signal_of_nil hp hi start)]
      simp only [apply, hp, Phase.on]
      exact .exhausted hp hi
  | failed | exhausted =>
    have hterm : i.phase.isTerminal = true := by simp [hp, Phase.isTerminal]
    simp only [pass, hterm, if_true]
    exact .finished hterm

end Iterator

/-! ## What holds in every state -/

namespace Reading

/-- The state after a move of the feed. -/
def fed (r : Reading ρ) (o : FeedOutcome) (l : Link) : Reading ρ :=
  { r with iterator := { r.iterator with link := l }, supply := r.supply.note o }

/-- What holds now, and after each kind of action, holds after any action. -/
theorem act_induction {decode : Log → Except Error ρ} {r : Reading ρ} {motive : Reading ρ → Prop}
    (ht : r.iterator.link.Tracks r.supply)
    (hw : r.iterator.phase = .active → r.iterator.link.watchesFailure = true)
    (here : motive r)
    (feed : ∀ o l, FeedMove r.iterator.link o l → motive (r.fed o l))
    (round : ∀ p i, r.iterator.Round decode r.supply p i → motive (r.note (p, i)))
    (take : ∀ r : Reading ρ, motive r → motive r.take) (a : ReadingAction)
    (close : a = .close → motive { r with iterator := r.iterator.close }) :
    motive (r.act decode a) := by
  cases a with
  | feed a => exact feed _ _ (a.act_move _)
  | next start => exact round _ _ (Iterator.pass_round ht hw start)
  | nextEvent start =>
    have hround := round _ _ (Iterator.pass_round ht hw start)
    simp only [act]
    split
    · rename_i i hi
      rw [hi] at hround
      exact take _ hround
    · exact hround
  | take => exact take r here
  | close => exact close rfl

/-- What holds in every state of an iterator with its feed. -/
structure Sound (decode : Log → Except Error ρ) (r : Reading ρ) : Prop where
  tracks : r.iterator.link.Tracks r.supply
  watches : r.iterator.phase = .active → r.iterator.link.watchesFailure = true
  delivers : Delivers decode r.supply.accepted r.records
  count : r.answers.count true = r.records.length
  answered : false ∈ r.answers ↔ r.iterator.phase.isTerminal = true
  queue : r.iterator.phase ≠ .failed →
    r.iterator.link.logs.items = r.supply.accepted.drop r.records.length
  noError : r.iterator.phase ≠ .failed → r.iterator.error? = none
  failed : r.iterator.phase = .failed →
    r.iterator.current? = none ∧
      ∃ e, r.iterator.error? = some e ∧ r.supply.Explains decode r.records e

variable {decode : Log → Except Error ρ} {r : Reading ρ}

namespace Sound

/-- The log at the head of the queue is the one after those of the records. -/
theorem next_log (h : r.Sound decode) (hp : r.iterator.phase ≠ .failed) {log : Log}
    {rest : List Log} (hi : r.iterator.link.logs.items = log :: rest) :
    r.supply.accepted[r.records.length]? = some log ∧
      r.supply.accepted.drop (r.records.length + 1) = rest :=
  getElem?_of_drop ((h.queue hp).symm.trans hi)

/-- If the queue is empty, every log that was accepted has its record. -/
theorem length_of_empty (h : r.Sound decode) (hp : r.iterator.phase ≠ .failed)
    (hi : r.iterator.link.logs.items = []) : r.records.length = r.supply.accepted.length := by
  have hq := h.queue hp
  rw [hi, eq_comm, List.drop_eq_nil_iff] at hq
  have hle := h.delivers.length_le
  omega

theorem live (capacity : Nat) : (Reading.live capacity : Reading ρ).Sound decode where
  tracks := .connect capacity
  watches _ := rfl
  delivers := .nil _
  count := rfl
  answered := by simp [Reading.live, Iterator.live, Phase.isTerminal]
  queue _ := rfl
  noError _ := rfl
  failed h := by simp [Reading.live, Iterator.live] at h

theorem buffered (logs : List Log) : (Reading.buffered logs : Reading ρ).Sound decode where
  tracks := by
    have ht := (Link.Tracks.connect logs.length).run (FeedAction.fill logs)
    rw [Link.run_fill] at ht
    simpa only [Reading.buffered, Iterator.buffered, Link.run_fill] using ht
  watches h := by simp [Reading.buffered, Iterator.buffered] at h
  delivers := .nil _
  count := rfl
  answered := by simp [Reading.buffered, Iterator.buffered, Phase.isTerminal]
  queue _ := by simp [Reading.buffered, Iterator.buffered, Link.run_fill, Link.ofLogs_eq]
  noError _ := rfl
  failed h := by simp [Reading.buffered, Iterator.buffered] at h

/-- A call of the feed. -/
theorem feed (h : r.Sound decode) {o : FeedOutcome} {l : Link}
    (hm : FeedMove r.iterator.link o l) : (r.fed o l).Sound decode := by
  have hle := h.delivers.length_le
  refine ⟨h.tracks.move hm, fun hp => ?_, h.delivers.mono (r.supply.note_accepted_prefix o),
    h.count, h.answered, fun hp => hm.items_eq_drop hle (h.queue hp), h.noError, fun hp => ?_⟩
  · exact hm.watchesFailure_eq.trans (h.watches hp)
  · obtain ⟨hc, e, he, hcause⟩ := h.failed hp
    exact ⟨hc, e, he, hcause.note o⟩

/-- A call that fails for a reason. -/
theorem fails (h : r.Sound decode) {l : Link} (ht : l.Tracks r.supply) {e : Error}
    (he : r.supply.Explains decode r.records e) :
    (r.note (.done false, ⟨l, .failed, none, some e⟩)).Sound decode := by
  rw [note_refused]
  refine ⟨ht, by simp, h.delivers, ?_, by simp [Phase.isTerminal], by simp, by simp,
    fun _ => ⟨rfl, e, rfl, he⟩⟩
  simpa using h.count

/-- One round of a call for the next record. -/
theorem round (h : r.Sound decode) {p : Pass Bool} {i : Iterator ρ}
    (hr : r.iterator.Round decode r.supply p i) : (r.note (p, i)).Sound decode := by
  have ht : i.link.Tracks r.supply := h.tracks.reads hr.reads
  cases hr with
  | finished hp =>
    rw [note_refused]
    exact ⟨h.tracks, h.watches, h.delivers, by simpa using h.count, by simp [hp], h.queue,
      h.noError, h.failed⟩
  | wait hp hi hf hl => exact h
  | record log rest record hp hi hd =>
    have hnf := Phase.ne_failed hp
    obtain ⟨hlog, hrest⟩ := h.next_log hnf hi
    refine ⟨ht, h.watches, ?_, ?_, ?_, fun _ => ?_, h.noError, ?_⟩
    · exact h.delivers.snoc hlog hd
    · simp [note, found, h.count]
    · simp [note, h.answered]
    · simpa [note, found] using hrest.symm
    · exact fun hf => absurd hf hnf
  | malformed log rest e hp hi hd =>
    obtain ⟨hlog, -⟩ := h.next_log (Phase.ne_failed hp) hi
    exact h.fails ht (.inr ⟨log, hlog, hd⟩)
  | failed e hp hs hl => exact h.fails ht (.inl hs)
  | completed l hp hf hs hl =>
    have hitems : l.logs.items = r.iterator.link.logs.items := by
      rcases hl with rfl | ⟨-, rfl⟩ <;> rfl
    have hnf : r.iterator.phase ≠ .failed := by simp [hp]
    refine ⟨ht, by simp [note], h.delivers, h.count, ?_, fun _ => ?_, fun _ => h.noError hnf,
      by simp [note]⟩
    · simpa [note, hp, Phase.isTerminal] using h.answered
    · exact hitems.trans (h.queue hnf)
  | exhausted hp hi =>
    have hnf : r.iterator.phase ≠ .failed := by simp [hp]
    rw [note_refused]
    exact ⟨h.tracks, by simp, h.delivers, by simpa using h.count, by simp [Phase.isTerminal],
      fun _ => h.queue hnf, fun _ => h.noError hnf, by simp⟩

theorem take (h : r.Sound decode) : r.take.Sound decode :=
  ⟨h.1, h.2, h.3, h.4, h.5, h.6, h.7, fun hp => ⟨rfl, (h.failed hp).2⟩⟩

theorem close (h : r.Sound decode) :
    ({ r with iterator := r.iterator.close } : Reading ρ).Sound decode := by
  have hlogs := r.iterator.link.unsubscribe_logs
  rw [Iterator.close_eq]
  by_cases hp : r.iterator.phase = .active
  · have hnf : r.iterator.phase ≠ .failed := by simp [hp]
    simp only [hp, if_true]
    refine ⟨h.tracks.unsubscribe, by simp, h.delivers, h.count, ?_, fun _ => ?_,
      fun _ => h.noError hnf, by simp⟩
    · simpa [hp, Phase.isTerminal] using h.answered
    · rw [hlogs]
      exact h.queue hnf
  · simp only [hp, if_false]
    refine ⟨h.tracks.unsubscribe, fun hp' => absurd hp' hp, h.delivers, h.count, h.answered,
      fun hnf => ?_, h.noError, h.failed⟩
    rw [hlogs]
    exact h.queue hnf

/-- Every action keeps what holds. -/
theorem act (h : r.Sound decode) (a : ReadingAction) : (r.act decode a).Sound decode :=
  act_induction h.tracks h.watches h (fun _ _ hm => h.feed hm) (fun _ _ hr => h.round hr)
    (fun _ h => h.take) a fun _ => h.close

/-- What holds in a state holds in every state that is reached from it. -/
theorem run (h : r.Sound decode) (actions : List ReadingAction) :
    (r.run decode actions).Sound decode := by
  induction actions generalizing r with
  | nil => exact h
  | cons a actions ih => exact ih (h.act a)

/-- What every action keeps holds in every state that is reached. -/
theorem run_keeps {motive : Reading ρ → Prop} (h : r.Sound decode) (here : motive r)
    (step : ∀ r : Reading ρ, r.Sound decode → motive r → ∀ a, motive (r.act decode a))
    (actions : List ReadingAction) : motive (r.run decode actions) := by
  induction actions generalizing r with
  | nil => exact here
  | cons a actions ih => exact ih (h.act a) (step r h here a)

theorem start (origin : Origin) : (Reading.start origin : Reading ρ).Sound decode := by
  cases origin with
  | live capacity => exact live capacity
  | buffered logs => exact buffered logs

end Sound

end Reading

end AbiBindings.Stream
