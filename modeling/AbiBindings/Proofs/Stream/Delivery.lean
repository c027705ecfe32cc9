import AbiBindings.Proofs.Stream.Feeder
import AbiBindings.Proofs.Stream.IteratorRuns
import AbiBindings.Proofs.Stream.Turns

/-!
# Reading all that a feed has to send

An iterator whose feed sends some logs and is then finished, and whose reader goes on until it is
told that there is no more. Over logs at hand the feed has done so before.

Results:
* `Delivery.Faithful.step`: what holds while nobody asks the feed to stop.
* `Delivery.Faithful.keepsTo`: what the reader has seen is what is to come of the logs.
* `Delivery.live_progress`, `Delivery.buffered_progress`: the reader is told the end.
-/

namespace AbiBindings.Stream

/-- How far an iterator is from its end. -/
def Phase.rank : Phase → Nat
  | .active => 2
  | .draining => 1
  | .failed | .exhausted => 0

/-- A round waits for the feed to do something, or less is left to be done. -/
theorem Iterator.Round.nearer {decode : Log → Except Error ρ} {s : Supply} {i i' : Iterator ρ}
    {p : Pass Bool} (h : Round decode s i p i') (hp : i.phase.isTerminal = false) :
    (p = .pending ∧ i' = i ∧ i.phase = .active ∧ i.link.logs.items = [] ∧ i.link.hasFeed = true) ∨
      i'.link.weight + i'.phase.rank < i.link.weight + i.phase.rank := by
  cases h with
  | finished hp' => simp [hp] at hp'
  | wait ha hi hf hl => exact .inl ⟨rfl, rfl, ha, hi, hf⟩
  | record log rest record hp' hi hd =>
    right
    have hw := Link.weight_withItems hi
    show (i.link.withItems rest).weight + i.phase.rank < _
    omega
  | malformed log rest e hp' hi hd =>
    right
    have hw := Link.weight_withItems hi
    show (i.link.withItems rest).weight + 0 < _
    omega
  | failed e ha hs hl =>
    right
    have hw := Link.weight_learn hl
    show i.link.learn.weight + 0 < _
    omega
  | completed l ha hf hs hl =>
    right
    have hw : l.weight ≤ i.link.weight := by
      rcases hl with rfl | ⟨hl, rfl⟩
      · exact Nat.le_refl _
      · exact Nat.le_of_lt (Link.weight_learn hl)
    have hrank : i.phase.rank = 2 := by rw [ha, Phase.rank]
    show l.weight + 1 < _
    omega
  | exhausted hd hi =>
    right
    show i.link.weight + 0 < _
    rw [hd]
    exact Nat.lt_add_one _

/-! ## The system -/

/-- A turn of one side: which it is, and where its choice begins. -/
structure Turn (π : Type) where
  side : π
  start : Nat

/-- The two sides of a subscription that is read with an iterator. -/
inductive ReadingSide where
  | feed
  | reader

/-- What the reader of an iterator has seen. -/
def Reading.seen (r : Reading ρ) : Seen ρ where
  records := r.records
  ending? := if false ∈ r.answers then some r.iterator.error? else none

/-- An iterator with the logs that its feed has still to send. -/
structure Delivery (ρ : Type) where
  reading : Reading ρ
  offers : List Log

namespace Delivery

/-- Its feed. -/
def feeder (d : Delivery ρ) : Feeder := ⟨d.reading.iterator.link, d.reading.supply, d.offers⟩

/-- One of the two sides acts: the feed makes its next call, or the reader asks for the next
record. -/
def step (decode : Log → Except Error ρ) (d : Delivery ρ) (t : Turn ReadingSide) : Delivery ρ :=
  match t.side with
  | .feed =>
    let call := d.feeder.call t.start
    { reading := d.reading.act decode (.feed call)
      offers := Feeder.left d.offers (call.act d.reading.iterator.link).1 }
  | .reader => { d with reading := d.reading.act decode (.next t.start) }

/-- An iterator over a subscription whose feed has done nothing. -/
def live (capacity : Nat) (logs : List Log) : Delivery ρ := ⟨.live capacity, logs⟩

/-- The delivery with its feed in another state. -/
def setFeeder (d : Delivery ρ) (f : Feeder) : Delivery ρ where
  reading := { d.reading with
    iterator := { d.reading.iterator with link := f.link }
    supply := f.supply }
  offers := f.offers

theorem step_feed (decode : Log → Except Error ρ) (d : Delivery ρ) (start : Nat) :
    d.step decode ⟨.feed, start⟩ = d.setFeeder (d.feeder.turn start) := rfl

/-! ## What holds in every state -/

/-- What holds while nobody asks the feed to stop. -/
structure Faithful (decode : Log → Except Error ρ) (logs : List Log) (d : Delivery ρ) : Prop where
  sound : d.reading.Sound decode
  clean : d.feeder.Clean logs
  closing : d.reading.iterator.phase.isClosing = true → d.reading.Completed

variable {decode : Log → Except Error ρ} {logs : List Log} {d : Delivery ρ}

namespace Faithful

theorem live (capacity : Nat) (logs : List Log) :
    Faithful decode logs (Delivery.live capacity logs) where
  sound := .live capacity
  clean := .connect capacity logs
  closing h := by simp [Delivery.live, Reading.live, Iterator.live, Phase.isClosing] at h

theorem buffered (logs : List Log) : Faithful decode logs ⟨Reading.buffered logs, []⟩ := by
  have hsound : (Reading.buffered logs : Reading ρ).Sound decode := .buffered logs
  have hlink : (Reading.buffered logs : Reading ρ).iterator.link = Link.ofLogs logs := rfl
  have hsupply : (Reading.buffered logs : Reading ρ).supply = ⟨logs, []⟩ := by
    rw [Reading.buffered, Link.run_fill]
  have hfeed : (Link.ofLogs logs).hasFeed = false := by
    rw [Link.ofLogs_eq]
    rfl
  refine ⟨hsound, ⟨hsound.tracks, ?_, ?_, ?_, ?_, ?_, fun _ => rfl⟩, fun _ => ⟨hfeed, ?_, ?_⟩⟩
  · simp [feeder, hsupply]
  · simp [feeder, hsupply]
  · rw [feeder, hlink, Link.ofLogs_eq]
    rfl
  · intro hf
    exact absurd (hfeed.symm.trans hf) (by simp)
  · rw [feeder, hlink, Link.ofLogs_eq]
  · rw [hsupply]
  · intro hp
    simp [Reading.buffered, Iterator.buffered] at hp

/-- What an action that is not a request to stop keeps. -/
theorem closing_act (h : Faithful decode logs d) {a : ReadingAction} (ha : a ≠ .close)
    (hp : (d.reading.act decode a).iterator.phase.isClosing = true) :
    (d.reading.act decode a).Completed := by
  cases hnow : d.reading.iterator.phase.isClosing with
  | true => exact (h.closing hnow).act h.sound a
  | false => exact h.sound.completed_of_closing ha hnow hp

theorem read (h : Faithful decode logs d) (start : Nat) :
    Faithful decode logs { d with reading := d.reading.act decode (.next start) } := by
  have hreads := (h.sound.round_of_pass start).reads
  refine ⟨h.sound.act (.next start), ?_, h.closing_act (by simp)⟩
  have hclean := h.clean.reads hreads
  simp only [feeder, Reading.act, Reading.note_iterator, Reading.note_supply]
  exact hclean

theorem step (h : Faithful decode logs d) (t : Turn ReadingSide) :
    Faithful decode logs (d.step decode t) := by
  obtain ⟨side, start⟩ := t
  cases side with
  | feed =>
    exact ⟨h.sound.act (.feed (d.feeder.call start)), h.clean.turn start, h.closing_act (by simp)⟩
  | reader => exact h.read start

/-- What the reader has seen is part of what is to come of the logs, and at the end it is all. -/
theorem keepsTo (h : Faithful decode logs d) : d.reading.seen.KeepsTo decode logs := by
  have hprefix : d.reading.supply.accepted <+: logs := ⟨d.offers, h.clean.all⟩
  have hdelivers : Delivers decode logs d.reading.records := h.sound.delivers.mono hprefix
  refine ⟨hdelivers.prefix_recordsOf, ?_⟩
  intro e he
  have hanswer : false ∈ d.reading.answers := by
    apply Classical.byContradiction
    intro hn
    simp [Reading.seen, hn] at he
  have herr : d.reading.iterator.error? = e := by simpa [Reading.seen, hanswer] using he
  have hterminal := h.sound.answered.mp hanswer
  cases hp : d.reading.iterator.phase with
  | active | draining => simp [hp, Phase.isTerminal] at hterminal
  | failed =>
    obtain ⟨-, e', he', hs | ⟨log, hl, hd⟩⟩ := h.sound.failed hp
    · simp [show d.reading.supply.failures = [] from h.clean.noFailure] at hs
    · have hlog : logs[d.reading.records.length]? = some log := getElem?_of_prefix hprefix hl
      obtain ⟨hall, hfirst⟩ := hdelivers.recordsOf_of_error hlog hd
      exact ⟨hall.symm, by rw [← herr, he', hfirst]⟩
  | exhausted =>
    have hdone := h.closing (by simp [hp, Phase.isClosing])
    have hlen : d.reading.records.length = logs.length := by
      rw [← h.clean.accepted_eq hdone.hasFeed]
      exact hdone.all hp
    obtain ⟨hall, hfirst⟩ := hdelivers.recordsOf_of_length hlen
    exact ⟨hall.symm, by rw [← herr, h.sound.noError (by simp [hp]), hfirst]⟩

end Faithful

/-! ## The end -/

/-- Whether the reader has been told that there is no more. -/
def IsOver (d : Delivery ρ) : Prop := d.reading.iterator.phase.isTerminal = true

/-- How far a delivery is from its end. -/
def weight (d : Delivery ρ) : Nat := d.feeder.weight + d.reading.iterator.phase.rank

namespace Faithful

theorem ending_of_over (h : Faithful decode logs d) (hover : d.IsOver) :
    d.reading.seen.ending?.isSome = true := by
  simp [Reading.seen, h.sound.answered.mpr hover]

/-- A turn of the reader waits for the feed, or it brings the end nearer. -/
theorem read_nearer (h : Faithful decode logs d) (hp : ¬ d.IsOver) (start : Nat) :
    ({ d with reading := d.reading.act decode (.next start) } = d ∧
      d.reading.iterator.phase = .active ∧ d.feeder.link.logs.items = [] ∧
      d.feeder.link.hasFeed = true) ∨
    ({ d with reading := d.reading.act decode (.next start) } : Delivery ρ).weight < d.weight := by
  rcases (h.sound.round_of_pass start).nearer (by simpa [IsOver] using hp) with
    ⟨hwait, -, ha, hi, hf⟩ | hlt
  · left
    rw [(h.sound.act_of_pending hwait).1]
    exact ⟨rfl, ha, hi, hf⟩
  · right
    simp only [weight, Feeder.weight, feeder, Reading.act, Reading.note_iterator,
      Reading.note_supply]
    omega

/-- A call of the feed that finds room brings the end nearer. -/
theorem feed_lt (h : Faithful decode logs d) (hf : d.feeder.link.hasFeed = true)
    (hi : d.feeder.link.logs.items = []) (start : Nat) :
    (d.step decode ⟨.feed, start⟩).weight < d.weight := by
  have hroom := Channel.hasRoom_of_items_nil h.clean.tracks.capacity hi
  have hlt := h.clean.turn_lt hf hroom start
  show (d.feeder.turn start).weight + d.reading.iterator.phase.rank < _
  rw [weight]
  omega

end Faithful

theorem live_progress (decode : Log → Except Error ρ) (logs : List Log) :
    Progress (step decode) Turn.side (Faithful decode logs) IsOver weight where
  keeps d t h := h.step t
  nearer d t h hp := by
    obtain ⟨side, start⟩ := t
    cases side with
    | feed =>
      rcases Feeder.turn_nearer h.clean.tracks h.clean.finished start with heq | hlt
      · left
        rw [step_feed, heq]
        rfl
      · right
        show (d.feeder.turn start).weight + d.reading.iterator.phase.rank < _
        rw [weight]
        omega
    | reader =>
      rcases h.read_nearer hp start with ⟨heq, -⟩ | hlt
      · exact .inl heq
      · exact .inr hlt
  helps d h hp := by
    by_cases hwait : d.feeder.link.logs.items = [] ∧ d.feeder.link.hasFeed = true
    · -- The reader may have to wait, and there is room in the queue.
      refine ⟨.feed, ?_⟩
      rintro ⟨side, start⟩ rfl
      exact h.feed_lt hwait.2 hwait.1 start
    · refine ⟨.reader, ?_⟩
      rintro ⟨side, start⟩ rfl
      rcases h.read_nearer hp start with ⟨-, -, hi, hf⟩ | hlt
      · exact absurd ⟨hi, hf⟩ hwait
      · exact hlt

/-- The reader of logs at hand is alone. -/
theorem buffered_progress (decode : Log → Except Error ρ) (logs : List Log) :
    Progress (fun (r : Reading ρ) start => r.act decode (.next start)) (fun _ => ())
      (fun r => Faithful decode logs ⟨r, []⟩ ∧ r.iterator.phase ≠ .active)
      (fun r => IsOver ⟨r, []⟩) (fun r => weight ⟨r, []⟩) where
  keeps r start h := ⟨h.1.read start, h.1.sound.act_not_active h.2 (.next start)⟩
  nearer r start h hp := by
    rcases h.1.read_nearer hp start with ⟨-, ha, -⟩ | hlt
    · exact absurd ha h.2
    · exact .inr hlt
  helps r h hp := by
    refine ⟨(), ?_⟩
    intro start _
    rcases h.1.read_nearer hp start with ⟨-, ha, -⟩ | hlt
    · exact absurd ha h.2
    · exact hlt

end Delivery

end AbiBindings.Stream
