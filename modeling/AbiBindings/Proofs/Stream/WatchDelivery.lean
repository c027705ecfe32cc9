import AbiBindings.Proofs.Stream.Delivery
import AbiBindings.Proofs.Stream.Watching

/-!
# Watching all that a feed has to send

A watch whose feed sends some logs and is then finished, whose owner does not ask it to end, and
whose sink is read until the reader is told that there is no more.

Results:
* `WatchDelivery.Faithful.step`: what holds while nobody asks the task to end.
* `WatchDelivery.Faithful.keepsTo`: what the reader has seen is what is to come of the logs.
* `WatchDelivery.progress`: the reader is told the end.
-/

namespace AbiBindings.Stream

/-! ## What is left to be done -/

/-- What a task has still to do about the record that it holds, and its end. -/
def Task.weight : Task ρ → Nat
  | .receiving => 1
  | .sending _ => 3
  | .ended _ => 0

namespace Watch

/-- How far a watch is from its end, as far as its task and the reader of its sink bring it
there. -/
def weight (w : Watch ρ) : Nat := w.link.weight + w.task.weight + w.sink.items.length

/-- Why a round may change nothing. -/
inductive Idle (w : Watch ρ) : Prop
  | finished (h : w.isFinished = true)
  | noLog (ht : w.task = .receiving) (hi : w.link.logs.items = []) (hf : w.link.hasFeed = true)
  | noRoom (record : ρ) (ht : w.task = .sending record) (hm : w.sink.hasRoom = false)

variable {decode : Log → Except Error ρ} {s : Supply} {w w' : Watch ρ}

theorem task_weight_pos (hgo : w.isFinished = false) : 0 < w.task.weight := by
  cases ht : w.task with
  | receiving => rw [Task.weight]; omega
  | sending record => rw [Task.weight]; omega
  | ended result => simp [isFinished, ht] at hgo

/-- A task that ends has nothing more to do. -/
theorem weight_finish {l : Link} (hl : w.link.Reads l) (hgo : w.isFinished = false)
    (quit : OneShot Unit) (result : Except Error Unit) :
    (finish { w with link := l, quit := quit } result).weight < w.weight := by
  have hdrop := l.weight_dropSubscription_le
  have hread := hl.weight_le
  have hpos := task_weight_pos hgo
  show l.dropSubscription.weight + 0 + w.sink.items.length < _
  rw [weight]
  omega

/-- A round waits, or less is left to be done. -/
theorem Round.nearer {logs : List Log} {records : List ρ} {p : Pass Unit}
    (h : Round decode s w logs records p w') :
    (w' = w ∧ logs = [] ∧ records = [] ∧ w.Idle) ∨ w'.weight < w.weight := by
  cases h with
  | finished result ht => exact .inl ⟨rfl, rfl, rfl, .finished (by simp [isFinished, ht])⟩
  | waitLog ht hi hf => exact .inl ⟨rfl, rfl, rfl, .noLog ht hi hf⟩
  | waitRoom record ht hr hm => exact .inl ⟨rfl, rfl, rfl, .noRoom record ht hm⟩
  | record log rest record ht hi hd =>
    right
    have hw := Link.weight_withItems hi
    show (w.link.withItems rest).weight + 3 + w.sink.items.length < _
    rw [weight, ht, Task.weight]
    omega
  | malformed log rest e ht hi hd =>
    exact .inr (weight_finish (.take log rest hi) (by simp [isFinished, ht]) w.quit _)
  | put record ht hr =>
    right
    show w.link.weight + 1 + (w.sink.items ++ [record]).length < _
    rw [weight, ht, Task.weight, List.length_append, List.length_singleton]
    omega
  | unread record ht hr =>
    exact .inr (weight_finish .same (by simp [isFinished, ht]) w.quit _)
  | completed l ht hi hf hs hl =>
    exact .inr (weight_finish hl (by simp [isFinished, ht]) w.quit _)
  | failed e hrun hs hl => exact .inr (weight_finish (.learn hl) hrun w.quit _)
  | learned hrun hf hs hl =>
    right
    have hw := Link.weight_learn hl
    show w.link.learn.weight + w.task.weight + w.sink.items.length < _
    rw [weight]
    omega
  | stopped hrun hq => exact .inr (weight_finish .same hrun .taken _)

/-- What the owner of a watch is told when its task has ended: the error, if any. -/
def outcome? (w : Watch ρ) : Option (Option Error) :=
  match w.task with
  | .ended (.ok ()) => some none
  | .ended (.error e) => some (some e)
  | .receiving | .sending _ => none

theorem outcome?_isSome (w : Watch ρ) : w.outcome?.isSome = w.isFinished := by
  unfold outcome? isFinished
  split <;> simp [*]

end Watch

/-! ## The system -/

/-- The three sides of a subscription that is watched. -/
inductive WatchSide where
  | feed
  | task
  | reader

/-- What the reader of the sink and the owner of a watch have seen. -/
def Watching.seen (w : Watching ρ) : Seen ρ where
  records := w.received
  ending? := if w.sawEnd then w.watch.outcome? else none

/-- A watch with the logs that its feed has still to send. -/
structure WatchDelivery (ρ : Type) where
  watching : Watching ρ
  offers : List Log

namespace WatchDelivery

/-- Its feed. -/
def feeder (d : WatchDelivery ρ) : Feeder := ⟨d.watching.watch.link, d.watching.supply, d.offers⟩

/-- One of the three sides acts. -/
def step (decode : Log → Except Error ρ) (d : WatchDelivery ρ) (t : Turn WatchSide) :
    WatchDelivery ρ :=
  match t.side with
  | .feed =>
    let call := d.feeder.call t.start
    { watching := d.watching.act decode (.feed call)
      offers := Feeder.left d.offers (call.act d.watching.watch.link).1 }
  | .task => { d with watching := d.watching.act decode (.round t.start) }
  | .reader => { d with watching := d.watching.act decode .receive }

/-- A watch that has just been started over a subscription whose feed has done nothing. -/
def start (capacity room : Nat) (logs : List Log) : WatchDelivery ρ :=
  ⟨.start capacity room, logs⟩

/-- The delivery with its feed in another state. -/
def setFeeder (d : WatchDelivery ρ) (f : Feeder) : WatchDelivery ρ where
  watching := { d.watching with
    watch := { d.watching.watch with link := f.link }
    supply := f.supply }
  offers := f.offers

theorem step_feed (decode : Log → Except Error ρ) (d : WatchDelivery ρ) (start : Nat) :
    d.step decode ⟨.feed, start⟩ = d.setFeeder (d.feeder.turn start) := rfl

/-! ## What holds in every state -/

/-- What holds while nobody asks the task to end and the sink has a reader. -/
structure Faithful (decode : Log → Except Error ρ) (logs : List Log) (d : WatchDelivery ρ) :
    Prop where
  sound : d.watching.Sound decode
  unasked : d.watching.watch.canQuit = true
  read : d.watching.watch.sink.hasReceiver = true
  room : 0 < d.watching.watch.sink.capacity
  finished : d.feeder.link.hasFeed = false → d.offers = []
  /-- Only a task that has ended asks the feed to stop. -/
  clean : d.watching.watch.isFinished = false → d.feeder.Clean logs
  outcome : ∀ e, d.watching.watch.outcome? = some e →
    d.watching.put = recordsOf decode logs ∧ e = firstError? decode logs

variable {decode : Log → Except Error ρ} {logs : List Log} {d : WatchDelivery ρ}

namespace Faithful

theorem start (capacity room : Nat) (logs : List Log) (hroom : 0 < room) :
    Faithful decode logs (WatchDelivery.start capacity room logs) where
  sound := .start capacity room
  unasked := rfl
  read := rfl
  room := hroom
  finished := (Feeder.Clean.connect capacity logs).finished
  clean _ := .connect capacity logs
  outcome e h := by simp [WatchDelivery.start, Watching.start, Watch.start, Watch.outcome?] at h

theorem feed (h : Faithful decode logs d) (start : Nat) :
    Faithful decode logs (d.step decode ⟨.feed, start⟩) :=
  ⟨h.sound.act (.feed (d.feeder.call start)), h.unasked, h.read, h.room,
    Feeder.turn_finished h.sound.wired.tracks h.finished start, fun hgo => (h.clean hgo).turn start,
    h.outcome⟩

/-- The end of the task agrees with what is to come of the logs. -/
theorem outcome_of_sound {w : Watching ρ} (h : w.Sound decode) (hasked : w.watch.canQuit = true)
    (hread : w.watch.sink.hasReceiver = true) (hinit : w.supply.accepted <+: logs)
    (hfailures : w.supply.failures = [])
    (hall : w.watch.link.hasFeed = false → w.supply.accepted = logs) (e : Option Error)
    (he : w.watch.outcome? = some e) :
    w.put = recordsOf decode logs ∧ e = firstError? decode logs := by
  have hdelivers : Delivers decode logs w.put := h.ordered.delivers.mono hinit
  cases ht : w.watch.task with
  | receiving | sending record => simp [Watch.outcome?, ht] at he
  | ended result =>
    cases result with
    | ok =>
      simp only [Watch.outcome?, ht, Option.some.injEq] at he
      rcases h.truthful.ok ht with hno | hno | ⟨hf, -, hlen⟩
      · exact absurd (hasked.symm.trans hno) (by simp)
      · exact absurd (hread.symm.trans hno) (by simp)
      · rw [hall hf] at hlen
        obtain ⟨hrecords, hfirst⟩ := hdelivers.recordsOf_of_length hlen
        exact ⟨hrecords.symm, by rw [hfirst, he]⟩
    | error e' =>
      simp only [Watch.outcome?, ht, Option.some.injEq] at he
      rcases h.truthful.error e' ht with hs | ⟨log, hl, hd⟩
      · rw [hfailures] at hs
        simp at hs
      · have hlog : logs[w.put.length]? = some log := getElem?_of_prefix hinit hl
        obtain ⟨hrecords, hfirst⟩ := hdelivers.recordsOf_of_error hlog hd
        exact ⟨hrecords.symm, by rw [hfirst, he]⟩

/-- A round of the task. -/
theorem round (h : Faithful decode logs d) {taken : List Log} {put : List ρ} {p : Pass Unit}
    {watch : Watch ρ} (hr : d.watching.watch.Round decode d.watching.supply taken put p watch) :
    Faithful decode logs { d with watching := { d.watching with
      watch := watch, taken := d.watching.taken ++ taken, put := d.watching.put ++ put } } := by
  have hsound := h.sound.move (.round taken put p watch hr)
  obtain ⟨hquit, hreceiver, hcapacity⟩ := hr.kept
  cases hgo : d.watching.watch.isFinished with
  | true =>
    obtain ⟨rfl, rfl, rfl⟩ := hr.eq_of_finished hgo
    exact ⟨hsound, h.unasked, h.read, h.room, h.finished, h.clean, by simpa using h.outcome⟩
  | false =>
    have hclean := h.clean hgo
    obtain ⟨l, hl, hlink⟩ := hr.reads
    have hfeed : watch.link.hasFeed = d.feeder.link.hasFeed := by
      rcases hlink with ⟨hlink, -⟩ | ⟨hlink, -⟩
      · rw [hlink, hl.hasFeed_eq]
        rfl
      · rw [hlink, Link.dropSubscription_hasFeed, hl.hasFeed_eq]
        rfl
    refine ⟨hsound, hquit.trans h.unasked, hreceiver.trans h.read, hcapacity.symm ▸ h.room,
      fun hf => h.finished (hfeed.symm.trans hf), fun hgo' => ?_, ?_⟩
    · rcases hlink with ⟨hlink, -⟩ | ⟨-, hover⟩
      · rw [feeder, hlink]
        exact hclean.reads hl
      · exact absurd (hover.symm.trans hgo') (by simp)
    · exact outcome_of_sound hsound (hquit.trans h.unasked) (hreceiver.trans h.read)
        ⟨d.offers, hclean.all⟩ hclean.noFailure fun hf => hclean.accepted_eq (hfeed.symm.trans hf)

theorem task (h : Faithful decode logs d) (start : Nat) :
    Faithful decode logs (d.step decode ⟨.task, start⟩) :=
  h.round (h.sound.wired.round_of_pass decode start)

theorem step_reader (h : Faithful decode logs d) (start : Nat) :
    d.step decode ⟨.reader, start⟩ = { d with watching := d.watching.receive } := by
  simp only [WatchDelivery.step, Watching.act, h.read, if_true]

theorem receive (h : Faithful decode logs d) (start : Nat) :
    Faithful decode logs (d.step decode ⟨.reader, start⟩) := by
  have hsound := h.sound.move (Watching.receive_move h.read)
  rw [h.step_reader]
  rcases d.watching.receive_cases with ⟨-, -, heq⟩ | ⟨record, rest, hi, heq⟩ | ⟨hi, hs, heq⟩ <;>
    rw [heq] at hsound ⊢
  · exact h
  · exact ⟨hsound, h.unasked, h.read, h.room, h.finished, h.clean, h.outcome⟩
  · exact ⟨hsound, h.unasked, h.read, h.room, h.finished, h.clean, h.outcome⟩

theorem step (h : Faithful decode logs d) (t : Turn WatchSide) :
    Faithful decode logs (d.step decode t) := by
  obtain ⟨side, start⟩ := t
  cases side with
  | feed => exact h.feed start
  | task => exact h.task start
  | reader => exact h.receive start

/-- The records in the sink are part of what is to come of the logs. -/
theorem put_prefix (h : Faithful decode logs d) : d.watching.put <+: recordsOf decode logs := by
  cases hgo : d.watching.watch.isFinished with
  | true =>
    obtain ⟨e, he⟩ := Option.isSome_iff_exists.mp (d.watching.watch.outcome?_isSome.trans hgo)
    obtain ⟨hput, -⟩ := h.outcome e he
    exact ⟨[], by rw [List.append_nil, hput]⟩
  | false =>
    have hinit : d.watching.supply.accepted <+: logs := ⟨d.offers, (h.clean hgo).all⟩
    exact (h.sound.ordered.delivers.mono hinit).prefix_recordsOf

/-- What the reader has seen is part of what is to come of the logs, and at the end it is all. -/
theorem keepsTo (h : Faithful decode logs d) : d.watching.seen.KeepsTo decode logs := by
  have hstored := h.sound.ordered.stored h.read
  constructor
  · show d.watching.received <+: _
    refine List.IsPrefix.trans ?_ h.put_prefix
    rw [hstored]
    exact List.prefix_append _ _
  · intro e he
    cases hsaw : d.watching.sawEnd with
    | false => simp [Watching.seen, hsaw] at he
    | true =>
      have hout : d.watching.watch.outcome? = some e := by simpa [Watching.seen, hsaw] using he
      obtain ⟨hput, hfirst⟩ := h.outcome e hout
      rw [(h.sound.wired.told hsaw).2, List.append_nil] at hstored
      exact ⟨hstored.symm.trans hput, hfirst⟩

end Faithful

/-! ## The end -/

/-- Whether the reader of the sink has been told that there is no more. -/
def IsOver (d : WatchDelivery ρ) : Prop := d.watching.sawEnd = true

/-- How far a delivery is from its end. -/
def weight (d : WatchDelivery ρ) : Nat :=
  d.feeder.weight + d.watching.watch.task.weight + d.watching.watch.sink.items.length +
    (!d.watching.sawEnd).toNat

namespace Faithful

theorem ending_of_over (h : Faithful decode logs d) (hover : d.IsOver) :
    d.watching.seen.ending?.isSome = true := by
  have hsaw : d.watching.sawEnd = true := hover
  simp [Watching.seen, hsaw, Watch.outcome?_isSome, (h.sound.wired.told hsaw).1]

theorem feed_lt (start : Nat) (hlt : (d.feeder.turn start).weight < d.feeder.weight) :
    (d.step decode ⟨.feed, start⟩).weight < d.weight := by
  show (d.feeder.turn start).weight + d.watching.watch.task.weight +
    d.watching.watch.sink.items.length + (!d.watching.sawEnd).toNat < _
  rw [weight]
  omega

/-- A call of the feed changes nothing, or it brings the end nearer. -/
theorem feed_nearer (h : Faithful decode logs d) (start : Nat) :
    d.step decode ⟨.feed, start⟩ = d ∨ (d.step decode ⟨.feed, start⟩).weight < d.weight := by
  rcases Feeder.turn_nearer h.sound.wired.tracks h.finished start with heq | hlt
  · left
    rw [step_feed, heq]
    rfl
  · exact .inr (feed_lt start hlt)

/-- A round of the task changes nothing and has a reason to wait, or it brings the end nearer. -/
theorem task_nearer (h : Faithful decode logs d) (start : Nat) :
    (d.step decode ⟨.task, start⟩ = d ∧ d.watching.watch.Idle) ∨
      (d.step decode ⟨.task, start⟩).weight < d.weight := by
  have hr := h.sound.wired.round_of_pass decode start
  have hstep : d.step decode ⟨.task, start⟩ = { d with watching := { d.watching with
      watch := (d.watching.watch.pass decode start).2
      taken := d.watching.taken ++ d.watching.watch.takes start
      put := d.watching.put ++ d.watching.watch.puts start } } := rfl
  rcases hr.nearer with ⟨hwatch, htakes, hputs, hidle⟩ | hlt
  · left
    refine ⟨?_, hidle⟩
    rw [hstep, hwatch, htakes, hputs, List.append_nil, List.append_nil]
  · right
    rw [hstep]
    simp only [Watch.weight] at hlt
    simp only [weight, Feeder.weight, feeder]
    omega

/-- The reader waits for the task, or its turn brings the end nearer. -/
theorem reader_nearer (h : Faithful decode logs d) (hover : ¬ d.IsOver) (start : Nat) :
    (d.step decode ⟨.reader, start⟩ = d ∧ d.watching.watch.sink.items = [] ∧
      d.watching.watch.isFinished = false) ∨
    (d.step decode ⟨.reader, start⟩).weight < d.weight := by
  rw [h.step_reader]
  rcases d.watching.receive_cases with ⟨hi, hs, heq⟩ | ⟨record, rest, hi, heq⟩ | ⟨hi, hs, heq⟩
  · left
    rw [heq]
    exact ⟨rfl, hi, by simpa [hs] using h.sound.wired.sender⟩
  · right
    rw [heq]
    simp only [weight, Feeder.weight, feeder, hi, List.length_cons]
    omega
  · right
    have hsaw : d.watching.sawEnd = false := by simpa [IsOver] using hover
    rw [heq]
    simp only [weight, Feeder.weight, feeder, hsaw, Bool.not_true, Bool.not_false,
      Bool.toNat_true, Bool.toNat_false]
    omega

/-- One of the three sides always brings the end nearer. -/
theorem helps (h : Faithful decode logs d) (hover : ¬ d.IsOver) :
    ∃ side, ∀ start, (d.step decode ⟨side, start⟩).weight < d.weight := by
  by_cases hidle : d.watching.watch.Idle
  · cases hidle with
    | finished hfinished =>
      -- The sink has no more to come, so the reader is given a record or is told the end.
      refine ⟨.reader, fun start => ?_⟩
      rcases h.reader_nearer hover start with ⟨-, -, hgo⟩ | hlt
      · exact absurd (hfinished.symm.trans hgo) (by simp)
      · exact hlt
    | noLog ht hi hf =>
      -- The queue is empty, so the feed has room for a log, or it is about to be finished.
      refine ⟨.feed, fun start => ?_⟩
      have hclean := h.clean (by simp [Watch.isFinished, ht])
      exact feed_lt start
        (hclean.turn_lt hf (Channel.hasRoom_of_items_nil hclean.tracks.capacity hi) start)
    | noRoom record ht hm =>
      -- The sink is full, so it holds a record for the reader.
      refine ⟨.reader, fun start => ?_⟩
      rcases h.reader_nearer hover start with ⟨-, hi, -⟩ | hlt
      · rw [Channel.hasRoom_of_items_nil h.room hi] at hm
        simp at hm
      · exact hlt
  · refine ⟨.task, fun start => ?_⟩
    rcases h.task_nearer start with ⟨-, hno⟩ | hlt
    · exact absurd hno hidle
    · exact hlt

end Faithful

theorem progress (decode : Log → Except Error ρ) (logs : List Log) :
    Progress (step decode) Turn.side (Faithful decode logs) IsOver weight where
  keeps d t h := h.step t
  nearer d t h hover := by
    obtain ⟨side, start⟩ := t
    cases side with
    | feed => exact h.feed_nearer start
    | task => exact (h.task_nearer start).imp And.left id
    | reader => exact (h.reader_nearer hover start).imp And.left id
  helps d h hover := by
    obtain ⟨side, hside⟩ := h.helps hover
    refine ⟨side, ?_⟩
    rintro ⟨side, start⟩ rfl
    exact hside start

end WatchDelivery

end AbiBindings.Stream
