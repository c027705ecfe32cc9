import AbiBindings.Proofs.Stream.Decoding
import AbiBindings.Proofs.Stream.WatchRound

/-!
# Watching a subscription

A watch together with its feed, its owner and the reader of its sink, as all of them go on. The task
of the watch goes round in a loop; each round is an action of its own, so that the others can act
between them, and it begins its choice at any of the ways to go on.

Results:
* `Watching.act_move`: all that one action can do.
* `Watching.Sound.run`: in every state that is reached, the task has taken the first logs that the
  feed had accepted and has put their records into the sink, at most one fewer; and the result of a
  task that has ended names its cause.
-/

namespace AbiBindings.Stream

/-! ## The system -/

/-- An action of the feed, the task, the reader of the sink or the owner of a watch. -/
inductive WatchAction where
  | feed (a : FeedAction)
  /-- One round of the task. -/
  | round (start : Nat)
  /-- The reader asks for the next record of the sink. -/
  | receive
  /-- The reader goes away. -/
  | dropSink
  /-- The owner asks the task to end, or goes away. -/
  | stop

/-- A watch with what has been done so far. -/
structure Watching (ρ : Type) where
  watch : Watch ρ
  supply : Supply
  /-- The logs that the task has taken from the queue, in order. -/
  taken : List Log
  /-- The records that it has put into the sink, in order. -/
  put : List ρ
  /-- The records that the reader was given, in order. -/
  received : List ρ
  /-- Whether the reader was told that there is no more. -/
  sawEnd : Bool

namespace Watching

/-- The reader asks for the next record. -/
def receive (w : Watching ρ) : Watching ρ :=
  match w.watch.sink.pollReceive with
  | (.ready (some record), sink) =>
    { w with watch := { w.watch with sink := sink }, received := w.received ++ [record] }
  | (.ready none, _) => { w with sawEnd := true }
  | (.pending, _) | (.misused, _) => w

/-- Does an action. A reader that has gone away does not ask. -/
def act (decode : Log → Except Error ρ) (w : Watching ρ) : WatchAction → Watching ρ
  | .feed a =>
    { w with
      watch := { w.watch with link := (a.act w.watch.link).2 }
      supply := w.supply.note (a.act w.watch.link).1 }
  | .round start =>
    { w with
      watch := (w.watch.pass decode start).2
      taken := w.taken ++ w.watch.takes start
      put := w.put ++ w.watch.puts start }
  | .receive => if w.watch.sink.hasReceiver then w.receive else w
  | .dropSink => { w with watch := { w.watch with sink := w.watch.sink.dropReceiver } }
  | .stop => { w with watch := w.watch.stop }

/-- Does some actions one after the other. -/
def run (decode : Log → Except Error ρ) (w : Watching ρ) (actions : List WatchAction) :
    Watching ρ :=
  actions.foldl (act decode) w

/-- A watch that has just been started over a subscription whose feed has done nothing. -/
def start (capacity room : Nat) : Watching ρ :=
  ⟨.start (.connect capacity) (.empty room), .empty, [], [], [], false⟩

/-! ## All that an action can do -/

/-- What an action can do. -/
inductive Move (decode : Log → Except Error ρ) (w : Watching ρ) : Watching ρ → Prop
  | rest : Move decode w w
  | feed (o : FeedOutcome) (l : Link) (hm : FeedMove w.watch.link o l) :
      Move decode w { w with watch := { w.watch with link := l }, supply := w.supply.note o }
  | round (logs : List Log) (records : List ρ) (p : Pass Unit) (watch : Watch ρ)
      (hr : w.watch.Round decode w.supply logs records p watch) :
      Move decode w { w with watch := watch, taken := w.taken ++ logs, put := w.put ++ records }
  | receive (record : ρ) (rest : List ρ) (hr : w.watch.sink.hasReceiver = true)
      (hi : w.watch.sink.items = record :: rest) :
      Move decode w { w with
        watch := { w.watch with sink := { w.watch.sink with items := rest } }
        received := w.received ++ [record] }
  | told (hi : w.watch.sink.items = []) (hs : w.watch.sink.hasSender = false) :
      Move decode w { w with sawEnd := true }
  | dropSink : Move decode w { w with watch := { w.watch with sink := w.watch.sink.dropReceiver } }
  | stop : Move decode w { w with watch := w.watch.stop }

/-- What the cells of a watch tell. -/
structure Wired (w : Watching ρ) : Prop where
  tracks : w.watch.link.Tracks w.supply
  quit : w.watch.isFinished = false → w.watch.quit ≠ .taken
  unasked : w.watch.canQuit = true → w.watch.quit = .waiting
  sender : w.watch.sink.hasSender = !w.watch.isFinished
  told : w.sawEnd = true → w.watch.isFinished = true ∧ w.watch.sink.items = []

variable {decode : Log → Except Error ρ} {w w' : Watching ρ}

/-- The reader waits, is given the next record, or is told that there is no more. -/
theorem receive_cases (w : Watching ρ) :
    (w.watch.sink.items = [] ∧ w.watch.sink.hasSender = true ∧ w.receive = w) ∨
    (∃ record rest, w.watch.sink.items = record :: rest ∧ w.receive = { w with
      watch := { w.watch with sink := { w.watch.sink with items := rest } }
      received := w.received ++ [record] }) ∨
    (w.watch.sink.items = [] ∧ w.watch.sink.hasSender = false ∧
      w.receive = { w with sawEnd := true }) := by
  unfold receive Channel.pollReceive
  cases hi : w.watch.sink.items with
  | cons record rest => exact .inr (.inl ⟨record, rest, rfl, rfl⟩)
  | nil =>
    cases hs : w.watch.sink.hasSender with
    | true => exact .inl ⟨rfl, rfl, rfl⟩
    | false => exact .inr (.inr ⟨rfl, rfl, rfl⟩)

theorem receive_move (hr : w.watch.sink.hasReceiver = true) : Move decode w w.receive := by
  rcases w.receive_cases with ⟨-, -, heq⟩ | ⟨record, rest, hi, heq⟩ | ⟨hi, hs, heq⟩ <;> rw [heq]
  · exact .rest
  · exact .receive record rest hr hi
  · exact .told hi hs

theorem Wired.round_of_pass (h : w.Wired) (decode : Log → Except Error ρ) (start : Nat) :
    w.watch.Round decode w.supply (w.watch.takes start) (w.watch.puts start)
      (w.watch.pass decode start).1 (w.watch.pass decode start).2 :=
  Watch.pass_round h.tracks h.quit start

theorem act_move (hw : w.Wired) (a : WatchAction) : Move decode w (w.act decode a) := by
  cases a with
  | feed a => exact .feed _ _ (a.act_move _)
  | round start => exact .round _ _ _ _ (hw.round_of_pass decode start)
  | receive =>
    rw [act]
    split
    case isTrue hr => exact receive_move hr
    case isFalse => exact .rest
  | dropSink => exact .dropSink
  | stop => exact .stop

/-! ## The cells -/

namespace Wired

theorem start (capacity room : Nat) : (Watching.start capacity room : Watching ρ).Wired where
  tracks := .connect capacity
  quit _ := by simp [Watching.start, Watch.start]
  unasked _ := rfl
  sender := rfl
  told h := by simp [Watching.start] at h

theorem round (h : w.Wired) {logs : List Log} {records : List ρ} {p : Pass Unit} {watch : Watch ρ}
    (hr : w.watch.Round decode w.supply logs records p watch) :
    Wired { w with watch := watch, taken := w.taken ++ logs, put := w.put ++ records } := by
  cases hgo : w.watch.isFinished with
  | true =>
    obtain ⟨rfl, rfl, rfl⟩ := hr.eq_of_finished hgo
    exact ⟨h.tracks, h.quit, h.unasked, h.sender, h.told⟩
  | false =>
    have hsender : w.watch.sink.hasSender = true := by simpa [hgo] using h.sender
    refine ⟨?_, ?_, ?_, ?_, fun hsaw => absurd (hgo.symm.trans (h.told hsaw).1) (by simp)⟩
    · obtain ⟨l, hl, ⟨hlink, -⟩ | ⟨hlink, -⟩⟩ := hr.reads
      · rw [hlink]
        exact h.tracks.reads hl
      · rw [hlink]
        exact (h.tracks.reads hl).dropSubscription
    · cases hr with
      | finished | waitLog | waitRoom | record | put | learned => exact fun _ => h.quit hgo
      | malformed | unread | completed | failed | stopped => simp [Watch.finish, Watch.isFinished]
    · cases hr with
      | stopped hrun hq =>
        intro hc
        rw [h.unasked hc] at hq
        simp [OneShot.isSettled] at hq
      | _ => exact h.unasked
    · cases hr with
      | finished | waitLog | waitRoom | learned => exact h.sender
      | record | put => exact hsender
      | malformed | unread | completed | failed | stopped => rfl

theorem move (h : w.Wired) (hm : Move decode w w') : w'.Wired := by
  cases hm with
  | rest => exact h
  | feed o l hm => exact ⟨h.tracks.move hm, h.quit, h.unasked, h.sender, h.told⟩
  | round logs records p watch hr => exact h.round hr
  | receive record rest hr hi =>
    refine ⟨h.tracks, h.quit, h.unasked, h.sender, fun hsaw => ?_⟩
    exact absurd ((h.told hsaw).2.symm.trans hi) (by simp)
  | told hi hs =>
    have hover : w.watch.isFinished = true := by simpa [hs] using h.sender
    exact ⟨h.tracks, h.quit, h.unasked, h.sender, fun _ => ⟨hover, hi⟩⟩
  | dropSink => exact ⟨h.tracks, h.quit, h.unasked, h.sender, fun hsaw => ⟨(h.told hsaw).1, rfl⟩⟩
  | stop =>
    unfold Watch.stop
    split
    case isTrue hc =>
      have hquit : w.watch.quit.send () ≠ .taken := by simp [h.unasked hc, OneShot.send]
      exact ⟨h.tracks, fun _ => hquit, by simp, h.sender, h.told⟩
    case isFalse => exact h

end Wired

/-! ## The order of the records -/

/-- What the task has taken and put into the sink. -/
structure Ordered (decode : Log → Except Error ρ) (w : Watching ρ) : Prop where
  taken : w.taken <+: w.supply.accepted
  delivers : Delivers decode w.supply.accepted w.put
  /-- At most one log was taken whose record is not in the sink. -/
  inFlight : w.put.length ≤ w.taken.length ∧ w.taken.length ≤ w.put.length + 1
  receiving : w.watch.task = .receiving → w.taken.length = w.put.length ∧
    w.watch.link.logs.items = w.supply.accepted.drop w.put.length
  sending : ∀ record, w.watch.task = .sending record → w.taken.length = w.put.length + 1 ∧
    w.watch.link.logs.items = w.supply.accepted.drop (w.put.length + 1) ∧
    ∃ log, w.supply.accepted[w.put.length]? = some log ∧ decode log = .ok record
  stored : w.watch.sink.hasReceiver = true → w.put = w.received ++ w.watch.sink.items

namespace Ordered

theorem start (capacity room : Nat) :
    (Watching.start capacity room : Watching ρ).Ordered decode where
  taken := List.prefix_rfl
  delivers := .nil _
  inFlight := by simp [Watching.start]
  receiving _ := ⟨rfl, rfl⟩
  sending record h := by simp [Watching.start, Watch.start] at h
  stored _ := rfl

/-- The log at the head of the queue is the one after those of the records in the sink. -/
theorem next_log (h : w.Ordered decode) (ht : w.watch.task = .receiving) {log : Log}
    {rest : List Log} (hi : w.watch.link.logs.items = log :: rest) :
    w.supply.accepted[w.put.length]? = some log ∧
      w.supply.accepted.drop (w.put.length + 1) = rest :=
  getElem?_of_drop ((h.receiving ht).2.symm.trans hi)

/-- If the task waits for a log and there is none, every log that was accepted has its record. -/
theorem length_of_empty (h : w.Ordered decode) (ht : w.watch.task = .receiving)
    (hi : w.watch.link.logs.items = []) : w.put.length = w.supply.accepted.length := by
  have hq := (h.receiving ht).2
  rw [hi, eq_comm, List.drop_eq_nil_iff] at hq
  have hle := h.delivers.length_le
  omega

theorem feed (h : w.Ordered decode) {o : FeedOutcome} {l : Link}
    (hm : FeedMove w.watch.link o l) :
    Ordered decode { w with watch := { w.watch with link := l }, supply := w.supply.note o } := by
  have hprefix := w.supply.note_accepted_prefix o
  refine ⟨h.taken.trans hprefix, h.delivers.mono hprefix, h.inFlight, fun ht => ?_,
    fun record ht => ?_, h.stored⟩
  · obtain ⟨hlen, hi⟩ := h.receiving ht
    exact ⟨hlen, hm.items_eq_drop h.delivers.length_le hi⟩
  · obtain ⟨hlen, hi, log, hl, hd⟩ := h.sending record ht
    have hle : w.put.length + 1 ≤ w.supply.accepted.length := (List.getElem?_eq_some_iff.mp hl).1
    exact ⟨hlen, hm.items_eq_drop hle hi, log, getElem?_of_prefix hprefix hl, hd⟩

/-- The end of the task leaves everything where it is. -/
theorem finish (h : w.Ordered decode) (watch : Watch ρ) (result : Except Error Unit)
    (hs : watch.sink = w.watch.sink) :
    Ordered decode { w with
      watch := watch.finish result, taken := w.taken ++ [], put := w.put ++ [] } := by
  rw [List.append_nil, List.append_nil]
  refine ⟨h.taken, h.delivers, h.inFlight, by simp [Watch.finish], by simp [Watch.finish], ?_⟩
  intro hr
  simp only [Watch.finish, hs, Channel.dropSender_hasReceiver, Channel.dropSender_items] at hr ⊢
  exact h.stored hr

theorem round (h : w.Ordered decode) {logs : List Log} {records : List ρ} {p : Pass Unit}
    {watch : Watch ρ} (hr : w.watch.Round decode w.supply logs records p watch) :
    Ordered decode
      { w with watch := watch, taken := w.taken ++ logs, put := w.put ++ records } := by
  cases hr with
  | finished | waitLog | waitRoom => simpa only [List.append_nil] using h
  | unread | stopped => exact h.finish _ _ rfl
  | completed | failed => exact h.finish _ _ rfl
  | learned =>
    rw [List.append_nil, List.append_nil]
    exact ⟨h.taken, h.delivers, h.inFlight, h.receiving, h.sending, h.stored⟩
  | record log rest record ht hi hd =>
    obtain ⟨hlen, -⟩ := h.receiving ht
    obtain ⟨hl, hrest⟩ := h.next_log ht hi
    rw [List.append_nil]
    refine ⟨prefix_snoc h.taken (by rw [hlen, hl]), h.delivers, ?_, by simp, ?_, h.stored⟩
    · show w.put.length ≤ (w.taken ++ [log]).length ∧ (w.taken ++ [log]).length ≤ w.put.length + 1
      rw [List.length_append, List.length_singleton]
      omega
    · intro record' heq
      obtain rfl : record = record' := by simpa using heq
      exact ⟨by rw [List.length_append, hlen, List.length_singleton], hrest.symm, log, hl, hd⟩
  | malformed log rest e ht hi hd =>
    obtain ⟨hlen, -⟩ := h.receiving ht
    obtain ⟨hl, -⟩ := h.next_log ht hi
    rw [List.append_nil]
    refine ⟨prefix_snoc h.taken (by rw [hlen, hl]), h.delivers, ?_, by simp [Watch.finish],
      by simp [Watch.finish], h.stored⟩
    show w.put.length ≤ (w.taken ++ [log]).length ∧ (w.taken ++ [log]).length ≤ w.put.length + 1
    rw [List.length_append, List.length_singleton]
    omega
  | put record ht hr =>
    obtain ⟨hlen, hi, log, hl, hd⟩ := h.sending record ht
    have hput : (w.put ++ [record]).length = w.put.length + 1 := by
      rw [List.length_append, List.length_singleton]
    rw [List.append_nil]
    refine ⟨h.taken, h.delivers.snoc hl hd, ?_, fun _ => ?_, by simp, fun _ => ?_⟩
    · show (w.put ++ [record]).length ≤ w.taken.length ∧
        w.taken.length ≤ (w.put ++ [record]).length + 1
      omega
    · rw [hput]
      exact ⟨hlen, hi⟩
    · rw [h.stored hr, Channel.push_items, List.append_assoc]

theorem move (h : w.Ordered decode) (hm : Move decode w w') : w'.Ordered decode := by
  cases hm with
  | rest => exact h
  | feed o l hm => exact h.feed hm
  | round logs records p watch hr => exact h.round hr
  | receive record rest hr hi =>
    refine ⟨h.taken, h.delivers, h.inFlight, h.receiving, h.sending, fun _ => ?_⟩
    rw [h.stored hr, hi, List.append_assoc, List.singleton_append]
  | told => exact ⟨h.taken, h.delivers, h.inFlight, h.receiving, h.sending, h.stored⟩
  | dropSink => exact ⟨h.taken, h.delivers, h.inFlight, h.receiving, h.sending, by simp⟩
  | stop =>
    unfold Watch.stop
    split <;> exact ⟨h.taken, h.delivers, h.inFlight, h.receiving, h.sending, h.stored⟩

end Ordered

/-! ## The result of the task -/

/-- Why a task has ended without error: it was asked to, the sink has no reader, or the feed was
finished without failure and everything is in the sink. -/
def Stopped (w : Watching ρ) : Prop :=
  w.watch.canQuit = false ∨ w.watch.sink.hasReceiver = false ∨
    w.watch.link.hasFeed = false ∧ w.supply.failures = [] ∧
      w.put.length = w.supply.accepted.length

/-- The result of the task names its cause. -/
structure Truthful (decode : Log → Except Error ρ) (w : Watching ρ) : Prop where
  /-- Only the end of the feed without failure is learned and then not told at once. -/
  known : w.watch.isFinished = false → w.watch.link.watchesFailure = false →
    w.watch.link.hasFeed = false ∧ w.supply.failures = []
  ok : w.watch.task = .ended (.ok ()) → w.Stopped
  error : ∀ e, w.watch.task = .ended (.error e) → w.supply.Explains decode w.put e

namespace Truthful

theorem start (capacity room : Nat) :
    (Watching.start capacity room : Watching ρ).Truthful decode where
  known _ h := by simp [Watching.start, Watch.start, Link.connect] at h
  ok h := by simp [Watching.start, Watch.start] at h
  error e h := by simp [Watching.start, Watch.start] at h

theorem feed (h : w.Truthful decode) {o : FeedOutcome} {l : Link}
    (hm : FeedMove w.watch.link o l) :
    Truthful decode { w with watch := { w.watch with link := l }, supply := w.supply.note o } := by
  refine ⟨fun hgo hw => ?_, fun ht => ?_, fun e ht => (h.error e ht).note o⟩
  · obtain ⟨hf, hs⟩ := h.known hgo (hm.watchesFailure_eq.symm.trans hw)
    exact ⟨hm.hasFeed_eq_false hf, by rw [hm.note_of_finished hf, hs]⟩
  · rcases h.ok ht with hasked | hsink | ⟨hf, hs, hall⟩
    · exact .inl hasked
    · exact .inr (.inl hsink)
    · have hnote := hm.note_of_finished hf w.supply
      exact .inr (.inr ⟨hm.hasFeed_eq_false hf, by rw [hnote, hs], by rw [hnote, hall]⟩)

/-- A task that ends without error tells the truth if its end has one of the causes. -/
theorem of_stopped {watch : Watch ρ} {taken : List Log} {put : List ρ}
    (hs : Stopped { w with watch := watch.finish (.ok ()), taken := taken, put := put }) :
    Truthful decode { w with watch := watch.finish (.ok ()), taken := taken, put := put } := by
  exact ⟨by simp [Watch.finish, Watch.isFinished], fun _ => hs, by simp [Watch.finish]⟩

/-- A task that ends with an error tells the truth if the supply explains it. -/
theorem of_explains {watch : Watch ρ} {taken : List Log} {put : List ρ} {e : Error}
    (hs : w.supply.Explains decode put e) :
    Truthful decode { w with watch := watch.finish (.error e), taken := taken, put := put } := by
  refine ⟨by simp [Watch.finish, Watch.isFinished], by simp [Watch.finish], ?_⟩
  intro e' he
  obtain rfl : e = e' := by simpa [Watch.finish] using he
  exact hs

theorem round (h : w.Truthful decode) (hw : w.Wired) (ho : w.Ordered decode) {logs : List Log}
    {records : List ρ} {p : Pass Unit} {watch : Watch ρ}
    (hr : w.watch.Round decode w.supply logs records p watch) :
    Truthful decode
      { w with watch := watch, taken := w.taken ++ logs, put := w.put ++ records } := by
  cases hr with
  | finished | waitLog | waitRoom => simpa only [List.append_nil] using h
  | record log rest record ht hi hd =>
    have hgo : w.watch.isFinished = false := by simp [Watch.isFinished, ht]
    exact ⟨fun _ => h.known hgo, by simp, by simp⟩
  | malformed log rest e ht hi hd =>
    rw [List.append_nil]
    exact of_explains (.inr ⟨log, (ho.next_log ht hi).1, hd⟩)
  | put record ht hr =>
    have hgo : w.watch.isFinished = false := by simp [Watch.isFinished, ht]
    exact ⟨fun _ => h.known hgo, by simp, by simp⟩
  | unread record ht hr => exact of_stopped (.inr (.inl hr))
  | completed l ht hi hf hs hl =>
    have hgo : w.watch.isFinished = false := by simp [Watch.isFinished, ht]
    have hfail : w.supply.failures = [] := by
      cases hknown : w.watch.link.watchesFailure with
      | true => exact hs hknown
      | false => exact (h.known hgo hknown).2
    have hfeed : l.hasFeed = false := by
      cases hl <;> exact hf
    refine of_stopped (.inr (.inr ⟨?_, hfail, ?_⟩))
    · exact l.dropSubscription_hasFeed.trans hfeed
    · simpa using ho.length_of_empty ht hi
  | failed e hrun hs hl =>
    rw [List.append_nil, List.append_nil]
    exact of_explains (.inl hs)
  | learned hrun hf hs hl =>
    rw [List.append_nil, List.append_nil]
    exact ⟨fun _ _ => ⟨hf, hs⟩, h.ok, h.error⟩
  | stopped hrun hq =>
    refine of_stopped (.inl ?_)
    cases hc : w.watch.canQuit with
    | false => rfl
    | true => simp [hw.unasked hc, OneShot.isSettled] at hq

theorem move (h : w.Truthful decode) (hw : w.Wired) (ho : w.Ordered decode)
    (hm : Move decode w w') : w'.Truthful decode := by
  cases hm with
  | rest => exact h
  | feed o l hm => exact h.feed hm
  | round logs records p watch hr => exact h.round hw ho hr
  | receive record rest hr hi => exact ⟨h.known, h.ok, h.error⟩
  | told hi hs => exact ⟨h.known, h.ok, h.error⟩
  | dropSink => exact ⟨h.known, fun _ => .inr (.inl rfl), h.error⟩
  | stop =>
    unfold Watch.stop
    split
    · exact ⟨h.known, fun _ => .inl rfl, h.error⟩
    · exact h

end Truthful

/-! ## Every state -/

/-- What holds in every state of a watch. -/
structure Sound (decode : Log → Except Error ρ) (w : Watching ρ) : Prop where
  wired : w.Wired
  ordered : w.Ordered decode
  truthful : w.Truthful decode

namespace Sound

theorem start (capacity room : Nat) : (Watching.start capacity room : Watching ρ).Sound decode :=
  ⟨.start capacity room, .start capacity room, .start capacity room⟩

theorem move (h : w.Sound decode) (hm : Move decode w w') : w'.Sound decode :=
  ⟨h.wired.move hm, h.ordered.move hm, h.truthful.move h.wired h.ordered hm⟩

/-- Every action keeps what holds. -/
theorem act (h : w.Sound decode) (a : WatchAction) : (w.act decode a).Sound decode :=
  h.move (act_move h.wired a)

/-- What holds in a state holds in every state that is reached from it. -/
theorem run (h : w.Sound decode) (actions : List WatchAction) :
    (w.run decode actions).Sound decode := by
  induction actions generalizing w with
  | nil => exact h
  | cons a actions ih => exact ih (h.act a)

end Sound

end Watching

end AbiBindings.Stream
