import AbiBindings.Contract
import AbiBindings.Proofs.Stream.Watching

/-!
# Runs of a watch

What a watch hands on and how it ends, whatever the feed, the task, the reader of the sink and the
owner do and in which order.

Results:
* `Watching.taken_in_order`: the task takes the first logs that the feed had accepted and puts their
  records into the sink, and at most one log is on the way.
* `Watching.result_names_cause`: a task that has ended did so in one of its rounds, and what held in
  that round is what its result says.
-/

namespace AbiBindings.Stream

/-- Records of the first logs are records of the first of fewer logs, if these are enough. -/
theorem Delivers.of_prefix {decode : Log → Except Error ρ} {logs logs' : List Log}
    {records : List ρ} (h : Delivers decode logs' records) (hp : logs <+: logs')
    (hle : records.length ≤ logs.length) : Delivers decode logs records := by
  obtain ⟨more, rfl⟩ := hp
  unfold Delivers at h ⊢
  rwa [List.take_append_of_le_length hle] at h

/-- Who asks a task to end touches nothing but the request. -/
theorem Watch.stop_kept (w : Watch ρ) :
    w.stop.link = w.link ∧ w.stop.sink = w.sink ∧ w.stop.task = w.task := by
  unfold stop
  split <;> exact ⟨rfl, rfl, rfl⟩

namespace Watching

variable {decode : Log → Except Error ρ} {w w' : Watching ρ}

/-! ## What every action keeps -/

theorem run_append (decode : Log → Except Error ρ) (w : Watching ρ)
    (first second : List WatchAction) :
    w.run decode (first ++ second) = (w.run decode first).run decode second :=
  List.foldl_append

/-- What all that an action can do keeps holds in every state that is reached. -/
theorem Sound.run_keeps {motive : Watching ρ → Prop} (h : w.Sound decode) (here : motive w)
    (step : ∀ w w' : Watching ρ, w.Sound decode → motive w → Move decode w w' → motive w')
    (actions : List WatchAction) : motive (w.run decode actions) := by
  induction actions generalizing w with
  | nil => exact here
  | cons a actions ih => exact ih (h.act a) (step w _ h here (act_move h.wired a))

/-- The reader is given records that were put into the sink, in their order. -/
theorem Ordered.received_move (h : w.Ordered decode) (hr : w.received <+: w.put)
    (hm : Move decode w w') : w'.received <+: w'.put := by
  cases hm with
  | round logs records p watch hround => exact hr.trans (List.prefix_append _ _)
  | receive record rest hread hi =>
    have hput := h.stored hread
    rw [hi] at hput
    refine ⟨rest, ?_⟩
    rw [hput, List.append_assoc, List.singleton_append]
  | rest | feed | told | dropSink | stop => exact hr

/-! ## Order -/

/-- What the task has taken from the queue of logs, what it has put into the sink, and what the
reader of the sink was given. -/
structure InOrder (decode : Log → Except Error ρ) (w : Watching ρ) : Prop where
  taken : w.taken <+: w.supply.accepted
  /-- While the task goes on, all that was accepted and not taken is in the queue. -/
  queued : w.watch.isFinished = false → w.taken ++ w.watch.link.logs.items = w.supply.accepted
  put : Delivers decode w.taken w.put
  /-- At most one log was taken whose record is not in the sink. -/
  inFlight : w.put.length ≤ w.taken.length ∧ w.taken.length ≤ w.put.length + 1
  waits : w.watch.task = .receiving → w.taken.length = w.put.length
  holds : ∀ record, w.watch.task = .sending record →
    ∃ log, w.taken.drop w.put.length = [log] ∧ decode log = .ok record
  received : w.received <+: w.put
  /-- While the sink has a reader, all that was put into it and not received is there. -/
  stored : w.watch.sink.hasReceiver = true → w.received ++ w.watch.sink.items = w.put

/-- While the task goes on, what is left in the queue comes after what it has taken. -/
theorem Ordered.items_eq (h : w.Ordered decode) (hgo : w.watch.isFinished = false) :
    w.watch.link.logs.items = w.supply.accepted.drop w.taken.length := by
  cases ht : w.watch.task with
  | receiving =>
    obtain ⟨hlen, hi⟩ := h.receiving ht
    rw [hi, hlen]
  | sending record =>
    obtain ⟨hlen, hi, -⟩ := h.sending record ht
    rw [hi, hlen]
  | ended result => simp [Watch.isFinished, ht] at hgo

/-- The log on the way is the one of the record that the task holds. -/
theorem Ordered.drop_taken (h : w.Ordered decode) {record : ρ}
    (ht : w.watch.task = .sending record) :
    ∃ log, w.taken.drop w.put.length = [log] ∧ decode log = .ok record := by
  obtain ⟨hlen, -, log, hlog, hd⟩ := h.sending record ht
  have hlt : w.put.length < w.taken.length := by omega
  have hnext : w.taken[w.put.length] = log := by
    have htaken := List.prefix_iff_getElem?.mp h.taken _ hlt
    exact Option.some.inj (htaken.symm.trans hlog)
  refine ⟨log, ?_, hd⟩
  rw [List.drop_eq_getElem_cons hlt, hnext, ← hlen, List.drop_length]

theorem InOrder.of_sound (h : w.Sound decode) (hr : w.received <+: w.put) : w.InOrder decode where
  taken := h.ordered.taken
  queued hgo := by
    have hi := h.ordered.items_eq hgo
    obtain ⟨more, hmore⟩ := h.ordered.taken
    rw [hi, ← hmore, List.drop_left]
  put := h.ordered.delivers.of_prefix h.ordered.taken h.ordered.inFlight.1
  inFlight := h.ordered.inFlight
  waits ht := (h.ordered.receiving ht).1
  holds _ ht := h.ordered.drop_taken ht
  received := hr
  stored hread := (h.ordered.stored hread).symm

/-- In every state that is reached, before and after the task has ended, the logs that it has taken
are the first that were accepted, the records that it has put into the sink are those of the first
logs it has taken, and at most one more was taken. -/
theorem taken_in_order (c : Contract) (t : EventType) (capacity room : Nat)
    (actions : List WatchAction) :
    ((Watching.start capacity room).run (c.unpack t) actions).InOrder (c.unpack t) := by
  have h₀ : (Watching.start capacity room).Sound (c.unpack t) := .start capacity room
  have hreceived := h₀.run_keeps (motive := fun w => w.received <+: w.put) List.prefix_rfl
    (fun _ _ h hr hm => h.ordered.received_move hr hm) actions
  exact .of_sound (h₀.run actions) hreceived

/-! ## What only one kind of action changes -/

/-- A reader that asks for a record changes neither the task nor who may end it. -/
theorem act_receive_kept (decode : Log → Except Error ρ) (w : Watching ρ) :
    (w.act decode .receive).watch.task = w.watch.task ∧
      (w.act decode .receive).watch.canQuit = w.watch.canQuit ∧
      (w.act decode .receive).watch.sink.hasReceiver = w.watch.sink.hasReceiver := by
  rw [act]
  split
  · rcases w.receive_cases with ⟨-, -, heq⟩ | ⟨record, rest, -, heq⟩ | ⟨-, -, heq⟩ <;>
      rw [heq] <;> exact ⟨rfl, rfl, rfl⟩
  · exact ⟨rfl, rfl, rfl⟩

/-- Only a round changes where the task stands. -/
theorem act_task (decode : Log → Except Error ρ) (w : Watching ρ) (a : WatchAction) :
    (∃ start, a = .round start) ∨ (w.act decode a).watch.task = w.watch.task := by
  cases a with
  | round start => exact .inl ⟨start, rfl⟩
  | feed a => exact .inr rfl
  | receive => exact .inr (act_receive_kept decode w).1
  | dropSink => exact .inr rfl
  | stop => exact .inr w.watch.stop_kept.2.2

/-- Only the owner asks the task to end. -/
theorem Sound.act_canQuit (h : w.Sound decode) (a : WatchAction) :
    a = .stop ∨ (w.act decode a).watch.canQuit = w.watch.canQuit := by
  cases a with
  | stop => exact .inl rfl
  | feed a => exact .inr rfl
  | round start => exact .inr (h.wired.round_of_pass decode start).kept.1
  | receive => exact .inr (act_receive_kept decode w).2.1
  | dropSink => exact .inr rfl

/-- Only the reader closes the sink. -/
theorem Sound.act_hasReceiver (h : w.Sound decode) (a : WatchAction) :
    a = .dropSink ∨ (w.act decode a).watch.sink.hasReceiver = w.watch.sink.hasReceiver := by
  cases a with
  | dropSink => exact .inl rfl
  | feed a => exact .inr rfl
  | round start => exact .inr (h.wired.round_of_pass decode start).kept.2.1
  | receive => exact .inr (act_receive_kept decode w).2.2
  | stop => exact .inr (congrArg Channel.hasReceiver w.watch.stop_kept.2.1)

/-- What only one action changes is as it was, unless that action was done. -/
theorem Sound.mem_of_changed (h : w.Sound decode) {f : Watching ρ → Bool} {b : WatchAction}
    (hf : ∀ w : Watching ρ, w.Sound decode → ∀ a, a = b ∨ f (w.act decode a) = f w)
    {actions : List WatchAction} (hne : f (w.run decode actions) ≠ f w) : b ∈ actions := by
  induction actions generalizing w with
  | nil => exact absurd rfl hne
  | cons a actions ih =>
    rcases hf w h a with rfl | hsame
    · exact List.mem_cons_self
    · exact List.mem_cons_of_mem _ (ih (h.act a) (by rwa [hsame]))

/-! ## The end of the task -/

/-- A task that has ended stays where it is. -/
theorem Sound.run_task (h : w.Sound decode) (hover : w.watch.isFinished = true)
    (actions : List WatchAction) : (w.run decode actions).watch.task = w.watch.task := by
  refine h.run_keeps (motive := fun w' => w'.watch.task = w.watch.task) rfl ?_ actions
  intro w₁ w₂ h₁ htask hm
  have hover₁ : w₁.watch.isFinished = true := by
    rw [← hover, Watch.isFinished, htask, Watch.isFinished]
  cases hm with
  | round logs records p watch hr =>
    obtain ⟨-, -, rfl⟩ := hr.eq_of_finished hover₁
    exact htask
  | stop => exact w₁.watch.stop_kept.2.2.trans htask
  | rest | feed | receive | told | dropSink => exact htask

/-- What a feed has done is all that it will do, once it is finished. -/
theorem Sound.run_supply (h : w.Sound decode) (hf : w.watch.link.hasFeed = false)
    (actions : List WatchAction) : (w.run decode actions).supply = w.supply := by
  refine (h.run_keeps (motive := fun w' => w'.supply = w.supply ∧ w'.watch.link.hasFeed = false)
    ⟨rfl, hf⟩ ?_ actions).1
  rintro w₁ w₂ h₁ ⟨hs, hf₁⟩ hm
  cases hm with
  | feed o l hm => exact ⟨(hm.note_of_finished hf₁ w₁.supply).trans hs, hm.hasFeed_eq_false hf₁⟩
  | round logs records p watch hr =>
    refine ⟨hs, ?_⟩
    obtain ⟨l, hl, ⟨hlink, -⟩ | ⟨hlink, -⟩⟩ := hr.reads
    · exact (congrArg Link.hasFeed hlink).trans (hl.hasFeed_eq.trans hf₁)
    · have hdrop := l.dropSubscription_hasFeed
      exact (congrArg Link.hasFeed hlink).trans (hdrop.trans (hl.hasFeed_eq.trans hf₁))
  | stop => exact ⟨hs, (congrArg Link.hasFeed w₁.watch.stop_kept.1).trans hf₁⟩
  | rest | receive | told | dropSink => exact ⟨hs, hf₁⟩

/-- A task that has ended did so in a round. -/
theorem ends_in_round (hgo : w.watch.isFinished = false) (actions : List WatchAction)
    (hover : (w.run decode actions).watch.isFinished = true) :
    ∃ first start rest, actions = first ++ .round start :: rest ∧
      (w.run decode first).watch.isFinished = false ∧
      (w.run decode (first ++ [.round start])).watch.isFinished = true := by
  induction actions generalizing w with
  | nil => exact absurd (hgo.symm.trans hover) (by simp)
  | cons a actions ih =>
    by_cases hnow : (w.act decode a).watch.isFinished = true
    · rcases act_task decode w a with ⟨start, rfl⟩ | htask
      · exact ⟨[], start, actions, rfl, hgo, hnow⟩
      · rw [Watch.isFinished, htask] at hnow
        exact absurd (hgo.symm.trans hnow) (by simp)
    · obtain ⟨first, start, rest, rfl, hfirst, hlast⟩ := ih (by simpa using hnow) hover
      exact ⟨a :: first, start, rest, rfl, hfirst, hlast⟩

/-- The feed was finished without failure, and the sink was given the record of every log that was
accepted. -/
structure Completed (decode : Log → Except Error ρ) (w : Watching ρ) : Prop where
  hasFeed : w.watch.link.hasFeed = false
  failures : w.supply.failures = []
  all : w.supply.accepted.map decode = w.put.map .ok

/-- What the result of a task says about the actions before its end and the state at its end. -/
def Names (decode : Log → Except Error ρ) (before : List WatchAction) (w : Watching ρ) :
    Except Error Unit → Prop
  | .ok () => .stop ∈ before ∨ .dropSink ∈ before ∨ w.Completed decode
  | .error e => w.supply.failures.head? = some e ∨ ∃ logs log more,
      w.supply.accepted = logs ++ log :: more ∧ logs.map decode = w.put.map .ok ∧
        decode log = .error e

/-- The log that a stream fails with comes after those of its records. -/
theorem Ordered.split_of_error (h : w.Ordered decode) {log : Log} {e : Error}
    (hl : w.supply.accepted[w.put.length]? = some log) (hd : decode log = .error e) :
    ∃ logs log more, w.supply.accepted = logs ++ log :: more ∧
      logs.map decode = w.put.map .ok ∧ decode log = .error e := by
  obtain ⟨hlt, rfl⟩ := List.getElem?_eq_some_iff.mp hl
  have hsplit := List.take_append_drop w.put.length w.supply.accepted
  rw [List.drop_eq_getElem_cons hlt] at hsplit
  exact ⟨_, _, _, hsplit.symm, h.delivers, hd⟩

/-- The result of a task names the cause of its end, if nobody had asked it to end before and the
sink had a reader. -/
theorem Sound.names (h : w.Sound decode) (hcan : w.watch.canQuit = true)
    (hread : w.watch.sink.hasReceiver = true) {actions : List WatchAction}
    {result : Except Error Unit} (ht : (w.run decode actions).watch.task = .ended result) :
    Names decode actions (w.run decode actions) result := by
  have hrun := h.run actions
  match result with
  | .ok () =>
    rcases hrun.truthful.ok ht with hasked | hclosed | ⟨hf, hs, hall⟩
    · have hne : (w.run decode actions).watch.canQuit ≠ w.watch.canQuit := by simp [hasked, hcan]
      exact .inl (h.mem_of_changed (f := fun w => w.watch.canQuit) (fun _ h => h.act_canQuit) hne)
    · have hne : (w.run decode actions).watch.sink.hasReceiver ≠ w.watch.sink.hasReceiver := by
        simp [hclosed, hread]
      exact .inr (.inl (h.mem_of_changed (f := fun w => w.watch.sink.hasReceiver)
        (fun _ h => h.act_hasReceiver) hne))
    · have hd := hrun.ordered.delivers
      rw [Delivers, hall, List.take_length] at hd
      exact .inr (.inr ⟨hf, hs, hd⟩)
  | .error e =>
    rcases hrun.truthful.error e ht with hs | ⟨log, hl, hd⟩
    · exact .inl hs
    · exact .inr (hrun.ordered.split_of_error hl hd)

/-- A round is none of the actions that are a cause. -/
theorem Names.of_round {before : List WatchAction} {start : Nat} {result : Except Error Unit}
    (h : Names decode (before ++ [.round start]) w result) : Names decode before w result := by
  match result with
  | .ok () => simpa [Names] using h
  | .error e => exact h

/-- No failure of the feed is passed over, whenever it was reported, unless the task was asked to
end or the sink was closed. -/
theorem Sound.not_passed_over (h : w.Sound decode) {before : List WatchAction}
    (hn : Names decode before w (.ok ())) (rest : List WatchAction)
    (hs : (w.run decode rest).supply.failures ≠ []) : .stop ∈ before ∨ .dropSink ∈ before := by
  rcases hn with hstop | hdrop | hall
  · exact .inl hstop
  · exact .inr hdrop
  · rw [h.run_supply hall.hasFeed rest] at hs
    exact absurd hall.failures hs

/-- The task never asks a cell again whose outcome was handed out. -/
theorem Sound.pass_ne_misused (h : w.Sound decode) (start : Nat) :
    (w.watch.pass decode start).1 ≠ .misused :=
  (h.wired.round_of_pass decode start).ne_misused

/-- The task never asks a cell again whose outcome was handed out, so it ends in one of its rounds
or not at all. If it ends without error, it was asked to before, or the sink was closed before, or
the feed was finished without failure and the sink was given all; if it ends with an error, that is
the first failure of the feed or why the first log that cannot be decoded cannot. A failure of the
feed is told unless the task was asked to end or the sink was closed before. -/
theorem result_names_cause (c : Contract) (t : EventType) (capacity room : Nat)
    (actions : List WatchAction) :
    let decode := c.unpack t
    let origin : Watching (Record t) := .start capacity room
    (∀ start, ((origin.run decode actions).watch.pass decode start).1 ≠ .misused) ∧
    ∀ result, (origin.run decode actions).watch.task = .ended result →
      ∃ first start rest, actions = first ++ .round start :: rest ∧
        (origin.run decode first).watch.isFinished = false ∧
        (origin.run decode (first ++ [.round start])).watch.task = .ended result ∧
        Names decode first (origin.run decode (first ++ [.round start])) result ∧
        (result = .ok () → (origin.run decode actions).supply.failures ≠ [] →
          .stop ∈ first ∨ .dropSink ∈ first) := by
  intro decode origin
  have h₀ : origin.Sound decode := .start capacity room
  refine ⟨(h₀.run actions).pass_ne_misused, fun result ht => ?_⟩
  have hover : (origin.run decode actions).watch.isFinished = true := by
    simp [Watch.isFinished, ht]
  obtain ⟨first, start, rest, rfl, hgo, hend⟩ := ends_in_round rfl actions hover
  have h := h₀.run (first ++ [.round start])
  have hrest : origin.run decode (first ++ .round start :: rest) =
      (origin.run decode (first ++ [.round start])).run decode rest := by
    rw [← run_append, List.append_assoc, List.singleton_append]
  have htask : (origin.run decode (first ++ [.round start])).watch.task = .ended result := by
    rw [← h.run_task hend rest, ← hrest, ht]
  have hnames := (h₀.names rfl rfl htask).of_round
  refine ⟨first, start, rest, rfl, hgo, htask, hnames, ?_⟩
  rintro rfl hs
  rw [hrest] at hs
  exact h.not_passed_over hnames rest hs

/-- A feed that fails and goes away before the task looks is not taken for one that is done. -/
theorem failing_feed_is_told :
    let c : Contract := ⟨Vector.replicate 20 0, default⟩
    let t : EventType := ⟨"Ping", "Ping()", Unit, fun _ => .ok ()⟩
    let e : Error := .subscription .streamEnded
    let actions : List WatchAction :=
      [.feed (.fail e), .feed .dropLogs, .feed .dropFailure, .round 0]
    let w := (Watching.start 4 1).run (c.unpack t) actions
    w.watch.task = .ended (.error e) ∧
      ∃ first start rest, actions = first ++ .round start :: rest ∧
        Names (c.unpack t) first ((Watching.start 4 1).run (c.unpack t) (first ++ [.round start]))
          (.error e) := by
  intro c t e actions w
  have ht : w.watch.task = .ended (.error e) := rfl
  obtain ⟨first, start, rest, hsplit, -, -, hnames, -⟩ :=
    (result_names_cause c t 4 1 actions).2 _ ht
  exact ⟨ht, first, start, rest, hsplit, hnames⟩

end Watching

end AbiBindings.Stream
