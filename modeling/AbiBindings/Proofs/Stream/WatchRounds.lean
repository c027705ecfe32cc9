import AbiBindings.Proofs.Stream.Rounds
import AbiBindings.Proofs.Stream.WatchRuns

/-!
# Rounds of a watch that go on

The task of a watch goes on when it has taken a log, when it has put a record into the sink, and
when it has learned that the feed is done. A record in the sink is a delivery; between two of them
it goes on at most twice.

Results:
* `Watching.Wired.calm`: the task does not spin, asks no cell that is spent, and rests after the
  rounds that are granted to it.
* `rounds_bounded`: a subscription, and an iterator or a watch that takes it over.
-/

namespace AbiBindings.Stream

/-! ## What a task can still do -/

/-- Whether a task can take a log before it puts a record into the sink. -/
def Task.spare : Task ρ → Nat
  | .receiving => 1
  | .sending _ | .ended _ => 0

/-- Whether a task holds a record. -/
def Task.load : Task ρ → Nat
  | .sending _ => 1
  | .receiving | .ended _ => 0

namespace Watch

/-- How many rounds of a task can go on and put nothing into the sink: one that learns of the end of
the feed, and one that takes a log. -/
def spare (w : Watch ρ) : Nat := w.link.watchesFailure.toNat + w.task.spare

/-- How many rounds of a task can go on if nobody else acts: two for each log in the queue, one for
the record that it holds, and one that learns of the end of the feed. -/
def load (w : Watch ρ) : Nat :=
  2 * w.link.logs.items.length + w.task.load + w.link.watchesFailure.toNat

variable {decode : Log → Except Error ρ} {s : Supply} {w w' : Watch ρ}

/-- A round that goes on uses up one that could, or it has put a record into the sink. -/
theorem Round.pays {logs : List Log} {records : List ρ} {p : Pass Unit}
    (h : Round decode s w logs records p w') :
    (p.goesOn && records.isEmpty).toNat + w'.spare ≤ w.spare + records.length := by
  cases h with
  | finished | waitLog | waitRoom => exact Nat.le_of_eq (Nat.zero_add _)
  | malformed | unread | completed | failed | stopped => exact Nat.zero_le _
  | record log rest record ht hi hd =>
    show 1 + (w.link.watchesFailure.toNat + 0) ≤ w.spare + 0
    rw [spare, ht, Task.spare]
    omega
  | put record ht hr =>
    show 0 + (w.link.watchesFailure.toNat + 1) ≤ w.spare + 1
    rw [spare, ht, Task.spare]
    omega
  | learned hrun hf hs hl =>
    show 1 + (0 + w.task.spare) ≤ w.spare + 0
    rw [spare, Link.watchesFailure_of_canLearn hl, Bool.toNat_true]
    omega

/-- A round that goes on leaves less to be done. -/
theorem Round.load_lt {logs : List Log} {records : List ρ}
    (h : Round decode s w logs records .again w') : w'.load < w.load := by
  cases h with
  | record log rest record ht hi hd =>
    show 2 * rest.length + 1 + w.link.watchesFailure.toNat < w.load
    rw [load, ht, hi, Task.load, List.length_cons]
    omega
  | put record ht hr =>
    show 2 * w.link.logs.items.length + 0 + w.link.watchesFailure.toNat < w.load
    rw [load, ht, Task.load]
    omega
  | learned hrun hf hs hl =>
    show 2 * w.link.logs.items.length + w.task.load + 0 < w.load
    rw [load, Link.watchesFailure_of_canLearn hl, Bool.toNat_true]
    omega

theorem load_lt_rounds (w : Watch ρ) : w.load < w.rounds := by
  have hw := Bool.toNat_le w.link.watchesFailure
  have ht : w.task.load ≤ 1 := by cases w.task <;> simp [Task.load]
  rw [load, rounds]
  omega

/-- The task has ended or has to wait, whichever way it asks first. -/
def AtRest (decode : Log → Except Error ρ) (w : Watch ρ) : Prop :=
  ∀ start, w.pass decode start = (.done (), w) ∨ w.pass decode start = (.pending, w)

theorem Round.finished_of_done {logs : List Log} {records : List ρ}
    (h : Round decode s w logs records (.done ()) w') : w'.isFinished = true := by
  cases h with
  | finished result ht => rw [isFinished, ht]
  | malformed | unread | completed | failed | stopped => rfl

/-- A task that has ended is at rest. -/
theorem atRest_of_finished (hover : w.isFinished = true) : w.AtRest decode := by
  intro start
  left
  cases ht : w.task with
  | ended result => rw [pass, ht]
  | receiving | sending => simp [isFinished, ht] at hover

theorem receivingPass_of_pending {start : Nat}
    (hp : (w.receivingPass decode start).1 = .pending) :
    select start [onLink Link.logArm, onLink Link.endingArm, quitArm] w = none := by
  unfold receivingPass at hp
  split at hp
  case h_1 hnone => exact hnone
  case h_2 => split at hp <;> cases hp
  all_goals cases hp

theorem sendingPass_of_pending {record : ρ} {start : Nat}
    (hp : (w.sendingPass record start).1 = .pending) :
    select start [sinkArm record, onLink Link.endingArm, quitArm] w = none := by
  unfold sendingPass at hp
  split at hp
  case h_1 hnone => exact hnone
  all_goals cases hp

/-- A task that has to wait does so whichever way it asks first. -/
theorem atRest_of_pending {start : Nat} (hp : (w.pass decode start).1 = .pending) :
    w.AtRest decode := by
  intro start'
  right
  rw [pass] at hp ⊢
  cases ht : w.task with
  | ended result => simp [ht] at hp
  | receiving =>
    simp only [ht] at hp ⊢
    have harms := select_none_iff.mp (receivingPass_of_pending hp)
    rw [receivingPass, select_none_iff.mpr harms]
  | sending record =>
    simp only [ht] at hp ⊢
    have harms := select_none_iff.mp (sendingPass_of_pending hp)
    rw [sendingPass, select_none_iff.mpr harms]

end Watch

/-! ## Every round of a task -/

namespace Watching

variable {decode : Log → Except Error ρ} {w w' : Watching ρ}

/-- Whether an action is a round that goes on and puts nothing into the sink. -/
def goesOn (decode : Log → Except Error ρ) (w : Watching ρ) : WatchAction → Bool
  | .round start => (w.watch.pass decode start).1.goesOn && (w.watch.puts start).isEmpty
  | .feed _ | .receive | .dropSink | .stop => false

theorem drives_wired (decode : Log → Except Error ρ) :
    Drives (act decode) (fun w => w.watch.link) .feed Wired where
  keeps _ a h := h.move (act_move h a)
  later _ a h := (act_move h a).later
  call _ _ := rfl

/-- Only a task makes rounds possible, by putting a record into the sink. -/
theorem Move.spare_le (hm : Move decode w w') :
    w'.watch.spare + w.put.length ≤ w.watch.spare + w'.put.length := by
  cases hm with
  | rest | receive | told | dropSink => exact Nat.le_refl _
  | feed o l hm =>
    refine Nat.add_le_add_right (Nat.le_of_eq ?_) w.put.length
    show l.watchesFailure.toNat + w.watch.task.spare = w.watch.spare
    rw [Watch.spare, hm.watchesFailure_eq]
  | round logs records p watch hr =>
    have hpays := hr.pays
    show watch.spare + w.put.length ≤ w.watch.spare + (w.put ++ records).length
    rw [List.length_append]
    omega
  | stop =>
    obtain ⟨hlink, -, htask⟩ := w.watch.stop_kept
    refine Nat.add_le_add_right (Nat.le_of_eq ?_) w.put.length
    rw [Watch.spare, Watch.spare, hlink, htask]

/-- A round that goes on and puts nothing into the sink is paid for. -/
theorem act_pays (h : w.Wired) (a : WatchAction) :
    (w.goesOn decode a).toNat + (w.act decode a).watch.spare + w.put.length ≤
      w.watch.spare + (w.act decode a).put.length := by
  cases hgo : w.goesOn decode a with
  | false =>
    rw [Bool.toNat_false, Nat.zero_add]
    exact (act_move h a).spare_le
  | true =>
    cases a with
    | round start =>
      have hpays := (h.round_of_pass decode start).pays
      rw [goesOn] at hgo
      rw [hgo, Bool.toNat_true] at hpays
      show 1 + (w.watch.pass decode start).2.spare + w.put.length ≤
        w.watch.spare + (w.put ++ w.watch.puts start).length
      rw [List.length_append]
      omega
    | feed | receive | dropSink | stop => cases hgo

/-- A task is at rest after the rounds that are granted to it. -/
theorem atRest_runFor (h : w.Wired) (start : Nat) {rounds : Nat}
    (hload : w.watch.load < rounds) : (w.watch.runFor decode start rounds).AtRest decode := by
  induction rounds generalizing w with
  | zero => exact absurd hload (Nat.not_lt_zero _)
  | succ rounds ih =>
    have hr := h.round_of_pass decode start
    have hnext := h.move (act_move h (.round start) : Move decode w _)
    rw [Watch.runFor]
    rcases hpass : w.watch.pass decode start with ⟨p, watch⟩
    rw [hpass] at hr
    rw [act, hpass] at hnext
    cases p with
    | again =>
      have hlt : watch.load < w.watch.load := hr.load_lt
      exact ih hnext (Nat.lt_of_lt_of_le hlt (Nat.le_of_lt_succ hload))
    | done value => exact Watch.atRest_of_finished hr.finished_of_done
    | pending =>
      obtain rfl : watch = w.watch := hr.eq_of_pending
      exact Watch.atRest_of_pending (congrArg Prod.fst hpass)
    | misused => exact absurd rfl hr.ne_misused

/-- The task of a watch does not spin and asks no cell that is spent. -/
structure Calm (decode : Log → Except Error ρ) (w : Watching ρ) : Prop where
  system : Stream.Calm (act decode) (fun w => w.watch.link) (goesOn decode)
    (fun w => w.put.length) 2 w
  /-- The request to end is looked for only while it has not been seen. -/
  quit : w.watch.isFinished = false → w.watch.quit ≠ .taken
  round : ∀ start, (w.watch.pass decode start).1 ≠ .misused
  /-- A round that waits leaves the watch as it was: others may act. -/
  waits : ∀ start, (w.watch.pass decode start).1 = .pending →
    (w.watch.pass decode start).2 = w.watch
  /-- If nobody else acts, the task ends or waits after the rounds that are granted to it. -/
  rests : ∀ start, (w.watch.settle decode start).AtRest decode

theorem Wired.calm (h : w.Wired) : w.Calm decode where
  system := by
    refine (drives_wired decode).calm (fun w => w.watch.spare) h h.tracks
      (fun _ a h => act_pays h a) ?_
    have hw := Bool.toNat_le w.watch.link.watchesFailure
    have ht : w.watch.task.spare ≤ 1 := by cases w.watch.task <;> simp [Task.spare]
    rw [Watch.spare]
    omega
  quit := h.quit
  round start := (h.round_of_pass decode start).ne_misused
  waits start hp := by
    have hr := h.round_of_pass decode start
    rw [hp] at hr
    exact hr.eq_of_pending
  rests start := atRest_runFor h start w.watch.load_lt_rounds

end Watching

/-! ## Holders that take over -/

namespace Listening

/-- An iterator that takes over a subscription, from the phase in which it begins: waiting for the
feed, or only for what is in the queue. -/
def iterate (s : Listening) (phase : Phase) : Reading ρ :=
  ⟨⟨s.link, phase, none, none⟩, s.supply, [], []⟩

/-- A watch that takes over a subscription, with a sink that is in use. -/
def watch (s : Listening) (room : Nat) (stored : List ρ) (isRead : Bool) : Watching ρ :=
  ⟨.start s.link ⟨room, stored, true, isRead⟩, s.supply, [], [], [], false⟩

variable {s : Listening}

theorem Sound.watch_wired (h : s.Sound) (room : Nat) (stored : List ρ) (isRead : Bool) :
    (s.watch room stored isRead).Wired where
  tracks := h.tracks
  quit _ hq := by cases hq
  unasked _ := rfl
  sender := rfl
  told hsaw := by cases hsaw

end Listening

/-- No loop spins, and no cell is asked again whose outcome was handed out. This holds whatever the
feed and the holder of a subscription have done, and of an iterator or a watch that takes it over
then, whatever is done after that. At most one round of a subscription or of an iterator goes on,
and of a task at most two between two records in the sink. -/
theorem rounds_bounded (c : Contract) (t : EventType) (origin : Reading.Origin)
    (before : List ProbingAction) :
    let decode := c.unpack t
    let s := before.foldl Listening.probe (Listening.start origin)
    Calm Listening.probe Listening.link Listening.goesOn (fun _ => 0) 1 s ∧
    (∀ phase actions, ((s.iterate phase).run decode actions).Calm decode) ∧
    ∀ room stored isRead actions,
      ((s.watch room stored isRead).run decode actions).Calm decode := by
  intro decode s
  have h : s.Sound := (Listening.drives_probe.run (.start origin) before).1
  refine ⟨h.calm, fun phase actions => ?iterator, fun room stored isRead actions => ?watch⟩
  case iterator =>
    have ht := ((Reading.drives_tracks decode).run (s := s.iterate phase) h.tracks actions).1
    exact Reading.calm_of_tracks ht
  case watch =>
    have hw := h.watch_wired room stored isRead
    exact ((Watching.drives_wired decode).run hw actions).1.calm

end AbiBindings.Stream
