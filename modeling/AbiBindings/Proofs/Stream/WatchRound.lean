import AbiBindings.Proofs.Stream.News
import AbiBindings.Stream.Watch

/-!
# One round of a watch

All that the task of a watch can do between two moments at which others may act.

Results:
* `Watch.pass_round`: the rounds of a task, with what it takes from the queue of logs and what it
  puts into the sink.
-/

namespace AbiBindings.Stream

namespace Watch

/-- What happens to the task in a round. -/
def happening (start : Nat) (w : Watch ρ) : Option Happening :=
  match w.task with
  | .receiving =>
    (select start [onLink Link.logArm, onLink Link.endingArm, quitArm] w).map Prod.fst
  | .sending record =>
    (select start [sinkArm record, onLink Link.endingArm, quitArm] w).map Prod.fst
  | .ended _ => none

/-- The log that the task takes from the queue in a round, if it does. -/
def takes (start : Nat) (w : Watch ρ) : List Log :=
  match w.happening start with
  | some (.news (.log log)) => [log]
  | _ => []

/-- The record that the task puts into the sink in a round, if it does. -/
def puts (start : Nat) (w : Watch ρ) : List ρ :=
  match w.task, w.happening start with
  | .sending record, some (.sent true) => [record]
  | _, _ => []

/-- What one round can do to a watch, when its feed has done what the supply says: the logs that are
taken, the records that are put into the sink, what it comes to, and the watch afterwards. -/
inductive Round (decode : Log → Except Error ρ) (s : Supply) (w : Watch ρ) :
    List Log → List ρ → Pass Unit → Watch ρ → Prop
  | finished (result : Except Error Unit) (ht : w.task = .ended result) :
      Round decode s w [] [] (.done ()) w
  | waitLog (ht : w.task = .receiving) (hi : w.link.logs.items = []) (hf : w.link.hasFeed = true) :
      Round decode s w [] [] .pending w
  | waitRoom (record : ρ) (ht : w.task = .sending record) (hr : w.sink.hasReceiver = true)
      (hm : w.sink.hasRoom = false) : Round decode s w [] [] .pending w
  | record (log : Log) (rest : List Log) (record : ρ) (ht : w.task = .receiving)
      (hi : w.link.logs.items = log :: rest) (hd : decode log = .ok record) :
      Round decode s w [log] [] .again
        { w with link := w.link.withItems rest, task := .sending record }
  | malformed (log : Log) (rest : List Log) (e : Error) (ht : w.task = .receiving)
      (hi : w.link.logs.items = log :: rest) (hd : decode log = .error e) :
      Round decode s w [log] [] (.done ())
        (finish { w with link := w.link.withItems rest } (.error e))
  | put (record : ρ) (ht : w.task = .sending record) (hr : w.sink.hasReceiver = true) :
      Round decode s w [] [record] .again
        { w with sink := w.sink.push record, task := .receiving }
  | unread (record : ρ) (ht : w.task = .sending record) (hr : w.sink.hasReceiver = false) :
      Round decode s w [] [] (.done ()) (w.finish (.ok ()))
  | completed (l : Link) (ht : w.task = .receiving) (hi : w.link.logs.items = [])
      (hf : w.link.hasFeed = false) (hs : w.link.watchesFailure = true → s.failures = [])
      (hl : w.link.Reads l) :
      Round decode s w [] [] (.done ()) (finish { w with link := l } (.ok ()))
  | failed (e : Error) (hrun : w.isFinished = false) (hs : s.failures.head? = some e)
      (hl : w.link.canLearn = true) :
      Round decode s w [] [] (.done ()) (finish { w with link := w.link.learn } (.error e))
  | learned (hrun : w.isFinished = false) (hf : w.link.hasFeed = false) (hs : s.failures = [])
      (hl : w.link.canLearn = true) : Round decode s w [] [] .again { w with link := w.link.learn }
  | stopped (hrun : w.isFinished = false) (hq : w.quit.isSettled = true) :
      Round decode s w [] [] (.done ()) (finish { w with quit := .taken } (.ok ()))

variable {decode : Log → Except Error ρ} {s : Supply} {w w' : Watch ρ} {start : Nat}

/-! ## What every round does -/

/-- A task that has ended does nothing. -/
theorem Round.eq_of_finished {logs : List Log} {records : List ρ} {p : Pass Unit}
    (h : Round decode s w logs records p w') (hover : w.isFinished = true) :
    logs = [] ∧ records = [] ∧ w' = w := by
  cases h with
  | finished => exact ⟨rfl, rfl, rfl⟩
  | waitLog ht => simp [isFinished, ht] at hover
  | waitRoom record ht => simp [isFinished, ht] at hover
  | record log rest record ht => simp [isFinished, ht] at hover
  | malformed log rest e ht => simp [isFinished, ht] at hover
  | put record ht => simp [isFinished, ht] at hover
  | unread record ht => simp [isFinished, ht] at hover
  | completed l ht => simp [isFinished, ht] at hover
  | failed e hrun => simp [hrun] at hover
  | learned hrun => simp [hrun] at hover
  | stopped hrun => simp [hrun] at hover

/-- A round that waits changes nothing. -/
theorem Round.eq_of_pending {logs : List Log} {records : List ρ}
    (h : Round decode s w logs records .pending w') : w' = w := by
  cases h <;> rfl

/-- A round never misuses a cell. -/
theorem Round.ne_misused {logs : List Log} {records : List ρ} {p : Pass Unit}
    (h : Round decode s w logs records p w') : p ≠ .misused := by
  cases h <;> simp

/-- A task reads the link, and lets go of it when it ends. -/
theorem Round.reads {logs : List Log} {records : List ρ} {p : Pass Unit}
    (h : Round decode s w logs records p w') :
    ∃ l, w.link.Reads l ∧
      (w'.link = l ∧ w'.isFinished = w.isFinished ∨
        w'.link = l.dropSubscription ∧ w'.isFinished = true) := by
  cases h with
  | finished | waitLog | waitRoom => exact ⟨w.link, .same, .inl ⟨rfl, rfl⟩⟩
  | put record ht hr => exact ⟨w.link, .same, .inl ⟨rfl, by simp [isFinished, ht]⟩⟩
  | record log rest record ht hi hd =>
    exact ⟨_, .take log rest hi, .inl ⟨rfl, by simp [isFinished, ht]⟩⟩
  | malformed log rest e ht hi hd => exact ⟨_, .take log rest hi, .inr ⟨rfl, rfl⟩⟩
  | unread | stopped => exact ⟨w.link, .same, .inr ⟨rfl, rfl⟩⟩
  | completed l ht hi hf hs hl => exact ⟨l, hl, .inr ⟨rfl, rfl⟩⟩
  | failed e hrun hs hl => exact ⟨_, .learn hl, .inr ⟨rfl, rfl⟩⟩
  | learned hrun hf hs hl => exact ⟨_, .learn hl, .inl ⟨rfl, rfl⟩⟩

/-- What no round changes. -/
theorem Round.kept {logs : List Log} {records : List ρ} {p : Pass Unit}
    (h : Round decode s w logs records p w') :
    w'.canQuit = w.canQuit ∧ w'.sink.hasReceiver = w.sink.hasReceiver ∧
      w'.sink.capacity = w.sink.capacity := by
  cases h <;> exact ⟨rfl, rfl, rfl⟩

/-! ## Each way to go on -/

theorem onLink_some {arm : Arm Link Link.News} {h : Happening}
    (ha : onLink arm w = some (h, w')) :
    ∃ news l, arm w.link = some (news, l) ∧ h = .news news ∧ w' = { w with link := l } := by
  simp only [onLink, Option.map_eq_some_iff, Prod.mk.injEq, Prod.exists] at ha
  obtain ⟨news, l, harm, rfl, rfl⟩ := ha
  exact ⟨news, l, harm, rfl, rfl⟩

theorem onLink_none_iff {arm : Arm Link Link.News} : onLink arm w = none ↔ arm w.link = none := by
  simp [onLink]

theorem quitArm_some {h : Happening} (hq : w.quit ≠ .taken) (ha : quitArm w = some (h, w')) :
    h = .news .quit ∧ w' = { w with quit := .taken } ∧ w.quit.isSettled = true := by
  unfold quitArm OneShot.poll at ha
  cases hc : w.quit with
  | waiting => simp [hc] at ha
  | taken => exact absurd hc hq
  | sent | abandoned =>
    simp only [hc, Option.some.injEq, Prod.mk.injEq] at ha
    exact ⟨ha.1.symm, ha.2.symm, rfl⟩

theorem sinkArm_some {record : ρ} {h : Happening} (ha : sinkArm record w = some (h, w')) :
    h = .sent true ∧ w' = { w with sink := w.sink.push record } ∧ w.sink.hasReceiver = true ∨
      h = .sent false ∧ w' = w ∧ w.sink.hasReceiver = false := by
  unfold sinkArm Channel.pollSend at ha
  cases hr : w.sink.hasReceiver with
  | false =>
    simp only [hr, Bool.not_false, if_true, Option.some.injEq, Prod.mk.injEq] at ha
    exact .inr ⟨ha.1.symm, ha.2.symm, rfl⟩
  | true =>
    cases hm : w.sink.hasRoom with
    | false => simp [hr, hm] at ha
    | true =>
      simp only [hr, hm, Bool.not_true, Bool.false_eq_true, if_false, if_true, Option.some.injEq,
        Prod.mk.injEq] at ha
      exact .inl ⟨ha.1.symm, ha.2.symm, rfl⟩

theorem sinkArm_none_iff {record : ρ} :
    sinkArm record w = none ↔ w.sink.hasReceiver = true ∧ w.sink.hasRoom = false := by
  unfold sinkArm Channel.pollSend
  cases w.sink.hasReceiver <;> cases w.sink.hasRoom <;> simp

/-! ## A round that waits for a log -/

theorem round_of_heard (hrun : w.task = .receiving) {news : Link.News} {l : Link}
    (hsel : select start [onLink Link.logArm, onLink Link.endingArm, quitArm] w =
      some (.news news, { w with link := l })) (heard : w.link.Heard s news l) :
    Round decode s w (w.takes start) (w.puts start) (w.pass decode start).1
      (w.pass decode start).2 := by
  obtain ⟨link, sink, quit, canQuit, task⟩ := w
  obtain rfl : task = .receiving := hrun
  simp only [pass, receivingPass, takes, puts, happening, hsel, Option.map_some]
  cases heard with
  | log log rest hi =>
    cases hd : decode log with
    | ok record =>
      simp only [hd]
      exact .record log rest record rfl hi hd
    | error e =>
      simp only [hd]
      exact .malformed log rest e rfl hi hd
  | closedKnown hi hf hw =>
    exact .completed _ rfl hi hf (fun hw' => absurd (hw.symm.trans hw') (by simp)) .same
  | closedEarly hi hf hs => exact .completed _ rfl hi hf (fun _ => hs) .same
  | closed hi hf hl =>
    cases hh : s.failures.head? with
    | none =>
      have hs : s.failures = [] := List.head?_eq_none_iff.mp hh
      exact .completed _ rfl hi hf (fun _ => hs) (.learn hl)
    | some e => exact .failed e rfl hh hl
  | failed e hs hl => exact .failed e rfl hs hl
  | completed hf hs hl => exact .learned rfl hf hs hl

theorem receiving_round (ht : w.link.Tracks s) (hq : w.quit ≠ .taken)
    (hrun : w.task = .receiving) (start : Nat) :
    Round decode s w (w.takes start) (w.puts start) (w.pass decode start).1
      (w.pass decode start).2 := by
  cases hsel : select start [onLink Link.logArm, onLink Link.endingArm, quitArm] w with
  | none =>
    have harms := select_none_iff.mp hsel
    obtain ⟨hi, hf⟩ := (Link.logArm_none_iff _).mp (onLink_none_iff.mp (harms _ (by simp)))
    simp only [pass, receivingPass, takes, puts, happening, hrun, hsel, Option.map_none]
    exact .waitLog hrun hi hf
  | some r =>
    obtain ⟨h, w'⟩ := r
    obtain ⟨arm, hmem, harm⟩ := select_some_mem hsel
    simp only [List.mem_cons, List.not_mem_nil, or_false] at hmem
    rcases hmem with rfl | rfl | rfl
    · obtain ⟨news, l, hlink, rfl, rfl⟩ := onLink_some harm
      exact round_of_heard hrun hsel (ht.logArm_heard hlink)
    · obtain ⟨news, l, hlink, rfl, rfl⟩ := onLink_some harm
      exact round_of_heard hrun hsel (ht.endingArm_heard hlink)
    · obtain ⟨rfl, rfl, hset⟩ := quitArm_some hq harm
      simp only [pass, receivingPass, takes, puts, happening, hrun, hsel, Option.map_some]
      exact .stopped (by simp [isFinished, hrun]) hset

/-! ## A round that waits for room in the sink -/

theorem sending_round (ht : w.link.Tracks s) (hq : w.quit ≠ .taken) {record : ρ}
    (hrun : w.task = .sending record) (start : Nat) :
    Round decode s w (w.takes start) (w.puts start) (w.pass decode start).1
      (w.pass decode start).2 := by
  obtain ⟨link, sink, quit, canQuit, task⟩ := w
  obtain rfl : task = .sending record := hrun
  cases hsel : select start [sinkArm record, onLink Link.endingArm, quitArm]
    ⟨link, sink, quit, canQuit, .sending record⟩ with
  | none =>
    have harms := select_none_iff.mp hsel
    obtain ⟨hr, hm⟩ := sinkArm_none_iff.mp (harms (sinkArm record) (by simp))
    simp only [pass, sendingPass, takes, puts, happening, hsel, Option.map_none]
    exact .waitRoom record rfl hr hm
  | some r =>
    obtain ⟨h, w'⟩ := r
    obtain ⟨arm, hmem, harm⟩ := select_some_mem hsel
    simp only [List.mem_cons, List.not_mem_nil, or_false] at hmem
    rcases hmem with rfl | rfl | rfl
    · rcases sinkArm_some harm with ⟨rfl, rfl, hr⟩ | ⟨rfl, rfl, hr⟩
      · simp only [pass, sendingPass, takes, puts, happening, hsel, Option.map_some]
        exact .put record rfl hr
      · simp only [pass, sendingPass, takes, puts, happening, hsel, Option.map_some]
        exact .unread record rfl hr
    · obtain ⟨news, l, hlink, rfl, rfl⟩ := onLink_some harm
      rcases ht.endingArm_ended hlink with ⟨e, hs, hl, rfl, rfl⟩ | ⟨hf, hs, hl, rfl, rfl⟩
      · simp only [pass, sendingPass, takes, puts, happening, hsel, Option.map_some]
        exact .failed e rfl hs hl
      · simp only [pass, sendingPass, takes, puts, happening, hsel, Option.map_some]
        exact .learned rfl hf hs hl
    · obtain ⟨rfl, rfl, hset⟩ := quitArm_some hq harm
      simp only [pass, sendingPass, takes, puts, happening, hsel, Option.map_some]
      exact .stopped rfl hset

theorem pass_round (ht : w.link.Tracks s) (hq : w.isFinished = false → w.quit ≠ .taken)
    (start : Nat) :
    Round decode s w (w.takes start) (w.puts start) (w.pass decode start).1
      (w.pass decode start).2 := by
  cases hrun : w.task with
  | receiving => exact receiving_round ht (hq (by simp [isFinished, hrun])) hrun start
  | sending record => exact sending_round ht (hq (by simp [isFinished, hrun])) hrun start
  | ended result =>
    simp only [pass, takes, puts, happening, hrun]
    exact .finished result hrun

end Watch

end AbiBindings.Stream
