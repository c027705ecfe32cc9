import AbiBindings.Proofs.Stream.Refusal
import AbiBindings.Stream.Relay

/-!
# Steps of a relay

The task of a relay listens to the node and to its subscriber, and hands on one log after the other.
Where both have something for it, it may turn to either of them.

* `Relay.outcome`: what a step comes to for the feed.
* `Relay.Stage.hasStopped`: a relay that hands on no more logs.

Results:
* `Relay.step_move`: all that a step can do.
* `Link.Counts.closed_of_asked`: a feed that was asked to stop hears of it when it looks.
* `Relay.hasStopped_of_asked`: once the subscriber has left, a relay comes to an end whichever way
  it turns; at most two steps for each log, and two more.
-/

namespace AbiBindings.Stream

/-! ## Calls of a feed, one after another -/

/-- What the calls of a feed can make of a link and of what was noted of the feed. -/
def Fed : Link × Supply → Link × Supply → Prop :=
  Relation.ReflTransGen fun p q => ∃ o, FeedMove p.1 o q.1 ∧ q.2 = p.2.note o

namespace Fed

variable {p q : Link × Supply} {l l' : Link} {s : Supply}

theorem refl : Fed p p := Relation.ReflTransGen.refl

theorem single {o : FeedOutcome} (h : FeedMove l o l') : Fed (l, s) (l', s.note o) :=
  Relation.ReflTransGen.single ⟨o, h, rfl⟩

theorem trans {p q r : Link × Supply} (h : Fed p q) (h' : Fed q r) : Fed p r :=
  Relation.ReflTransGen.trans h h'

theorem finish (hf : l.hasFeed = true) (s : Supply) : Fed (l, s) (l.finish, s) :=
  (single (.dropLogs hf)).trans (single (.dropFailure rfl))

theorem later (h : Fed p q) : p.1.Later q.1 := by
  induction h with
  | refl => exact .refl
  | tail _ hm ih =>
    obtain ⟨o, hm, -⟩ := hm
    exact ih.tail (.feed o _ hm)

theorem hasReceiver_eq (h : Fed p q) : q.1.logs.hasReceiver = p.1.logs.hasReceiver := by
  induction h with
  | refl => rfl
  | tail _ hm ih =>
    obtain ⟨o, hm, -⟩ := hm
    exact hm.kept.2.trans ih

/-- A listener goes on being told what the feed does. -/
theorem sound (h : Fed p q) {heard : List Log} {told : List Error}
    (hs : Listening.Sound ⟨p.1, p.2, heard, told⟩) : Listening.Sound ⟨q.1, q.2, heard, told⟩ := by
  induction h with
  | refl => exact hs
  | tail _ hm ih =>
    obtain ⟨o, hm, hq⟩ := hm
    rw [hq]
    exact ih.feed hm

end Fed

namespace Link

theorem fail_logs (l : Link) (e : Error) : (l.fail e).logs = l.logs := by
  unfold fail
  split <;> rfl

/-- A feed that was asked to stop hears of it when it looks. -/
theorem Counts.closed_of_asked {l : Link} (h : l.Counts) (hq : l.canQuit = false) :
    l.closed.1 = .ready () := by
  unfold closed
  cases hw : l.watchesQuit with
  | false => rfl
  | true =>
    have hasked := h.asked hq
    have hunseen := h.unseen hw
    cases hc : l.quit <;> simp_all [OneShot.poll, OneShot.isSettled]

end Link

namespace Relay

/-- Whether the relay hands on no more logs. -/
def Stage.hasStopped : Stage → Bool
  | .removing _ | .over => true
  | .installing | .listening _ | .handing _ _ => false

/-- The log that the relay holds. -/
def Stage.held : Stage → List Log
  | .handing _ log => [log]
  | .installing | .listening _ | .removing _ | .over => []

/-- Whether the relay waits for a log or holds one. -/
def Stage.isWorking : Stage → Bool
  | .listening _ | .handing _ _ => true
  | .installing | .removing _ | .over => false

/-- What a step of the task comes to for the feed. -/
def outcome (start : Nat) (r : Relay) : FeedOutcome :=
  match r.stage with
  | .listening _ =>
    match select start [leaveArm, reportArm] r with
    | some (.ended, _) => .failed (.subscription .streamEnded)
    | _ => .nothing
  | .handing _ log => .ofSend log (r.link.send start log).1
  | .installing | .removing _ | .over => .nothing

/-! ## All that a step can do -/

/-- What a step can do, and what it comes to for the feed. -/
inductive StepMove (r : Relay) : FeedOutcome → Relay → Prop
  /-- The relay does not wait where it hears that the subscriber has left. -/
  | rest (hw : r.stage.isWorking = true → r.link.closed.1 ≠ .ready ()) : StepMove r .nothing r
  | leave (filter : Nat) (hs : r.stage = .listening filter) (hc : r.link.closed.1 = .ready ()) :
      StepMove r .nothing ({ r with link := r.link.closed.2 }.remove filter)
  | take (filter : Nat) (log : Log) (rest : List Log) (hs : r.stage = .listening filter)
      (hr : r.reported = log :: rest) :
      StepMove r .nothing { r with reported := rest, stage := .handing filter log }
  | ended (filter : Nat) (hs : r.stage = .listening filter) (hr : r.reported = [])
      (hx : r.isExhausted = true) :
      StepMove r (.failed (.subscription .streamEnded))
        { r with link := r.link.fail (.subscription .streamEnded) }.finish
  | hand (filter : Nat) (log : Log) (hs : r.stage = .handing filter log)
      (hr : r.link.logs.hasReceiver = true) :
      StepMove r (.accepted log) { r with link := r.link.push log, stage := .listening filter }
  | refuse (filter : Nat) (log : Log) (start : Nat) (hs : r.stage = .handing filter log)
      (hf : (r.link.send start log).1 = .ready false) :
      StepMove r .refused ({ r with link := (r.link.send start log).2 }.remove filter)

variable {r r' : Relay} {o : FeedOutcome}

theorem install_ok (hs : r.stage = .installing) (filter : Nat) :
    r.install (.ok filter) =
      { r with installed := r.installed.send (.ok ()), stage := .listening filter } := by
  simp only [install, hs]

theorem install_error (hs : r.stage = .installing) (e : Error) :
    r.install (.error e) = finish { r with installed := r.installed.send (.error e) } := by
  simp only [install, hs]

theorem leaveArm_eq_some {h : Happening} (harm : leaveArm r = some (h, r')) :
    h = .left ∧ r.link.closed.1 = .ready () ∧ r' = { r with link := r.link.closed.2 } := by
  unfold leaveArm at harm
  split at harm
  · rename_i u l hclosed
    obtain ⟨rfl, rfl⟩ := Prod.mk.inj (Option.some.inj harm)
    exact ⟨rfl, by rw [hclosed], by rw [hclosed]⟩
  · cases harm

theorem closed_of_leaveArm_none (harm : leaveArm r = none) : r.link.closed.1 ≠ .ready () := by
  intro hc
  unfold leaveArm at harm
  rcases hclosed : r.link.closed with ⟨p, l⟩
  rw [hclosed] at hc harm
  obtain rfl : p = .ready () := hc
  cases harm

theorem listen_move {filter : Nat} (hs : r.stage = .listening filter) (start : Nat) :
    StepMove r (r.outcome start) (r.listen filter start) := by
  rw [outcome, hs, listen]
  dsimp only
  cases hsel : select start [leaveArm, reportArm] r with
  | none =>
    have hleave : leaveArm r = none := select_none_iff.mp hsel _ (by simp)
    exact .rest fun _ => closed_of_leaveArm_none hleave
  | some happened =>
    obtain ⟨h, r'⟩ := happened
    obtain ⟨arm, hmem, harm⟩ := select_some_mem hsel
    simp only [List.mem_cons, List.not_mem_nil, or_false] at hmem
    rcases hmem with rfl | rfl
    · obtain ⟨rfl, hc, rfl⟩ := leaveArm_eq_some harm
      exact .leave filter hs hc
    · unfold reportArm at harm
      split at harm
      · rename_i log rest hr
        obtain ⟨rfl, rfl⟩ := Prod.mk.inj (Option.some.inj harm)
        exact .take filter log rest hs hr
      · rename_i hr
        split at harm
        · rename_i hx
          obtain ⟨rfl, rfl⟩ := Prod.mk.inj (Option.some.inj harm)
          exact .ended filter hs hr hx
        · cases harm

theorem quitArm_of_closed {l : Link} (hw : l.watchesQuit = true) (hc : l.closed.1 = .ready ()) :
    l.quitArm = some (.ready false, l.closed.2) := by
  unfold Link.closed at hc ⊢
  unfold Link.quitArm
  cases hq : l.quit <;> simp_all [OneShot.poll]

/-- Where a feed hears of the request to stop, a send does not wait. -/
theorem send_of_closed {l : Link} (hc : l.closed.1 = .ready ()) (start : Nat) (log : Log) :
    ∃ sent, (l.send start log).1 = .ready sent := by
  cases hw : l.watchesQuit with
  | false => exact ⟨false, by simp [Link.send, hw]⟩
  | true =>
    rw [Link.send, hw, select_pair, quitArm_of_closed hw hc]
    rcases Nat.mod_two_eq_zero_or_one start with hs | hs
    · exact ⟨false, by simp [hs]⟩
    · cases hr : l.logs.hasReceiver <;> cases hm : l.logs.hasRoom <;>
        simp [hs, Link.sendArm, Channel.pollSend, hr, hm]

theorem hand_move {filter : Nat} {log : Log} (hs : r.stage = .handing filter log) (start : Nat) :
    StepMove r (r.outcome start) (r.hand filter log start) := by
  rw [outcome, hs, hand]
  dsimp only
  have hm := r.link.send_move start log
  have hrefuse := StepMove.refuse (r := r) filter log start hs
  have hready := fun hc => send_of_closed (l := r.link) hc start log
  rcases hsend : r.link.send start log with ⟨p, l⟩
  rw [hsend] at hm hrefuse hready
  cases hm with
  | wait | misuse => exact .rest fun _ hc => by obtain ⟨sent, h⟩ := hready hc; cases h
  | refuse => exact hrefuse rfl
  | notice => exact hrefuse rfl
  | accept hr => exact .hand filter log hs hr

theorem step_move (start : Nat) (r : Relay) : StepMove r (r.outcome start) (r.step start) := by
  rw [step]
  cases hs : r.stage with
  | listening filter => exact listen_move hs start
  | handing filter log => exact hand_move hs start
  | installing | removing | «over» =>
    rw [outcome, hs]
    exact .rest fun hw => by simp [hs, Stage.isWorking] at hw

/-! ## What a step does to the feed -/

theorem StepMove.fed (h : StepMove r o r') (hf : r.stage ≠ .over → r.link.hasFeed = true)
    (s : Supply) : Fed (r.link, s) (r'.link, s.note o) := by
  cases h with
  | rest | take => exact .refl
  | leave filter hs hc =>
    rcases Link.closed_of_ready hc with ⟨-, heq⟩ | ⟨hq, heq⟩ <;> simp only [remove, heq]
    · exact .refl
    · exact .single (.notice hq)
  | ended filter hs hr hx =>
    have hfeed := hf (by simp [hs])
    have hafter : (r.link.fail (.subscription .streamEnded)).hasFeed = true := by
      rw [Link.hasFeed, Link.fail_logs]
      exact hfeed
    exact (Fed.single (.fail _ hfeed)).trans (Fed.finish hafter _)
  | hand filter log hs hr => exact .single (.accept log (hf (by simp [hs])) hr)
  | refuse filter log start hs hrefused =>
    have hm := (r.link.send_move start log).feedMove (hf (by simp [hs]))
    rw [hrefused] at hm
    exact .single hm

/-- A step tells the subscriber nothing about the installation. -/
theorem StepMove.installed_eq (h : StepMove r o r') : r'.installed = r.installed := by
  cases h <;> rfl

/-- A relay that is not over has its feed. -/
theorem StepMove.hasFeed (h : StepMove r o r') (hf : r.stage ≠ .over → r.link.hasFeed = true)
    (ho : r'.stage ≠ .over) : r'.link.hasFeed = true := by
  cases h with
  | rest => exact hf ho
  | leave filter hs hc =>
    have hfeed := hf (by simp [hs])
    rcases r.link.closed_cases with heq | ⟨heq, -⟩ <;> simp only [remove, heq] <;> exact hfeed
  | take filter log rest hs => exact hf (by simp [hs])
  | ended => exact absurd rfl ho
  | hand filter log hs => exact hf (by simp [hs])
  | refuse filter log start hs hrefused =>
    have hfeed := hf (by simp [hs])
    have hm := r.link.send_move start log
    rw [hrefused] at hm
    simp only [remove]
    generalize (r.link.send start log).2 = l at hm ⊢
    cases hm with
    | refuse | notice => exact hfeed

/-! ## After the subscriber has left -/

/-- How many steps a relay may need to come to an end: two for each log, and one or two for the
stage that it is in. -/
def work (r : Relay) : Nat :=
  match r.stage with
  | .listening _ => 2 * r.reported.length + 1
  | .handing _ _ => 2 * r.reported.length + 2
  | .installing | .removing _ | .over => 0

theorem work_bound (r : Relay) : r.work ≤ 2 * r.reported.length + 2 := by
  unfold work
  split <;> omega

/-- Where the relay hears that the subscriber has left, a step leaves less to do. -/
theorem StepMove.work_le (h : StepMove r o r') (hc : r.link.closed.1 = .ready ()) :
    r'.work ≤ r.work - 1 := by
  cases h with
  | rest hw =>
    cases hs : r.stage with
    | listening | handing => exact absurd hc (hw (by simp [hs, Stage.isWorking]))
    | installing | removing | «over» => simp [work, hs]
  | leave | ended | refuse => exact Nat.zero_le _
  | take filter log rest hs hr =>
    simp only [work, hs, hr, List.length_cons]
    omega
  | hand filter log hs hr => simp [work, hs]

theorem StepMove.ne_installing (h : StepMove r o r') (hs : r.stage ≠ .installing) :
    r'.stage ≠ .installing := by
  cases h with
  | rest => exact hs
  | leave | take | ended | hand | refuse => exact nofun

theorem hasStopped_of_work (hs : r.stage ≠ .installing) (hw : r.work = 0) :
    r.stage.hasStopped = true := by
  unfold work at hw
  split at hw
  · omega
  · omega
  · rename_i h
    exact absurd h hs
  · rename_i h
    rw [h]
    rfl
  · rename_i h
    rw [h]
    rfl

/-- Once the subscriber has left, a relay whose filter is installed hands on no more logs after so
many steps, whichever way it turns in each of them. -/
theorem hasStopped_of_asked (h : r.link.Counts) (hq : r.link.canQuit = false)
    (hf : r.stage ≠ .over → r.link.hasFeed = true) (hs : r.stage ≠ .installing)
    (starts : List Nat) (hlength : r.work ≤ starts.length) :
    (starts.foldl (fun r start => r.step start) r).stage.hasStopped = true := by
  induction starts generalizing r with
  | nil => exact hasStopped_of_work hs (Nat.le_zero.mp hlength)
  | cons start starts ih =>
    have hm := step_move start r
    have hlater := (hm.fed hf .empty).later
    have hwork := hm.work_le (h.closed_of_asked hq)
    rw [List.length_cons] at hlength
    have hrest : (r.step start).work ≤ starts.length := by omega
    exact ih (h.later hlater) (hlater.canQuit_eq_false hq) (hm.hasFeed hf) (hm.ne_installing hs)
      hrest

end Relay

end AbiBindings.Stream
