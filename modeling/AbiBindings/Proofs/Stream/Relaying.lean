import AbiBindings.Node
import AbiBindings.Proofs.Stream.Relay

/-!
# Relays between a node and a subscriber

A relay together with the node and the subscriber, as all three go on. The node answers the request
for a filter, reports logs or no more of them, and answers the removal of the filter; the subscriber
reads, asks for no more or goes away, even before the filter is installed; the task takes its steps,
and where it may turn to either side it turns to any. All of this happens in any order.

* `Relaying.act`: an action of one of the three.
* `Relaying.Says`: what each stage of the relay says of the rest.
* `Relaying.Released`: what holds in every state that is reached.

Results:
* `Relaying.act_move`: all that an action can do.
* `Relaying.Sound.run`: each stage goes on saying so.
* `Relaying.Sound.fails`: who has subscribed is told that the stream has ended.
* `Relaying.subscribe_eq`: when subscribing succeeds, and what it leaves behind.
* `Relaying.filter_released`: a filter is removed if the subscriber leaves, once and by its own
  number, and otherwise only its stream can end.
-/

namespace AbiBindings.Stream

/-! ## What a reader does -/

/-- Whether an action only reads. -/
def ListeningAction.isReading : ListeningAction → Bool
  | .next _ | .receive | .tryReceive | .ending => true
  | .feed _ | .unsubscribe => false

namespace Listening

variable {s : Listening}

/-- A listener that only reads leaves what the feed has done as it is. -/
theorem act_reads (ht : s.link.Tracks s.supply) {a : ListeningAction} (ha : a.isReading = true) :
    s.link.Reads (s.act a).link ∧ (s.act a).supply = s.supply := by
  cases a with
  | feed | unsubscribe => cases ha
  | next start =>
    obtain ⟨hlink, hsupply⟩ := s.note_link (s.link.nextPass start)
    rw [act, hlink]
    exact ⟨(ht.next_round start).reads, hsupply⟩
  | receive =>
    rcases s.link.receive_cases with ⟨log, rest, hi, heq⟩ | heq | heq <;> simp only [act, heq]
    · exact ⟨.take log rest hi, rfl⟩
    · exact ⟨.same, trivial⟩
    · exact ⟨.same, rfl⟩
  | tryReceive =>
    rw [act]
    cases hi : s.link.logs.items with
    | cons log rest =>
      rw [Link.tryReceive_of_cons hi]
      exact ⟨.take log rest hi, rfl⟩
    | nil =>
      rw [Link.tryReceive_of_nil hi]
      exact ⟨.same, rfl⟩
  | ending =>
    rcases ht.ending_cases with heq | ⟨heq, hl, -⟩ <;> simp only [act, heq]
    · exact ⟨.same, trivial⟩
    · exact ⟨.learn hl, rfl⟩

end Listening

/-! ## The system -/

/-- An action of the node, of the task or of the subscriber. -/
inductive RelayingAction where
  /-- The node answers the request for a filter. -/
  | install (answer : Except Rpc.Failure Nat)
  | report (logs : List Log)
  /-- The node will report no more. -/
  | exhaust
  /-- The node answers the removal of the filter. -/
  | removed
  | step (start : Nat)
  /-- One round of waiting for the next log. -/
  | next (start : Nat)
  | receive
  | tryReceive
  /-- Waiting for the end of the feed. -/
  | ending
  | unsubscribe
  | drop

/-- A relay with what its feed has done, what the subscriber was told and what the node has said. -/
structure Relaying where
  relay : Relay
  supply : Supply
  /-- The logs that were handed out, in order. -/
  heard : List Log
  /-- The failures that were told, in order. -/
  told : List Error
  /-- All logs that the node has reported, in order. -/
  reported : List Log
  /-- The answer to the request for a filter. -/
  answer? : Option (Except Rpc.Failure Nat)

namespace Relaying

/-- A relay that has asked for its filter. -/
def start : Relaying := ⟨.start, .empty, [], [], [], none⟩

/-- The subscription of the relay. -/
def listening (s : Relaying) : Listening := ⟨s.relay.link, s.supply, s.heard, s.told⟩

/-- The same relay with another link, and what the subscriber was told then. -/
def withLink (s : Relaying) (l : Link) (heard : List Log) (told : List Error) : Relaying :=
  { s with relay := { s.relay with link := l }, heard := heard, told := told }

/-- The subscriber does something, if it is there. -/
def listen (s : Relaying) (a : ListeningAction) : Relaying :=
  if s.relay.link.logs.hasReceiver then
    s.withLink (s.listening.act a).link (s.listening.act a).heard (s.listening.act a).told
  else s

/-- Does an action. -/
def act (s : Relaying) : RelayingAction → Relaying
  | .install answer =>
    if s.relay.stage = .installing then
      { s with
        relay := s.relay.install (answer.mapError Rpc.Failure.error)
        answer? := some answer }
    else s
  | .report logs =>
    if s.relay.isExhausted then s
    else { s with relay := s.relay.report logs, reported := s.reported ++ logs }
  | .exhaust => { s with relay := s.relay.exhaust }
  | .removed => { s with relay := s.relay.removed }
  | .step start =>
    { s with relay := s.relay.step start, supply := s.supply.note (s.relay.outcome start) }
  | .next start => s.listen (.next start)
  | .receive => s.listen .receive
  | .tryReceive => s.listen .tryReceive
  | .ending => s.listen .ending
  | .unsubscribe => s.listen .unsubscribe
  | .drop => s.withLink s.relay.link.dropSubscription s.heard s.told

/-- Does some actions one after the other. -/
def run (s : Relaying) (actions : List RelayingAction) : Relaying := actions.foldl act s

theorem run_steps (s : Relaying) (starts : List Nat) :
    (s.run (starts.map .step)).relay = starts.foldl (fun r start => r.step start) s.relay := by
  induction starts generalizing s with
  | nil => rfl
  | cons start starts ih => exact ih (s.act (.step start))

/-! ## What the stages say -/

/-- A relay that holds some logs and has not asked for the removal of its filter. -/
structure Working (s : Relaying) (held : List Log) : Prop where
  feed : s.relay.link.hasFeed = true
  quiet : s.supply.failures = []
  logs : s.supply.accepted ++ held ++ s.relay.reported = s.reported
  kept : s.relay.removals = []

/-- A relay that has asked for the removal of a filter, once, because the subscriber has left. At
most one log was refused. -/
structure Removed (s : Relaying) (filter : Nat) : Prop where
  once : s.relay.removals = [filter]
  left : s.relay.link.isUnsubscribed = true
  quiet : s.supply.failures = []
  logs : ∃ refused, refused.length ≤ 1 ∧
    s.supply.accepted ++ refused ++ s.relay.reported = s.reported

/-- A relay whose node has ended the stream. -/
structure Ended (s : Relaying) : Prop where
  exhausted : s.relay.isExhausted = true
  gone : s.relay.link.hasFeed = false
  kept : s.relay.removals = []
  failures : s.supply.failures = [.subscription .streamEnded]
  logs : s.supply.accepted = s.reported
  taken : s.relay.reported = []

/-- How a relay comes to its end. -/
inductive Over (s : Relaying) : Prop
  | removed (filter : Nat) (ha : s.answer? = some (.ok filter)) (hr : s.Removed filter)
  | ended (filter : Nat) (ha : s.answer? = some (.ok filter)) (he : s.Ended)
  | refused (failure : Rpc.Failure) (ha : s.answer? = some (.error failure))
      (hk : s.relay.removals = [])
      (hl : s.supply.accepted ++ s.relay.reported = s.reported)

/-- What a stage says of the rest. -/
def Says (s : Relaying) : Relay.Stage → Prop
  | .installing => s.answer? = none ∧ s.Working []
  | .listening filter => s.answer? = some (.ok filter) ∧ s.Working []
  | .handing filter log => s.answer? = some (.ok filter) ∧ s.Working [log]
  | .removing filter =>
    s.answer? = some (.ok filter) ∧ s.Removed filter ∧ s.relay.link.hasFeed = true
  | .over => s.Over

/-- Whether the subscriber was told of a failure, or is told of it when it waits for a log while the
queue is empty. -/
def Fails (s : Relaying) (e : Error) : Prop :=
  s.told = [e] ∨ s.told = [] ∧ ∀ start, s.relay.link.logs.items = [] →
    (s.relay.link.next start).1 = .done (.error e)

/-- What the subscriber is told about the installation, by the answer of the node. -/
def cell : Option (Except Rpc.Failure Nat) → OneShot (Except Error Unit)
  | none => .waiting
  | some (.ok _) => .sent (.ok ())
  | some (.error failure) => .sent (.error failure.error)

/-- What holds in every state. -/
structure Sound (s : Relaying) : Prop where
  later : (Link.connect logBuffer).Later s.relay.link
  heard : s.relay.link.logs.hasReceiver = true → s.listening.Sound
  installed : s.relay.installed = cell s.answer?
  stands : s.Says s.relay.stage

/-! ## All that an action can do -/

variable {s s' : Relaying}

/-- What an action can do. -/
inductive Move (s : Relaying) : Relaying → Prop
  | rest : Move s s
  | install (filter : Nat) (hs : s.relay.stage = .installing) :
      Move s { s with
        relay := { s.relay with
          installed := s.relay.installed.send (.ok ()), stage := .listening filter }
        answer? := some (.ok filter) }
  | refuse (failure : Rpc.Failure) (hs : s.relay.stage = .installing) :
      Move s { s with
        relay := Relay.finish { s.relay with
          installed := s.relay.installed.send (.error failure.error) }
        answer? := some (.error failure) }
  | report (logs : List Log) (hx : s.relay.isExhausted = false) :
      Move s { s with
        relay := { s.relay with reported := s.relay.reported ++ logs }
        reported := s.reported ++ logs }
  | exhaust : Move s { s with relay := s.relay.exhaust }
  | removed (filter : Nat) (hs : s.relay.stage = .removing filter) :
      Move s { s with relay := s.relay.finish }
  | step (o : FeedOutcome) (r : Relay) (hm : s.relay.StepMove o r) :
      Move s { s with relay := r, supply := s.supply.note o }
  /-- What the subscriber does leaves the feed as it is. -/
  | subscriber (l : Link) (heard : List Log) (told : List Error)
      (hf : l.hasFeed = s.relay.link.hasFeed) (hl : s.relay.link.Later l)
      (hs : l.logs.hasReceiver = true → Listening.Sound ⟨l, s.supply, heard, told⟩) :
      Move s (s.withLink l heard told)

theorem install_move (s : Relaying) (answer : Except Rpc.Failure Nat) :
    Move s (s.act (.install answer)) := by
  rw [act]
  split
  · rename_i hs
    cases answer with
    | ok filter =>
      show Move s { s with relay := s.relay.install (.ok filter), answer? := some (.ok filter) }
      rw [Relay.install_ok hs]
      exact .install filter hs
    | error failure =>
      show Move s { s with
        relay := s.relay.install (.error failure.error), answer? := some (.error failure) }
      rw [Relay.install_error hs]
      exact .refuse failure hs
  · exact .rest

theorem report_move (s : Relaying) (logs : List Log) : Move s (s.act (.report logs)) := by
  rw [act]
  split
  · exact .rest
  · rename_i hx
    rw [Relay.report, if_neg hx]
    exact .report logs (by simpa using hx)

theorem removed_move (s : Relaying) : Move s (s.act .removed) := by
  rw [act, Relay.removed]
  split
  · rename_i filter hs
    exact .removed filter hs
  · exact .rest

/-- A subscriber that is there does something that leaves the feed as it is. -/
theorem listen_move (h : s.relay.link.logs.hasReceiver = true → s.listening.Sound)
    {a : ListeningAction} (ha : a.isReading = true ∨ a = .unsubscribe) : Move s (s.listen a) := by
  rw [listen]
  split
  · rename_i hr
    have hs := h hr
    have hafter := hs.act a
    rcases ha with ha | rfl
    · obtain ⟨hreads, hsupply⟩ := Listening.act_reads hs.tracks ha
      refine .subscriber _ _ _ hreads.hasFeed_eq (.single (.read _ hreads)) fun _ => ?_
      rw [← show (s.listening.act a).supply = s.supply from hsupply]
      exact hafter
    · exact .subscriber _ _ _ (Link.unsubscribe_hasFeed _) (.single .unsubscribe) fun _ => hafter
  · exact .rest

theorem act_move (h : s.relay.link.logs.hasReceiver = true → s.listening.Sound)
    (a : RelayingAction) : Move s (s.act a) := by
  cases a with
  | install answer => exact install_move s answer
  | report logs => exact report_move s logs
  | exhaust => exact .exhaust
  | removed => exact removed_move s
  | step start => exact .step _ _ (Relay.step_move start s.relay)
  | next | receive | tryReceive | ending => exact listen_move h (.inl rfl)
  | unsubscribe => exact listen_move h (.inr rfl)
  | drop =>
    refine .subscriber _ _ _ (Link.dropSubscription_hasFeed _) (.single .drop) fun hr => ?_
    rw [Link.dropSubscription, Channel.dropReceiver_hasReceiver] at hr
    cases hr

/-! ## What the actions keep -/

/-- What neither the logs that are reported nor the subscriber change. -/
structure Keeps (s s' : Relaying) : Prop where
  answer? : s'.answer? = s.answer?
  supply : s'.supply = s.supply
  feed : s'.relay.link.hasFeed = s.relay.link.hasFeed
  removals : s'.relay.removals = s.relay.removals
  left : s.relay.link.isUnsubscribed = true → s'.relay.link.isUnsubscribed = true
  logs : ∀ front, front ++ s.relay.reported = s.reported →
    front ++ s'.relay.reported = s'.reported
  ended : s.Ended → s'.Ended

namespace Keeps

theorem working (hk : s.Keeps s') {held : List Log} (hw : s.Working held) : s'.Working held where
  feed := hk.feed.trans hw.feed
  quiet := by rw [hk.supply, hw.quiet]
  logs := by rw [hk.supply, hk.logs _ hw.logs]
  kept := hk.removals.trans hw.kept

theorem removed (hk : s.Keeps s') {filter : Nat} (hr : s.Removed filter) : s'.Removed filter where
  once := hk.removals.trans hr.once
  left := hk.left hr.left
  quiet := by rw [hk.supply, hr.quiet]
  logs := by
    obtain ⟨refused, hone, hlogs⟩ := hr.logs
    exact ⟨refused, hone, by rw [hk.supply, hk.logs _ hlogs]⟩

/-- Each stage goes on saying what it says. -/
theorem carry (hk : s.Keeps s') {stage : Relay.Stage} (h : s.Says stage) : s'.Says stage := by
  cases stage with
  | installing | listening | handing => exact h.imp hk.answer?.trans hk.working
  | removing filter =>
    exact ⟨hk.answer?.trans h.1, hk.removed h.2.1, hk.feed.trans h.2.2⟩
  | «over» =>
    cases h with
    | removed filter ha hr => exact .removed filter (hk.answer?.trans ha) (hk.removed hr)
    | ended filter ha he => exact .ended filter (hk.answer?.trans ha) (hk.ended he)
    | refused failure ha hkept hlogs =>
      refine .refused failure (hk.answer?.trans ha) (hk.removals.trans hkept) ?_
      rw [hk.supply, hk.logs _ hlogs]

/-- What the subscriber does concerns neither the logs nor the removal of the filter. -/
theorem subscriber {l : Link} (hf : l.hasFeed = s.relay.link.hasFeed) (hl : s.relay.link.Later l)
    (heard : List Log) (told : List Error) : s.Keeps (s.withLink l heard told) where
  answer? := rfl
  supply := rfl
  feed := hf
  removals := rfl
  left hu := by
    have hleft : s.relay.link.canQuit = false := by simpa [Link.isUnsubscribed] using hu
    show (!l.canQuit) = true
    rw [hl.canQuit_eq_false hleft]
    rfl
  logs _ hlogs := hlogs
  ended he := ⟨he.exhausted, hf.trans he.gone, he.kept, he.failures, he.logs, he.taken⟩

/-- Logs that are reported come behind all others. -/
theorem report (logs : List Log) (hx : s.relay.isExhausted = false) :
    s.Keeps { s with
      relay := { s.relay with reported := s.relay.reported ++ logs }
      reported := s.reported ++ logs } where
  answer? := rfl
  supply := rfl
  feed := rfl
  removals := rfl
  left := id
  logs front hlogs := by rw [← hlogs, List.append_assoc]
  ended he := absurd (hx.symm.trans he.exhausted) (by simp)

theorem exhaust (s : Relaying) : s.Keeps { s with relay := s.relay.exhaust } where
  answer? := rfl
  supply := rfl
  feed := rfl
  removals := rfl
  left := id
  logs _ := id
  ended he := ⟨rfl, he.gone, he.kept, he.failures, he.logs, he.taken⟩

end Keeps

namespace Says

variable {stage : Relay.Stage}

/-- A relay that is not over has its feed. -/
theorem hasFeed (h : s.Says stage) (ho : stage ≠ .over) : s.relay.link.hasFeed = true := by
  cases stage with
  | installing | listening | handing => exact h.2.feed
  | removing => exact h.2.2
  | «over» => exact absurd rfl ho

/-- The removal of a filter follows only from a request to stop. -/
theorem remove {held : List Log} (hw : s.Working held) (hlength : held.length ≤ 1) {o : FeedOutcome}
    (ho : s.supply.note o = s.supply) {filter : Nat} (ha : s.answer? = some (.ok filter)) {l : Link}
    (hq : l.canQuit = false) (hf : l.hasFeed = true) :
    Says { s with
      relay := { s.relay with link := l }.remove filter
      supply := s.supply.note o } (.removing filter) := by
  rw [ho]
  refine ⟨ha, ⟨?_, ?_, hw.quiet, held, hlength, hw.logs⟩, hf⟩
  · rw [Relay.remove, hw.kept, List.nil_append]
  · rw [Relay.remove, Link.isUnsubscribed, hq]
    rfl

/-- A step of the task carries over what is said to the stage that it comes to. -/
theorem step (h : s.Says s.relay.stage) (hc : s.relay.link.Counts) {o : FeedOutcome} {r : Relay}
    (hm : s.relay.StepMove o r) :
    Says { s with relay := r, supply := s.supply.note o } r.stage := by
  have hlater := (hm.fed h.hasFeed s.supply).later
  have hfeed := hm.hasFeed h.hasFeed
  cases hm with
  | rest => exact h
  | leave filter hs hclosed =>
    have hleft := (hc.knows_of_closed (h.hasFeed (by simp [hs])) hclosed).1
    rw [hs] at h
    have hquit := hlater.canQuit_eq_false hleft
    exact remove h.2 (by simp) rfl h.1 hquit (hfeed (by simp [Relay.remove]))
  | take filter log rest hs hr =>
    rw [hs] at h
    obtain ⟨ha, hw⟩ := h
    refine ⟨ha, hw.feed, hw.quiet, ?_, hw.kept⟩
    rw [← hw.logs, hr, List.append_nil, List.append_assoc]
    rfl
  | ended filter hs hr hx =>
    rw [hs] at h
    obtain ⟨ha, hw⟩ := h
    refine .ended filter ha ⟨hx, rfl, hw.kept, ?_, ?_, hr⟩
    · rw [Supply.note, hw.quiet]
      rfl
    · show s.supply.accepted = s.reported
      rw [← hw.logs, hr, List.append_nil, List.append_nil]
  | hand filter log hs hr =>
    rw [hs] at h
    obtain ⟨ha, hw⟩ := h
    refine ⟨ha, hw.feed, hw.quiet, ?_, hw.kept⟩
    show s.supply.accepted ++ [log] ++ [] ++ s.relay.reported = s.reported
    rw [List.append_nil, hw.logs]
  | refuse filter log start hs hrefused =>
    have hleft := (hc.knows_of_send (h.hasFeed (by simp [hs])) hrefused).1
    rw [hs] at h
    have hquit := hlater.canQuit_eq_false hleft
    exact remove h.2 (by simp) rfl h.1 hquit (hfeed (by simp [Relay.remove]))

end Says

namespace Sound

theorem start : Relaying.start.Sound where
  later := .refl
  heard _ := .start (.live logBuffer)
  installed := rfl
  stands := ⟨rfl, rfl, rfl, rfl, rfl⟩

theorem standing (h : s.Sound) {stage : Relay.Stage} (hs : s.relay.stage = stage) : s.Says stage :=
  hs ▸ h.stands

/-- The node's answer fills the cell that the subscriber waits for. -/
theorem send_of_installing (h : s.Sound) (hs : s.relay.stage = .installing)
    (told : Except Error Unit) : s.relay.installed.send told = .sent told := by
  rw [h.installed, (h.standing hs).1]
  rfl

theorem finish (h : s.Sound) (ho : s.relay.stage ≠ .over) :
    (Link.connect logBuffer).Later s.relay.link.finish ∧
      (s.relay.link.finish.logs.hasReceiver = true →
        Listening.Sound ⟨s.relay.link.finish, s.supply, s.heard, s.told⟩) := by
  have hfed := Fed.finish (h.stands.hasFeed ho) s.supply
  exact ⟨h.later.trans hfed.later,
    fun hr => hfed.sound (h.heard (hfed.hasReceiver_eq.symm.trans hr))⟩

theorem move (h : s.Sound) (hm : Move s s') : s'.Sound := by
  cases hm with
  | rest => exact h
  | install filter hs =>
    obtain ⟨-, hw⟩ := h.standing hs
    exact ⟨h.later, h.heard, h.send_of_installing hs _, rfl, hw.feed, hw.quiet, hw.logs, hw.kept⟩
  | refuse failure hs =>
    obtain ⟨hlater, hheard⟩ := h.finish (by simp [hs])
    obtain ⟨-, hw⟩ := h.standing hs
    have hlogs := hw.logs
    rw [List.append_nil] at hlogs
    exact ⟨hlater, hheard, h.send_of_installing hs _, .refused failure rfl hw.kept hlogs⟩
  | report logs hx => exact ⟨h.later, h.heard, h.installed, (Keeps.report logs hx).carry h.stands⟩
  | exhaust => exact ⟨h.later, h.heard, h.installed, (Keeps.exhaust s).carry h.stands⟩
  | removed filter hs =>
    obtain ⟨hlater, hheard⟩ := h.finish (by simp [hs])
    obtain ⟨ha, hr, -⟩ := h.standing hs
    exact ⟨hlater, hheard, h.installed, .removed filter ha ⟨hr.once, hr.left, hr.quiet, hr.logs⟩⟩
  | step o r hm =>
    have hfed := hm.fed h.stands.hasFeed s.supply
    refine ⟨h.later.trans hfed.later,
      fun hr => hfed.sound (h.heard (hfed.hasReceiver_eq.symm.trans hr)), ?_,
      h.stands.step ((Link.Counts.connect _).later h.later) hm⟩
    exact hm.installed_eq.trans h.installed
  | subscriber l heard told hf hl hs =>
    exact ⟨h.later.trans hl, hs, h.installed, (Keeps.subscriber hf hl heard told).carry h.stands⟩

theorem run (h : s.Sound) (actions : List RelayingAction) : (s.run actions).Sound := by
  induction actions generalizing s with
  | nil => exact h
  | cons a actions ih => exact ih (h.move (act_move h.heard a))

/-- Once a feed has failed, every call for the next log that finds the queue empty is told so, or it
was told already. -/
theorem fails (h : s.Sound) (hr : s.relay.link.logs.hasReceiver = true) {e : Error}
    (hgone : s.relay.link.hasFeed = false) (he : s.supply.failures = [e]) : s.Fails e := by
  have hs := h.heard hr
  cases hw : s.relay.link.watchesFailure with
  | false =>
    refine .inl ((hs.known hw).1.trans ?_)
    show s.supply.failures.head?.toList = [e]
    rw [he]
    rfl
  | true =>
    refine .inr ⟨hs.untold hw, fun start hi => ?_⟩
    have hround := hs.tracks.next_round start
    rcases hs.tracks.next_cases start with ⟨heq, -⟩ | ⟨hagain, -, -, -⟩
    · show (s.listening.link.next start).1 = _
      rw [heq]
      generalize (s.listening.link.nextPass start).1 = p, (s.listening.link.nextPass start).2 = l
        at hround ⊢
      cases hround with
      | wait hi hf => exact absurd (hgone.symm.trans hf) (by simp)
      | log log rest hi' => exact absurd (hi.symm.trans hi') (by simp)
      | gone l hi hf hnone => exact absurd (he.symm.trans (hnone hw)) (by simp)
      | failed e' hs' =>
        obtain rfl : e = e' := by simpa [listening, he] using hs'
        rfl
      | completed hf hnone => exact absurd (he.symm.trans hnone) (by simp)
    · rw [hagain] at hround
      cases hround with
      | completed hf hnone => exact absurd (he.symm.trans hnone) (by simp)

theorem logs (h : s.Sound) : ∃ held, held.length ≤ 1 ∧
    s.supply.accepted ++ held ++ s.relay.reported = s.reported ∧
    (s.relay.stage.hasStopped = false → held = s.relay.stage.held) := by
  cases hs : s.relay.stage with
  | installing | listening =>
    exact ⟨[], by simp, (h.standing hs).2.logs, fun _ => rfl⟩
  | handing filter log =>
    exact ⟨[log], by simp, (h.standing hs).2.logs, fun _ => rfl⟩
  | removing filter =>
    obtain ⟨refused, hone, hlogs⟩ := (h.standing hs).2.1.logs
    exact ⟨refused, hone, hlogs, nofun⟩
  | «over» =>
    cases h.standing hs with
    | removed filter ha hr =>
      obtain ⟨refused, hone, hlogs⟩ := hr.logs
      exact ⟨refused, hone, hlogs, nofun⟩
    | ended filter ha he =>
      exact ⟨[], by simp, by rw [he.logs, he.taken, List.append_nil, List.append_nil], nofun⟩
    | refused failure ha hk hl => exact ⟨[], by simp, by rw [List.append_nil, hl], nofun⟩

theorem once (h : s.Sound) : s.relay.removals = [] ∨
    ∃ filter, s.answer? = some (.ok filter) ∧ s.relay.removals = [filter] ∧
      s.relay.link.isUnsubscribed = true := by
  cases hs : s.relay.stage with
  | installing | listening | handing =>
    exact .inl (h.standing hs).2.kept
  | removing filter =>
    obtain ⟨ha, hr, -⟩ := h.standing hs
    exact .inr ⟨filter, ha, hr.once, hr.left⟩
  | «over» =>
    cases h.standing hs with
    | removed filter ha hr => exact .inr ⟨filter, ha, hr.once, hr.left⟩
    | ended filter ha he => exact .inl he.kept
    | refused failure ha hk hl => exact .inl hk

theorem refused (h : s.Sound) {failure : Rpc.Failure} (ha : s.answer? = some (.error failure)) :
    s.relay.stage = .over ∧ s.relay.removals = [] := by
  cases hs : s.relay.stage with
  | installing | listening | handing | removing =>
    cases ha.symm.trans (h.standing hs).1
  | «over» =>
    cases h.standing hs with
    | removed filter ha' => simp [ha] at ha'
    | ended filter ha' => simp [ha] at ha'
    | refused failure' ha' hk hl => exact ⟨rfl, hk⟩

theorem atEnd (h : s.Sound) {filter : Nat} (ha : s.answer? = some (.ok filter))
    (ho : s.relay.stage = .over) :
    (s.relay.removals = [filter] ∧ s.relay.link.isUnsubscribed = true ∧
        s.supply.failures = []) ∨
      s.relay.removals = [] ∧ s.relay.isExhausted = true ∧ s.supply.accepted = s.reported ∧
        s.supply.failures = [.subscription .streamEnded] ∧
        (s.relay.link.logs.hasReceiver = true → s.Fails (.subscription .streamEnded)) := by
  cases h.standing ho with
  | removed filter' ha' hr =>
    obtain rfl : filter = filter' := by simpa [ha] using ha'
    exact .inl ⟨hr.once, hr.left, hr.quiet⟩
  | ended filter' ha' he =>
    exact .inr ⟨he.kept, he.exhausted, he.logs, he.failures,
      fun hr => h.fails hr he.gone he.failures⟩
  | refused failure ha' => simp [ha] at ha'

/-- Once the subscriber has left, the task comes to its end by steps of its own. -/
theorem stops (h : s.Sound) (hu : s.relay.link.isUnsubscribed = true)
    (hs : s.relay.stage ≠ .installing) {starts : List Nat}
    (hlength : 2 * s.relay.reported.length + 2 ≤ starts.length) :
    (s.run (starts.map .step)).relay.stage.hasStopped = true := by
  rw [run_steps]
  refine Relay.hasStopped_of_asked ((Link.Counts.connect _).later h.later)
    (by simpa [Link.isUnsubscribed] using hu) h.stands.hasFeed hs starts ?_
  exact Nat.le_trans s.relay.work_bound hlength

end Sound

/-- What holds of a relay between a node and a subscriber. -/
structure Released (s : Relaying) : Prop where
  /-- The subscriber is told that there is a filter when the node has accepted it, and otherwise the
  error that its refusal is. -/
  installed : s.relay.installed = cell s.answer?
  /-- Nothing is removed where the node has refused the filter. -/
  refused : ∀ failure, s.answer? = some (.error failure) →
    s.relay.stage = .over ∧ s.relay.removals = []
  /-- The logs come into the queue in the order in which they were reported, and none is left out
  before the relay stops. -/
  inOrder : ∃ held, held.length ≤ 1 ∧
    s.supply.accepted ++ held ++ s.relay.reported = s.reported ∧
    (s.relay.stage.hasStopped = false → held = s.relay.stage.held)
  /-- What was handed out comes before what is in the queue. -/
  heard : s.relay.link.logs.hasReceiver = true →
    s.heard ++ s.relay.link.logs.items = s.supply.accepted
  /-- At most one removal is asked for, that of the filter of the node, and only of a subscriber
  that has left. -/
  once : s.relay.removals = [] ∨
    ∃ filter, s.answer? = some (.ok filter) ∧ s.relay.removals = [filter] ∧
      s.relay.link.isUnsubscribed = true
  /-- When the task is over the filter was removed, or the node has ended the stream. -/
  atEnd : ∀ filter, s.answer? = some (.ok filter) → s.relay.stage = .over →
    (s.relay.removals = [filter] ∧ s.relay.link.isUnsubscribed = true ∧
        s.supply.failures = []) ∨
      s.relay.removals = [] ∧ s.relay.isExhausted = true ∧ s.supply.accepted = s.reported ∧
        s.supply.failures = [.subscription .streamEnded] ∧
        (s.relay.link.logs.hasReceiver = true → s.Fails (.subscription .streamEnded))
  /-- Once the subscriber has left, the task stops handing on logs by steps of its own, whichever
  way it turns in each of them. -/
  stops : ∀ starts : List Nat, s.relay.link.isUnsubscribed = true →
    s.relay.stage ≠ .installing → 2 * s.relay.reported.length + 2 ≤ starts.length →
    (s.run (starts.map .step)).relay.stage.hasStopped = true

theorem Sound.released (h : s.Sound) : s.Released where
  installed := h.installed
  refused _ := h.refused
  inOrder := h.logs
  heard hr := (h.heard hr).queue
  once := h.once
  atEnd _ := h.atEnd
  stops _ hu hs hlength := h.stops hu hs hlength

/-! ## Subscribing -/

/-- Subscribing succeeds when the node has accepted the filter, and then there is a relay; otherwise
it fails with the error of the node's refusal, and there is none. -/
theorem subscribe_eq (e : Rpc.Endpoint σ) (f : Filter) (session : Node.Session σ) :
    let asked := Node.ask e "eth_newFilter" (some [Rpc.filter f]) (Rpc.natural? 32) session
    Node.subscribe e f session =
      match asked.1 with
      | .ok _ =>
        (.ok (), { asked.2 with
          relays := asked.2.relays ++ [(Relaying.start.act (.install asked.1)).relay] })
      | .error failure => (.error failure.error, asked.2) := by
  intro asked
  have hasked :
      Node.ask e "eth_newFilter" (some [Rpc.filter f]) (Rpc.natural? 32) session = asked := rfl
  rw [Node.subscribe, hasked]
  obtain ⟨answer, after⟩ := asked
  cases answer <;> rfl

/-- Whatever node, task and subscriber do, and in whatever order, the filter of a subscription is
removed if the subscriber leaves, once and by its own number; otherwise it is only the node that
ends the stream, and the subscriber is told. Subscribing leaves nothing behind where it fails. -/
theorem filter_released :
    (∀ actions : List RelayingAction, (start.run actions).Released) ∧
      ∀ {σ : Type} (e : Rpc.Endpoint σ) (f : Filter) (session : Node.Session σ),
        let asked := Node.ask e "eth_newFilter" (some [Rpc.filter f]) (Rpc.natural? 32) session
        Node.subscribe e f session =
          match asked.1 with
          | .ok _ =>
            (.ok (), { asked.2 with
              relays := asked.2.relays ++ [(start.act (.install asked.1)).relay] })
          | .error failure => (.error failure.error, asked.2) :=
  ⟨fun actions => (Sound.start.run actions).released, subscribe_eq⟩

/-- A subscriber that goes away before its filter is installed: the filter is removed when it is
there, and no log is handed on. -/
example :
    let s := start.run
      [.drop, .install (.ok 7), .report [Link.blankLog], .step 1, .step 1, .removed]
    s.relay.removals = [7] ∧ s.supply.accepted = [] ∧ s.relay.stage = .over :=
  ⟨rfl, rfl, rfl⟩

end Relaying

end AbiBindings.Stream
