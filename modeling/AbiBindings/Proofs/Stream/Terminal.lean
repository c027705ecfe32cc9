import AbiBindings.Contract
import AbiBindings.Proofs.Stream.Reading

/-!
# Terminal phases

An iterator that has failed or is exhausted stays so, whatever its feed and its reader do. The same
is said of the transition function alone, folded over any signals.

Results:
* `Phase.Settles.of_signals`: after a terminal phase nothing is decoded, and at most one step fails.
* `Reading.Settled.of_sound`: what an iterator has stored fits its phase, and a terminal phase
  stays.
* `Reading.terminal_is_final`: both, for every run of an iterator and for all signals.
-/

namespace AbiBindings.Stream

/-! ## Signals one after the other -/

/-- The log of a signal, if it is one. -/
def Signal.log? : Signal → Option Log
  | .log l => some l
  | _ => none

namespace Step

/-- The log that a step decodes, if it does. -/
def decoded? : Step → Option Log
  | .decode log => some log
  | _ => none

/-- Whether a step stops with an error. -/
def isFail : Step → Bool
  | .fail _ => true
  | _ => false

end Step

namespace Phase

/-- Signals with the phase after each and what is done about it. -/
def trace : Phase → List Signal → List (Signal × Phase × Step)
  | _, [] => []
  | p, s :: signals => (s, p.on s) :: trace (p.on s).1 signals

/-- How the steps of some signals keep to the phases. -/
structure Settles (p : Phase) (signals : List Signal) : Prop where
  oneFailure : (p.trace signals).countP (fun entry => entry.2.2.isFail) ≤ 1
  /-- After a terminal phase every step stops. -/
  stops : (p.trace signals).Pairwise fun entry later =>
    entry.2.1.isTerminal = true → later.2.2 = .stop
  stopsAtOnce : p.isTerminal = true → ∀ entry ∈ p.trace signals, entry.2.2 = .stop
  /-- What is decoded are the logs that come before the first terminal phase. -/
  decoded : (p.trace signals).filterMap (fun entry => entry.2.2.decoded?) =
    ((p.trace signals).takeWhile fun entry => !entry.2.1.isTerminal).filterMap
      fun entry => entry.1.log?

variable {p : Phase}

/-! ## One signal -/

theorem on_of_terminal (hp : p.isTerminal = true) (s : Signal) : p.on s = (p, .stop) := by
  cases p <;> simp_all [on, isTerminal]

/-- A step that stops with an error ends in a terminal phase. -/
theorem terminal_of_isFail {s : Signal} (h : (p.on s).2.isFail = true) :
    (p.on s).1.isTerminal = true := by
  cases p <;> cases s <;> simp_all [on, Step.isFail, isTerminal]

/-- A log is decoded, unless the phase was terminal before. -/
theorem decoded_on (s : Signal) :
    (p.on s).2.decoded? = if (p.on s).1.isTerminal then none else s.log? := by
  cases p <;> cases s <;> simp [on, isTerminal, Step.decoded?, Signal.log?]

/-! ## All signals -/

theorem trace_of_terminal (hp : p.isTerminal = true) (signals : List Signal) :
    ∀ entry ∈ p.trace signals, entry.2 = (p, .stop) := by
  induction signals with
  | nil => simp [trace]
  | cons s signals ih =>
    intro entry hentry
    rw [trace, on_of_terminal hp, List.mem_cons] at hentry
    rcases hentry with rfl | hentry
    · rfl
    · exact ih entry hentry

theorem stop_of_terminal (hp : p.isTerminal = true) (signals : List Signal) :
    ∀ entry ∈ p.trace signals, entry.2.2 = .stop := by
  intro entry hentry
  rw [trace_of_terminal hp signals entry hentry]

theorem countP_isFail_le (p : Phase) (signals : List Signal) :
    (p.trace signals).countP (fun entry => entry.2.2.isFail) ≤ 1 := by
  induction signals generalizing p with
  | nil => simp [trace]
  | cons s signals ih =>
    rw [trace, List.countP_cons]
    by_cases hf : (p.on s).2.isFail = true
    · have hzero : ((p.on s).1.trace signals).countP (fun entry => entry.2.2.isFail) = 0 := by
        rw [List.countP_eq_zero]
        intro entry hentry
        rw [stop_of_terminal (terminal_of_isFail hf) signals entry hentry]
        simp [Step.isFail]
      simp [hf, hzero]
    · simpa [hf] using ih _

theorem pairwise_stop (p : Phase) (signals : List Signal) :
    (p.trace signals).Pairwise fun entry later =>
      entry.2.1.isTerminal = true → later.2.2 = .stop := by
  induction signals generalizing p with
  | nil => exact .nil
  | cons s signals ih =>
    rw [trace, List.pairwise_cons]
    exact ⟨fun later hlater ht => stop_of_terminal ht signals later hlater, ih _⟩

theorem decoded_eq (p : Phase) (signals : List Signal) :
    (p.trace signals).filterMap (fun entry => entry.2.2.decoded?) =
      ((p.trace signals).takeWhile fun entry => !entry.2.1.isTerminal).filterMap
        fun entry => entry.1.log? := by
  induction signals generalizing p with
  | nil => rfl
  | cons s signals ih =>
    have hstep := decoded_on (p := p) s
    by_cases ht : (p.on s).1.isTerminal = true
    · have hnone : ((p.on s).1.trace signals).filterMap (fun entry => entry.2.2.decoded?) = [] := by
        rw [List.filterMap_eq_nil_iff]
        intro entry hentry
        rw [stop_of_terminal ht signals entry hentry]
        rfl
      rw [ht, if_pos rfl] at hstep
      rw [trace, List.takeWhile_cons_of_neg (by simp [ht]), List.filterMap_cons, hstep, hnone]
      rfl
    · rw [if_neg ht] at hstep
      rw [trace, List.takeWhile_cons_of_pos (by simp [ht]), List.filterMap_cons,
        List.filterMap_cons, hstep, ih]

theorem Settles.of_signals (p : Phase) (signals : List Signal) : p.Settles signals :=
  ⟨countP_isFail_le p signals, pairwise_stop p signals, fun hp => stop_of_terminal hp signals,
    decoded_eq p signals⟩

end Phase

/-! ## An iterator in a terminal phase -/

namespace Iterator

variable {i : Iterator ρ} (decode : Log → Except Error ρ)

theorem pass_of_terminal (hp : i.phase.isTerminal = true) (start : Nat) :
    i.pass decode start = (.done false, i) := by
  rw [pass, if_pos hp]

theorem advance_of_terminal (hp : i.phase.isTerminal = true) (start : Nat) :
    i.advance decode start = (.done false, i) := by
  simp only [advance, advanceWithin, pass_of_terminal decode hp]

theorem next_of_terminal (hp : i.phase.isTerminal = true) (start : Nat) :
    i.next decode start = (.done none, i) := by
  simp only [next, advance_of_terminal decode hp]

end Iterator

/-- Whether an action asks for the next record. -/
def ReadingAction.asks : ReadingAction → Bool
  | .next _ | .nextEvent _ => true
  | .feed _ | .take | .close => false

namespace Reading

variable {decode : Log → Except Error ρ} {r : Reading ρ}

/-- The phase and the stored error are those of another state, and only refusals were answered. -/
structure Stays (before after : Reading ρ) (asked : Nat) : Prop where
  phase : after.iterator.phase = before.iterator.phase
  error : after.iterator.error? = before.iterator.error?
  answers : after.answers = before.answers ++ List.replicate asked false

theorem act_stays (decode : Log → Except Error ρ) (hp : r.iterator.phase.isTerminal = true)
    (a : ReadingAction) :
    Stays r (r.act decode a) (if a.asks then 1 else 0) := by
  have hpass := Iterator.pass_of_terminal decode hp
  cases a with
  | feed a => exact ⟨rfl, rfl, by simp [act, ReadingAction.asks]⟩
  | next start => constructor <;> simp [act, hpass, note, ReadingAction.asks]
  | nextEvent start => constructor <;> simp [act, hpass, note, ReadingAction.asks]
  | take => exact ⟨rfl, rfl, by simp [act, take, ReadingAction.asks]⟩
  | close =>
    have hna : r.iterator.phase ≠ .active := by
      intro ha
      simp [ha, Phase.isTerminal] at hp
    constructor <;> simp [act, Iterator.close_eq, hna, ReadingAction.asks]

theorem run_stays (decode : Log → Except Error ρ) (hp : r.iterator.phase.isTerminal = true)
    (actions : List ReadingAction) :
    Stays r (r.run decode actions) (actions.countP ReadingAction.asks) := by
  induction actions generalizing r with
  | nil => exact ⟨rfl, rfl, by simp [Reading.run]⟩
  | cons a actions ih =>
    have hact := act_stays decode hp a
    have hrun := ih (r := r.act decode a) (by rw [hact.phase]; exact hp)
    refine ⟨hrun.phase.trans hact.phase, hrun.error.trans hact.error, ?_⟩
    refine hrun.answers.trans ?_
    rw [hact.answers, List.append_assoc, List.replicate_append_replicate, List.countP_cons,
      Nat.add_comm]

/-! ## An iterator that does not wait for its feed -/

theorem Sound.act_not_active (h : r.Sound decode) (hp : r.iterator.phase ≠ .active)
    (a : ReadingAction) : (r.act decode a).iterator.phase ≠ .active := by
  refine act_induction (motive := fun r' => r'.iterator.phase ≠ .active) h.tracks h.watches hp
    (fun _ _ _ => hp) ?_ (fun _ hp' => hp') a fun _ => ?_
  · intro p i hr
    cases hr with
    | finished | wait | record => exact hp
    | malformed | failed | completed | exhausted => simp [note]
  · rw [Iterator.close_eq, if_neg hp]
    exact hp

theorem Sound.run_not_active (h : r.Sound decode) (hp : r.iterator.phase ≠ .active)
    (actions : List ReadingAction) : (r.run decode actions).iterator.phase ≠ .active :=
  h.run_keeps (motive := fun r => r.iterator.phase ≠ .active) hp
    (fun _ h hp a => h.act_not_active hp a) actions

/-! ## Every state -/

/-- What an iterator has stored fits its phase, and what its phase promises is kept. -/
structure Settled (decode : Log → Except Error ρ) (r : Reading ρ) : Prop where
  error_iff : r.iterator.error?.isSome = true ↔ r.iterator.phase = .failed
  noRecord : r.iterator.phase = .failed → r.iterator.current? = none
  /-- A terminal phase and the error stay, and every call for the next record is answered no. -/
  stays : r.iterator.phase.isTerminal = true → ∀ more,
    Stays r (r.run decode more) (more.countP ReadingAction.asks)
  /-- No such call waits or changes anything. -/
  refuses : r.iterator.phase.isTerminal = true → ∀ start,
    r.iterator.advance decode start = (.done false, r.iterator) ∧
      r.iterator.next decode start = (.done none, r.iterator)
  notBack : r.iterator.phase = .draining → ∀ more, (r.run decode more).iterator.phase ≠ .active

theorem Settled.of_sound (h : r.Sound decode) : r.Settled decode where
  error_iff := by
    constructor
    · intro he
      apply Classical.byContradiction
      intro hp
      simp [h.noError hp] at he
    · intro hp
      obtain ⟨-, e, he, -⟩ := h.failed hp
      simp [he]
  noRecord hp := (h.failed hp).1
  stays hp more := run_stays decode hp more
  refuses hp start := ⟨Iterator.advance_of_terminal decode hp start,
    Iterator.next_of_terminal decode hp start⟩
  notBack hp more := h.run_not_active (by simp [hp]) more

/-- In every state that is reached, what an iterator has stored fits its phase, and a terminal phase
is final; so it is for the transition function and any signals. -/
theorem terminal_is_final (c : Contract) (t : EventType) :
    (∀ (origin : Origin) (actions : List ReadingAction),
      ((Reading.start origin).run (c.unpack t) actions).Settled (c.unpack t)) ∧
    ∀ (p : Phase) (signals : List Signal), p.Settles signals := by
  constructor
  · intro origin actions
    exact .of_sound ((Sound.start origin).run actions)
  · exact Phase.Settles.of_signals

end Reading

end AbiBindings.Stream
