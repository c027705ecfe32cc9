import AbiBindings.Stream.Link

/-!
# Event iterators

An iterator hands out the decoded logs of a subscription one by one. It waits for logs while its
feed is there, then hands out what is left in the queue; an error ends it for good.

* `Phase.on`: the transition function.
* `Iterator.live`, `Iterator.buffered`: an iterator over a subscription, and over logs at hand.
* `Iterator.advance`, `Iterator.close`: going on to the next record, and asking the feed to stop.
-/

namespace AbiBindings.Stream

/-- How far an iterator has come. -/
inductive Phase where
  /-- It waits for the feed. -/
  | active
  /-- The feed is done; what is in the queue is still handed out. -/
  | draining
  /-- It has failed. -/
  | failed
  /-- Everything was handed out. -/
  | exhausted
  deriving Repr, DecidableEq

/-- What happens to an iterator. -/
inductive Signal where
  | log (log : Log)
  /-- The feed ended without failure. -/
  | completed
  | failed (e : Error)
  /-- A log could not be decoded. -/
  | malformed (e : Error)
  /-- The queue is empty. -/
  | empty
  /-- The reader asked to stop. -/
  | closed
  deriving DecidableEq

/-- What an iterator does next. -/
inductive Step where
  | decode (log : Log)
  | fail (e : Error)
  | continue
  | stop
  deriving DecidableEq

namespace Phase

/-- Whether nothing more is handed out. -/
def isTerminal : Phase → Bool
  | .failed | .exhausted => true
  | _ => false

/-- The phase after a signal, and what is done about it. -/
def on : Phase → Signal → Phase × Step
  | .failed, _ => (.failed, .stop)
  | .exhausted, _ => (.exhausted, .stop)
  | p, .log log => (p, .decode log)
  | _, .failed e => (.failed, .fail e)
  | _, .malformed e => (.failed, .fail e)
  | .draining, .empty => (.exhausted, .stop)
  | _, .completed => (.draining, .continue)
  | _, .closed => (.draining, .continue)
  | .active, .empty => (.draining, .continue)

end Phase

/-- An iterator over records. -/
structure Iterator (ρ : Type) where
  link : Link
  phase : Phase
  current? : Option ρ
  error? : Option Error

namespace Iterator

/-- An iterator over a subscription. -/
def live (l : Link) : Iterator ρ := ⟨l, .active, none, none⟩

/-- An iterator over logs that are at hand. -/
def buffered (logs : List Log) : Iterator ρ := ⟨Link.ofLogs logs, .draining, none, none⟩

/-- The signal of a piece of news. -/
def signalOf? : Link.News → Option Signal
  | .log log => some (.log log)
  | .closed (some e) | .ended (some e) => some (.failed e)
  | .closed none | .ended none => some .completed
  | .quit | .misused => none

/-- The next signal, waiting for the feed if there is one. -/
def signal (start : Nat) (i : Iterator ρ) : Poll Signal × Iterator ρ :=
  match i.phase with
  | .active =>
    match select start [Link.logArm, Link.endingArm] i.link with
    | none => (.pending, i)
    | some (news, l) =>
      match signalOf? news with
      | some s => (.ready s, { i with link := l })
      | none => (.misused, { i with link := l })
  | _ =>
    match i.link.tryReceive with
    | (some log, l) => (.ready (.log log), { i with link := l })
    | (none, l) => (.ready .empty, { i with link := l })

/-- Stops with an error. -/
def stopWith (i : Iterator ρ) (e : Error) : Iterator ρ :=
  { i with current? := none, error? := some e }

/-- Deals with a signal; tells whether there is a record, unless another signal is needed. -/
def apply (decode : Log → Except Error ρ) (i : Iterator ρ) (s : Signal) :
    Option Bool × Iterator ρ :=
  match i.phase.on s with
  | (p, .decode log) =>
    let i := { i with phase := p }
    match decode log with
    | .ok record => (some true, { i with current? := some record })
    | .error e =>
      match i.phase.on (.malformed e) with
      | (p, .fail e) => (some false, { i with phase := p }.stopWith e)
      | (p, _) => (some false, { i with phase := p })
  | (p, .fail e) => (some false, { i with phase := p }.stopWith e)
  | (p, .continue) => (none, { i with phase := p })
  | (p, .stop) => (some false, { i with phase := p })

/-- One round of going on. -/
def pass (decode : Log → Except Error ρ) (start : Nat) (i : Iterator ρ) :
    Pass Bool × Iterator ρ :=
  if i.phase.isTerminal then (.done false, i)
  else
    match i.signal start with
    | (.pending, i) => (.pending, i)
    | (.misused, i) => (.misused, i)
    | (.ready s, i) =>
      match i.apply decode s with
      | (some advanced, i) => (.done advanced, i)
      | (none, i) => (.again, i)

/-- Goes on in at most `rounds` rounds. -/
def advanceWithin (decode : Log → Except Error ρ) (start : Nat) :
    Nat → Iterator ρ → Pass Bool × Iterator ρ
  | 0, i => (.again, i)
  | rounds + 1, i =>
    match i.pass decode start with
    | (.again, i) => advanceWithin decode start rounds i
    | r => r

/-- Goes on to the next record; tells whether there is one. The feed ends once, so two rounds
suffice. -/
def advance (decode : Log → Except Error ρ) (start : Nat) (i : Iterator ρ) :
    Pass Bool × Iterator ρ :=
  i.advanceWithin decode start 2

/-- Hands out the current record. -/
def take (i : Iterator ρ) : Option ρ × Iterator ρ := (i.current?, { i with current? := none })

/-- Goes on to the next record and hands it out. -/
def next (decode : Log → Except Error ρ) (start : Nat) (i : Iterator ρ) :
    Pass (Option ρ) × Iterator ρ :=
  match i.advance decode start with
  | (.done true, i) =>
    let (record, i) := i.take
    (.done record, i)
  | (.done false, i) => (.done none, i)
  | (.again, i) => (.again, i)
  | (.pending, i) => (.pending, i)
  | (.misused, i) => (.misused, i)

/-- Asks the feed to stop. What is in the queue is still handed out. -/
def close (i : Iterator ρ) : Iterator ρ :=
  let i := { i with link := i.link.unsubscribe }
  if i.phase = .active then { i with phase := (i.phase.on .closed).1 } else i

/-- The iterator goes away. -/
def drop (i : Iterator ρ) : Link := i.link.dropSubscription

end Iterator

end AbiBindings.Stream
