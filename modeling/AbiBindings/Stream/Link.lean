import AbiBindings.Chain.Basic
import AbiBindings.Error
import AbiBindings.Stream.Channel

/-!
# Subscriptions and their feeds

A subscription to logs and the feed that fills it share a bounded queue of logs, a cell in which the
feed reports its failure, and a cell in which the subscriber asks it to stop. A `Link` is all of
this at one moment; every operation of either side is one step of it.

* `Link.next`: the next log of the subscription, nothing when the feed is gone and the queue is
  empty, or the failure of the feed.
* `Link.unsubscribe`, `Link.dropSubscription`: asking the feed to stop, once.
* `Link.send`, `Link.trySend`, `Link.fail`, `Link.closed`, `Link.isClosed`: what the feed does. It
  ends in two steps: `Link.dropLogs`, then `Link.dropFailure`.
* `Link.ofLogs`: a subscription to logs that are at hand.
-/

namespace AbiBindings.Stream

/-- The shared state of a subscription and its feed. -/
structure Link where
  logs : Channel Log
  failure : OneShot Error
  /-- Whether the feed has not reported a failure yet. -/
  canFail : Bool
  /-- Whether the subscription has not yet learned how the feed ended. -/
  watchesFailure : Bool
  quit : OneShot Unit
  /-- Whether the subscription has not been unsubscribed. -/
  canQuit : Bool
  /-- Whether the feed has not yet seen that it is to stop. -/
  watchesQuit : Bool
  /-- How often the feed was asked to stop. -/
  unsubscribes : Nat
  deriving DecidableEq

/-- What a call that goes round in a loop has come to. -/
inductive Pass (α : Type) where
  | done (value : α)
  | again
  | pending
  | misused
  deriving Repr, DecidableEq

namespace Link

/-- A connected subscription and feed; there is room for at least one log. -/
def connect (capacity : Nat) : Link where
  logs := .empty (max capacity 1)
  failure := .waiting
  canFail := true
  watchesFailure := true
  quit := .waiting
  canQuit := true
  watchesQuit := true
  unsubscribes := 0

/-! ## The subscription -/

/-- Asks the feed to stop; only the first time has an effect. -/
def unsubscribe (l : Link) : Link :=
  if l.canQuit then
    { l with canQuit := false, unsubscribes := l.unsubscribes + 1, quit := l.quit.send () }
  else l

/-- Whether the feed was asked to stop. -/
def isUnsubscribed (l : Link) : Bool := !l.canQuit

/-- The next log of the queue, waiting for one. -/
def receive (l : Link) : Poll (Option Log) × Link :=
  let (p, logs) := l.logs.pollReceive
  (p, { l with logs := logs })

/-- The next log of the queue, if there is one. -/
def tryReceive (l : Link) : Option Log × Link :=
  let (item, logs) := l.logs.tryReceive
  (item, { l with logs := logs })

/-- How the feed ended, waiting for it: with a failure, or without. Once this is known nothing more
comes. -/
def ending (l : Link) : Poll (Option Error) × Link :=
  if !l.watchesFailure then (.pending, l)
  else
    match l.failure.poll with
    | (.ready outcome, failure) =>
      (.ready outcome, { l with failure := failure, watchesFailure := false })
    | (.pending, _) => (.pending, l)
    | (.misused, _) => (.misused, l)

/-- The failure of the feed, if it has been reported and is not known yet. -/
def takeFailure (l : Link) : Option Error × Link :=
  match l.ending with
  | (.ready outcome, l) => (outcome, l)
  | _ => (none, l)

/-- The subscription goes away. -/
def dropSubscription (l : Link) : Link :=
  let l := l.unsubscribe
  { l with logs := l.logs.dropReceiver, watchesFailure := false }

/-- What became of one of the ways to go on. -/
inductive News where
  | log (log : Log)
  /-- The queue is empty and its sender gone; with it comes a failure that was reported. -/
  | closed (failure : Option Error)
  | ended (failure : Option Error)
  | quit
  | misused
  deriving DecidableEq

/-- A log comes, or none will come any more. -/
def logArm : Arm Link News := fun l =>
  match l.receive with
  | (.ready (some log), l) => some (.log log, l)
  | (.ready none, l) =>
    let (failure, l) := l.takeFailure
    some (.closed failure, l)
  | (.pending, _) => none
  | (.misused, l) => some (.misused, l)

/-- The feed ends. -/
def endingArm : Arm Link News := fun l =>
  match l.ending with
  | (.ready failure, l) => some (.ended failure, l)
  | (.pending, _) => none
  | (.misused, l) => some (.misused, l)

/-- One round of waiting for the next log. -/
def nextPass (start : Nat) (l : Link) : Pass (Except Error (Option Log)) × Link :=
  match select start [logArm, endingArm] l with
  | none => (.pending, l)
  | some (.log log, l) => (.done (.ok (some log)), l)
  | some (.closed none, l) => (.done (.ok none), l)
  | some (.closed (some e), l) => (.done (.error e), l)
  | some (.ended none, l) => (.again, l)
  | some (.ended (some e), l) => (.done (.error e), l)
  | some (.quit, l) => (.pending, l)
  | some (.misused, l) => (.misused, l)

/-- The next log, in at most `rounds` rounds. -/
def nextWithin : Nat → Nat → Link → Pass (Except Error (Option Log)) × Link
  | 0, _, l => (.again, l)
  | rounds + 1, start, l =>
    match l.nextPass start with
    | (.again, l) => nextWithin rounds start l
    | r => r

/-- The next log. The feed ends once, so two rounds suffice. -/
def next (start : Nat) (l : Link) : Pass (Except Error (Option Log)) × Link := nextWithin 2 start l

/-- The text of the subscription in a diagnostic. -/
def describe (l : Link) : String :=
  "LogSubscription \x7b unsubscribed: " ++ (if l.isUnsubscribed then "true" else "false") ++ " \x7d"

/-! ## The feed -/

/-- The feed sees that it is to stop. -/
def quitArm : Arm Link (Poll Bool) := fun l =>
  match l.quit.poll with
  | (.ready _, quit) => some (.ready false, { l with quit := quit, watchesQuit := false })
  | (.pending, _) => none
  | (.misused, _) => some (.misused, l)

/-- The log is sent, or refused because the subscription is gone. -/
def sendArm (log : Log) : Arm Link (Poll Bool) := fun l =>
  match l.logs.pollSend log with
  | (.ready sent, logs) => some (.ready sent, { l with logs := logs })
  | (.pending, _) => none
  | (.misused, _) => some (.misused, l)

/-- Sends a log, waiting for room; false if the subscriber has asked to stop or is gone. -/
def send (start : Nat) (log : Log) (l : Link) : Poll Bool × Link :=
  if !l.watchesQuit then (.ready false, l)
  else
    match select start [quitArm, sendArm log] l with
    | some r => r
    | none => (.pending, l)

/-- Sends a log if there is room and a subscription. -/
def trySend (log : Log) (l : Link) : Bool × Link :=
  let (sent, logs) := l.logs.trySend log
  (sent, { l with logs := logs })

/-- Reports a failure; only the first one counts. -/
def fail (e : Error) (l : Link) : Link :=
  if l.canFail then { l with canFail := false, failure := l.failure.send e } else l

/-- Waits until the subscriber asks to stop or is gone. -/
def closed (l : Link) : Poll Unit × Link :=
  if !l.watchesQuit then (.ready (), l)
  else
    match l.quit.poll with
    | (.ready _, quit) => (.ready (), { l with quit := quit, watchesQuit := false })
    | (.pending, _) => (.pending, l)
    | (.misused, _) => (.misused, l)

/-- Whether the subscriber has asked to stop or is gone. -/
def isClosed (l : Link) : Bool × Link :=
  match l.closed with
  | (.ready _, l) => (true, l)
  | _ => (false, l)

/-- The feed lets go of the queue, the first step of its end. -/
def dropLogs (l : Link) : Link := { l with logs := l.logs.dropSender }

/-- The feed lets go of the other cells, the second step of its end. -/
def dropFailure (l : Link) : Link :=
  { l with failure := l.failure.abandon, canFail := false, watchesQuit := false }

/-- The feed goes away. -/
def finish (l : Link) : Link := l.dropLogs.dropFailure

/-- A subscription to logs that are at hand, whose feed is gone. -/
def ofLogs (logs : List Log) : Link :=
  (logs.foldl (fun l log => (l.trySend log).2) (connect logs.length)).finish

end Link

end AbiBindings.Stream
