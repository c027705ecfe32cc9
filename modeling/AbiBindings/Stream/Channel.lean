/-!
# Channels

The means by which two tasks talk, as seen at one moment: asking either yields something at once or
has to wait, and waiting changes nothing.

* `OneShot`: a cell that is filled at most once. `OneShot.poll` hands its content out once; to ask
  again after that is a misuse.
* `Channel`: a bounded queue. `Channel.pollSend` and `Channel.pollReceive` wait for room and for an
  item, `Channel.trySend` and `Channel.tryReceive` do not wait.
* `select`: the first of several ways that is ready, beginning at any of them.
-/

namespace AbiBindings.Stream

/-- What asking yields at one moment. -/
inductive Poll (α : Type) where
  | ready (value : α)
  | pending
  /-- What was asked for had been handed out before. -/
  | misused
  deriving Repr, DecidableEq

/-! ## Cells that are filled once -/

/-- A cell that is filled at most once. -/
inductive OneShot (α : Type) where
  | waiting
  | sent (value : α)
  /-- The sender went away without sending. -/
  | abandoned
  /-- The outcome was handed out. -/
  | taken
  deriving Repr, DecidableEq

namespace OneShot

/-- Fills a cell that is still waiting. -/
def send (value : α) : OneShot α → OneShot α
  | .waiting => .sent value
  | c => c

/-- The cell when its sender goes away. -/
def abandon : OneShot α → OneShot α
  | .waiting => .abandoned
  | c => c

/-- Whether asking would yield something. -/
def isSettled : OneShot α → Bool
  | .waiting => false
  | _ => true

/-- The outcome of the cell, if it is there: its content, or nothing if the sender went away. -/
def poll : OneShot α → Poll (Option α) × OneShot α
  | .waiting => (.pending, .waiting)
  | .sent value => (.ready (some value), .taken)
  | .abandoned => (.ready none, .taken)
  | .taken => (.misused, .taken)

end OneShot

/-! ## Bounded queues -/

/-- A bounded queue between one sender and one receiver. -/
structure Channel (α : Type) where
  capacity : Nat
  /-- What was sent and not yet received, the oldest first. -/
  items : List α
  hasSender : Bool
  hasReceiver : Bool
  deriving Repr, DecidableEq

namespace Channel

/-- An empty queue. -/
def empty (capacity : Nat) : Channel α := ⟨capacity, [], true, true⟩

/-- Whether there is room for one more item. -/
def hasRoom (c : Channel α) : Bool := c.items.length < c.capacity

/-- The queue with one more item. -/
def push (c : Channel α) (item : α) : Channel α := { c with items := c.items ++ [item] }

/-- Sends an item if there is room and a receiver. -/
def trySend (c : Channel α) (item : α) : Bool × Channel α :=
  if c.hasReceiver && c.hasRoom then (true, c.push item) else (false, c)

/-- Sends an item, waiting for room; without receiver it is refused. -/
def pollSend (c : Channel α) (item : α) : Poll Bool × Channel α :=
  if !c.hasReceiver then (.ready false, c)
  else if c.hasRoom then (.ready true, c.push item)
  else (.pending, c)

/-- Receives the oldest item, waiting for one; nothing comes when the sender is gone. -/
def pollReceive (c : Channel α) : Poll (Option α) × Channel α :=
  match c.items with
  | item :: rest => (.ready (some item), { c with items := rest })
  | [] => if c.hasSender then (.pending, c) else (.ready none, c)

/-- Receives the oldest item if there is one. -/
def tryReceive (c : Channel α) : Option α × Channel α :=
  match c.items with
  | item :: rest => (some item, { c with items := rest })
  | [] => (none, c)

/-- The queue when the sender goes away; what was sent stays. -/
def dropSender (c : Channel α) : Channel α := { c with hasSender := false }

/-- The queue when the receiver goes away, with all that was not received. -/
def dropReceiver (c : Channel α) : Channel α := { c with items := [], hasReceiver := false }

end Channel

/-! ## Waiting for several things -/

/-- A way to go on: what it yields and the state afterwards, if it is ready. -/
abbrev Arm (σ α : Type) := σ → Option (α × σ)

/-- The first ready way, asked in order from one of them on and round to those before it. -/
def select (start : Nat) (arms : List (Arm σ α)) (s : σ) : Option (α × σ) :=
  (arms.rotateLeft start).findSome? fun arm => arm s

end AbiBindings.Stream
