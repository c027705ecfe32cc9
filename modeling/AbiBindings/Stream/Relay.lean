import AbiBindings.Stream.Link

/-!
# Relays

A relay is the task that stands between a node and the feed of a subscription. It installs a log
filter at the node, hands on the logs that the node reports, and removes the filter when the
subscriber leaves.

* `Relay.start`: a relay that has asked the node to install its filter.
* `Relay.install`: the answer of the node; with it the subscriber learns whether there is a filter.
* `Relay.report`, `Relay.exhaust`: the node reports logs, or will report no more.
* `Relay.step`: one step of the task, from wherever it stands.
* `Relay.removed`: the answer to the removal of the filter, whatever it is.
-/

namespace AbiBindings.Stream

/-- The number of logs that wait for a subscriber. -/
def logBuffer : Nat := 128

/-- Where a relay stands. -/
inductive Relay.Stage where
  /-- It waits for the node to install its filter. -/
  | installing
  /-- It waits for a log of its filter. -/
  | listening (filter : Nat)
  /-- It holds a log for which the queue has to have room. -/
  | handing (filter : Nat) (log : Log)
  /-- It waits for the node to remove its filter. -/
  | removing (filter : Nat)
  | over
  deriving DecidableEq

/-- A relay with the subscription that it serves. -/
structure Relay where
  link : Link
  stage : Relay.Stage
  /-- What the subscriber is told about the installation. -/
  installed : OneShot (Except Error Unit)
  /-- The logs that the node has reported and the relay has not taken, the oldest first. -/
  reported : List Log
  /-- Whether the node will report no more. -/
  isExhausted : Bool
  /-- The filters whose removal was asked for, the oldest first. -/
  removals : List Nat

namespace Relay

/-- A relay that has asked the node to install its filter. -/
def start : Relay := ⟨.connect logBuffer, .installing, .waiting, [], false, []⟩

/-- The relay lets go of the feed and ends. -/
def finish (r : Relay) : Relay := { r with link := r.link.finish, stage := .over }

/-- The relay asks the node to remove its filter. -/
def remove (r : Relay) (filter : Nat) : Relay :=
  { r with stage := .removing filter, removals := r.removals ++ [filter] }

/-! ## What the node does -/

/-- The node answers the request for a filter. -/
def install (answer : Except Error Nat) (r : Relay) : Relay :=
  match r.stage, answer with
  | .installing, .ok filter =>
    { r with installed := r.installed.send (.ok ()), stage := .listening filter }
  | .installing, .error e => { r with installed := r.installed.send (.error e) }.finish
  | _, _ => r

/-- The node reports logs. -/
def report (logs : List Log) (r : Relay) : Relay :=
  if r.isExhausted then r else { r with reported := r.reported ++ logs }

/-- The node will report no more. -/
def exhaust (r : Relay) : Relay := { r with isExhausted := true }

/-- The node answers the request to remove the filter. -/
def removed (r : Relay) : Relay :=
  match r.stage with
  | .removing _ => r.finish
  | _ => r

/-! ## What the task does -/

/-- What happens to a relay that waits for a log. -/
inductive Happening where
  | left
  | log (log : Log)
  | ended
  deriving DecidableEq

/-- The subscriber leaves. -/
def leaveArm : Arm Relay Happening := fun r =>
  match r.link.closed with
  | (.ready _, l) => some (.left, { r with link := l })
  | _ => none

/-- A log comes, or none will come any more. -/
def reportArm : Arm Relay Happening := fun r =>
  match r.reported with
  | log :: rest => some (.log log, { r with reported := rest })
  | [] => if r.isExhausted then some (.ended, r) else none

/-- The relay takes a log or learns that there will be none. -/
def listen (filter start : Nat) (r : Relay) : Relay :=
  match select start [leaveArm, reportArm] r with
  | none => r
  | some (.left, r) => r.remove filter
  | some (.log log, r) => { r with stage := .handing filter log }
  | some (.ended, r) => { r with link := r.link.fail (.subscription .streamEnded) }.finish

/-- The relay hands a log to the feed. -/
def hand (filter : Nat) (log : Log) (start : Nat) (r : Relay) : Relay :=
  match r.link.send start log with
  | (.ready true, l) => { r with link := l, stage := .listening filter }
  | (.ready false, l) => { r with link := l }.remove filter
  | (_, l) => { r with link := l }

/-- One step of the task; it stands still where it has to wait. -/
def step (start : Nat) (r : Relay) : Relay :=
  match r.stage with
  | .listening filter => r.listen filter start
  | .handing filter log => r.hand filter log start
  | .installing | .removing _ | .over => r

/-- The relay after some steps of the task. -/
def steps (start : Nat) : Nat → Relay → Relay
  | 0, r => r
  | n + 1, r => steps start n (r.step start)

/-- The relay when its task cannot go on: two steps for each log, and one for what comes after. -/
def settle (start : Nat) (r : Relay) : Relay := r.steps start (2 * r.reported.length + 3)

end Relay

end AbiBindings.Stream
