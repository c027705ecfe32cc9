import AbiBindings.Stream.Link

/-!
# Watches

A watch is a task that decodes the logs of a subscription and puts the records into a queue of its
caller, the sink. It holds at most one record that is not in the sink. It ends when it is asked to,
when the sink has no reader, when the feed ends, or with the first error.

* `Watch.start`: a watch over a subscription.
* `Watch.pass`: one round of the task.
* `Watch.settle`: the watch when its task cannot go on.
* `Watch.stop`: the request to end.
-/

namespace AbiBindings.Stream

/-- Where the task of a watch stands. -/
inductive Task (ρ : Type) where
  /-- It waits for a log. -/
  | receiving
  /-- It holds a record for which the sink has to have room. -/
  | sending (record : ρ)
  | ended (result : Except Error Unit)

/-- A watch with its subscription and its sink. -/
structure Watch (ρ : Type) where
  link : Link
  sink : Channel ρ
  quit : OneShot Unit
  /-- Whether the task has not been asked to end. -/
  canQuit : Bool
  task : Task ρ

namespace Watch

/-- A watch over a subscription. -/
def start (l : Link) (sink : Channel ρ) : Watch ρ := ⟨l, sink, .waiting, true, .receiving⟩

/-- Asks the task to end; only the first time has an effect. -/
def stop (w : Watch ρ) : Watch ρ :=
  if w.canQuit then { w with canQuit := false, quit := w.quit.send () } else w

/-- Whether the task has ended. -/
def isFinished (w : Watch ρ) : Bool :=
  match w.task with
  | .ended _ => true
  | _ => false

/-- The task ends: it unsubscribes and lets go of subscription and sink. -/
def finish (w : Watch ρ) (result : Except Error Unit) : Watch ρ :=
  { w with link := w.link.dropSubscription, sink := w.sink.dropSender, task := .ended result }

/-- What happens to the task. -/
inductive Happening where
  | news (news : Link.News)
  /-- The record is in the sink, or was refused. -/
  | sent (accepted : Bool)

/-- Something happens to the subscription. -/
def onLink (arm : Arm Link Link.News) : Arm (Watch ρ) Happening := fun w =>
  (arm w.link).map fun r => (.news r.1, { w with link := r.2 })

/-- The task is asked to end. -/
def quitArm : Arm (Watch ρ) Happening := fun w =>
  match w.quit.poll with
  | (.ready _, quit) => some (.news .quit, { w with quit := quit })
  | (.pending, _) => none
  | (.misused, _) => some (.news .misused, w)

/-- The record goes into the sink, or the sink has no reader. -/
def sinkArm (record : ρ) : Arm (Watch ρ) Happening := fun w =>
  match w.sink.pollSend record with
  | (.ready accepted, sink) => some (.sent accepted, { w with sink := sink })
  | (.pending, _) => none
  | (.misused, _) => some (.news .misused, w)

/-- How the task ends when the queue of logs is closed. -/
def resultOf : Option Error → Except Error Unit
  | none => .ok ()
  | some e => .error e

/-- One round of waiting for a log. -/
def receivingPass (decode : Log → Except Error ρ) (start : Nat) (w : Watch ρ) :
    Pass Unit × Watch ρ :=
  match select start [onLink Link.logArm, onLink Link.endingArm, quitArm] w with
  | none => (.pending, w)
  | some (.news (.log log), w) =>
    match decode log with
    | .ok record => (.again, { w with task := .sending record })
    | .error e => (.done (), w.finish (.error e))
  | some (.news (.closed failure), w) => (.done (), w.finish (resultOf failure))
  | some (.news (.ended none), w) => (.again, w)
  | some (.news (.ended (some e)), w) => (.done (), w.finish (.error e))
  | some (.news .quit, w) => (.done (), w.finish (.ok ()))
  | some (.news .misused, w) => (.misused, w)
  | some (.sent _, w) => (.misused, w)

/-- One round of waiting for room in the sink. -/
def sendingPass (record : ρ) (start : Nat) (w : Watch ρ) : Pass Unit × Watch ρ :=
  match select start [sinkArm record, onLink Link.endingArm, quitArm] w with
  | none => (.pending, w)
  | some (.sent true, w) => (.again, { w with task := .receiving })
  | some (.sent false, w) => (.done (), w.finish (.ok ()))
  | some (.news (.ended none), w) => (.again, w)
  | some (.news (.ended (some e)), w) => (.done (), w.finish (.error e))
  | some (.news .quit, w) => (.done (), w.finish (.ok ()))
  | some (.news _, w) => (.misused, w)

/-- One round of the task. -/
def pass (decode : Log → Except Error ρ) (start : Nat) (w : Watch ρ) : Pass Unit × Watch ρ :=
  match w.task with
  | .receiving => w.receivingPass decode start
  | .sending record => w.sendingPass record start
  | .ended _ => (.done (), w)

/-- The task runs for at most `rounds` rounds. -/
def runFor (decode : Log → Except Error ρ) (start : Nat) : Nat → Watch ρ → Watch ρ
  | 0, w => w
  | rounds + 1, w =>
    match w.pass decode start with
    | (.again, w) => runFor decode start rounds w
    | (_, w) => w

/-- How many rounds the task can go before it has to wait: two for each log in the queue, and one
for the end of the feed. -/
def rounds (w : Watch ρ) : Nat := 2 * w.link.logs.items.length + 3

/-- The watch when its task cannot go on. -/
def settle (decode : Log → Except Error ρ) (start : Nat) (w : Watch ρ) : Watch ρ :=
  w.runFor decode start w.rounds

end Watch

end AbiBindings.Stream
